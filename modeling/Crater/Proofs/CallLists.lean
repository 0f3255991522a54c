import Crater.Proofs.Notices

/-!
# Lists of calls

All that a commit does to a world, it does by calls: writes for the conversions,
then the drops, then writes for the fires. Here these calls are listed, and the
commit is the world carrying them out. Neither the list nor the result depends
on the bus or on what was played before, so worlds that differ only there are
twins and stay twins.
-/

namespace Crater

/-- Two worlds that differ at most in the effects they played and in their buses. -/
def World.Twin (w w' : World) : Prop := ∃ effects bus, w' = w.showing effects bus

namespace World.Twin

variable {w w' : World}

theorem refl (w : World) : Twin w w := ⟨w.effects, w.bus, rfl⟩

theorem eq_showing (h : Twin w w') : w' = w.showing w'.effects w'.bus := by
  obtain ⟨effects, bus, rfl⟩ := h
  rfl

/-- **Twins stay twins** under the same calls. -/
theorem obeyAll (h : Twin w w') (calls : List WorldCall) :
    Twin (w.obeyAll calls) (w'.obeyAll calls) := by
  obtain ⟨effects, bus, rfl⟩ := h
  exact ⟨_, _, w.obeyAll_showing effects bus calls⟩

theorem setVoxel_fst (h : Twin w w') (p : Position) (state : BlockState) (flags : WriteFlags) :
    (w'.setVoxel p state flags).1 = (w.setVoxel p state flags).1 := by
  obtain ⟨effects, bus, rfl⟩ := h
  rw [setVoxel_showing]

end World.Twin

/-! ## Conversions -/

def fulfilCalls (p : Position) : Option BlockState → List WorldCall
  | none => []
  | some state => [.store (.setVoxel p state .standard)]

theorem World.obeyAll_fulfilCalls (w : World) (p : Position) (replacement : Option BlockState) :
    w.obeyAll (fulfilCalls p replacement) = (w.fulfil p replacement).2 := by
  cases replacement <;> rfl

theorem World.Twin.fulfil_fst {w w' : World} (h : Twin w w') (p : Position)
    (replacement : Option BlockState) :
    (w'.fulfil p replacement).1 = (w.fulfil p replacement).1 := by
  cases replacement with
  | none => rfl
  | some state => exact h.setVoxel_fst p state .standard

def CommitProgress.within (progress : CommitProgress) (world : World) : CommitProgress :=
  { progress with world }

namespace CommitRules

def convertCalls (explosion : Explosion) : List Position → World → Generator → List WorldCall
  | [], _, _ => []
  | p :: rest, w, g =>
    match reaction explosion w p g with
    | (.error _, _) => []
    | (.ok wanted, g) =>
      let calls := fulfilCalls p wanted.replacement
      calls ++ convertCalls explosion rest (w.obeyAll calls) g

theorem reaction_twin {w w' : World} (h : World.Twin w w') (explosion : Explosion)
    (p : Position) : reaction explosion w' p = reaction explosion w p := by
  obtain ⟨effects, bus, rfl⟩ := h
  rfl

theorem apply_within {progress : CommitProgress} {w : World} (h : World.Twin progress.world w)
    (p : Position) (wanted : HitResult) :
    (progress.within w).apply p wanted =
      (progress.apply p wanted).within (w.obeyAll (fulfilCalls p wanted.replacement)) := by
  rw [CommitProgress.apply_eq, CommitProgress.apply_eq, World.obeyAll_fulfilCalls,
    ← h.fulfil_fst p wanted.replacement]
  rfl

/-- **Converting is carrying out its calls**, in any twin of the world. -/
theorem convert_within (explosion : Explosion) : ∀ (ps : List Position)
    {progress : CommitProgress} {w : World} (g : Generator), World.Twin progress.world w →
      convert explosion ps (progress.within w) g =
        (((convert explosion ps progress g).1.1.within
            (w.obeyAll (convertCalls explosion ps progress.world g)),
          (convert explosion ps progress g).1.2), (convert explosion ps progress g).2)
  | [], progress, w, g, _ => rfl
  | p :: rest, progress, w, g, h => by
      have hsame : reaction explosion (progress.within w).world p =
          reaction explosion progress.world p := reaction_twin h explosion p
      rw [convert, convert, Draw.bind_apply, Draw.bind_apply, hsame, convertCalls]
      rcases hreact : reaction explosion progress.world p g with ⟨cause | wanted, g₁⟩
      · rfl
      · have hworld : (progress.apply p wanted).world =
            progress.world.obeyAll (fulfilCalls p wanted.replacement) := by
          rw [World.obeyAll_fulfilCalls, CommitProgress.apply_eq]
          rfl
        have hlater := convert_within explosion rest g₁
          (hworld ▸ h.obeyAll (fulfilCalls p wanted.replacement))
        simp only [apply_within h, hlater, World.obeyAll_append, hworld]

end CommitRules

/-! ## Drops -/

def DropPile.calls (pile : DropPile) : List WorldCall :=
  pile.fallen.map fun (stack, position) => .drop stack position

theorem World.obeyAll_drops (w : World) (fallen : List (ItemStack × Vec3)) :
    w.obeyAll (fallen.map fun (stack, position) => .drop stack position) =
      { w with drops := w.drops ++ fallen } := by
  induction fallen generalizing w with
  | nil => simp [obeyAll]
  | cons first rest ih =>
      rw [List.map_cons, obeyAll_cons, ih]
      simp [obey, dropItem]

theorem CommitProgress.settle_within (progress : CommitProgress) (w : World) :
    (progress.within w).settle = (w.obeyAll progress.pile.calls, progress.settle.2) := by
  rw [settle_eq, settle_eq, DropPile.calls, World.obeyAll_drops]
  rfl

/-! ## Fires -/

namespace CommitRules

/-- The calls that light a fire at a position, if one can burn there. -/
def lightCalls (fire : BlockId) (p : Position) (w : World) : List WorldCall :=
  if canBurn w p then [.store (.setVoxel p ⟨fire, 0⟩ .standard)] else []

def igniteCalls (rules : CommitRules) (fire : BlockId) :
    List Position → World → Generator → List WorldCall
  | [], _, _ => []
  | p :: rest, w, g =>
    let (drawn, g) := Draw.below rules.ignitionChance g
    let calls := if drawn = 0 then lightCalls fire p w else []
    calls ++ igniteCalls rules fire rest (w.obeyAll calls) g

theorem light_twin {w w' : World} (h : World.Twin w w') (fire : BlockId) (p : Position)
    (s : CommitSummary) :
    light fire p w' s = (w'.obeyAll (lightCalls fire p w), (light fire p w s).2) := by
  have hburn : canBurn w' p = canBurn w p := by
    obtain ⟨effects, bus, rfl⟩ := h
    rfl
  simp only [light, lightCalls, hburn, h.setVoxel_fst]
  split <;> rfl

/-- **Lighting fires is carrying out their calls**, in any twin of the world. -/
theorem ignite_twin (rules : CommitRules) (fire : BlockId) : ∀ (ps : List Position)
    {w w' : World} (s : CommitSummary) (g : Generator), World.Twin w w' →
      rules.ignite fire ps (w', s) g =
        ((w'.obeyAll (rules.igniteCalls fire ps w g), (rules.ignite fire ps (w, s) g).1.2),
          (rules.ignite fire ps (w, s) g).2)
  | [], _, _, _, _, _ => rfl
  | p :: rest, w, w', s, g, h => by
      rw [ignite, ignite, Draw.bind_apply, Draw.bind_apply, igniteCalls]
      rcases Draw.below rules.ignitionChance g with ⟨drawn, g₁⟩
      by_cases hdrawn : drawn = 0
      · have hlight : light fire p w s =
            (w.obeyAll (lightCalls fire p w), (light fire p w s).2) := light_twin (.refl w) fire p s
        have hlater := ignite_twin rules fire rest (light fire p w s).2 g₁
          (h.obeyAll (lightCalls fire p w))
        rw [← hlight] at hlater
        simp only [hdrawn, if_true, light_twin h, hlater, World.obeyAll_append]
      · simp only [hdrawn, if_false, List.nil_append]
        exact ignite_twin rules fire rest s g₁ h

def burnCalls (rules : CommitRules) (explosion : Explosion) (order : List Position) (w : World)
    (g : Generator) : List WorldCall :=
  match explosion.fireIn? w.registry with
  | none => []
  | some fire => rules.igniteCalls fire order w g

theorem burn_twin (rules : CommitRules) (explosion : Explosion) (order : List Position)
    {w w' : World} (s : CommitSummary) (g : Generator) (h : World.Twin w w') :
    rules.burn explosion order (w', s) g =
      ((w'.obeyAll (rules.burnCalls explosion order w g),
        (rules.burn explosion order (w, s) g).1.2), (rules.burn explosion order (w, s) g).2) := by
  have hregistry : w'.registry = w.registry := by
    obtain ⟨effects, bus, rfl⟩ := h
    rfl
  simp only [burn, burnCalls, hregistry]
  cases explosion.fireIn? w.registry with
  | none => rfl
  | some fire => exact rules.ignite_twin fire order s g h

/-! ## Commits -/

def finishCalls (rules : CommitRules) (explosion : Explosion) (order : List Position)
    (fault : Option CommitFault) (w : World) (g : Generator) : List WorldCall :=
  match fault with
  | some _ => []
  | none => rules.burnCalls explosion order w g

theorem finish_twin (rules : CommitRules) (explosion : Explosion) (order : List Position)
    (fault : Option CommitFault) {w w' : World} (s : CommitSummary) (g : Generator)
    (h : World.Twin w w') :
    rules.finish explosion order fault (w', s) g =
      (⟨w'.obeyAll (rules.finishCalls explosion order fault w g),
        (rules.finish explosion order fault (w, s) g).1.result⟩,
        (rules.finish explosion order fault (w, s) g).2) := by
  cases fault with
  | some fault => rfl
  | none =>
      simp only [finish, finishCalls, Draw.bind_apply, rules.burn_twin explosion order s g h]
      rfl

def commitCalls (rules : CommitRules) (explosion : Explosion) (affected : AffectedSet)
    (w : World) (g : Generator) : List WorldCall :=
  if explosion.interaction = .keep then []
  else
    let (xs, g) := Draw.shuffle affected.toList.toArray g
    let ((progress, fault), g') :=
      convert explosion xs.toList { world := w, pile := { cap := rules.mergeCap } } g
    let calls := convertCalls explosion xs.toList w g ++ progress.pile.calls
    calls ++ rules.finishCalls explosion xs.toList fault (w.obeyAll calls) g'

section
variable (rules : CommitRules) {explosion : Explosion} (affected : AffectedSet) (w : World)
  {g g₁ g₂ : Generator} {xs : Array Position} {progress : CommitProgress}
  {fault : Option CommitFault}

theorem commitCalls_eq (hmode : explosion.interaction ≠ .keep)
    (hshuffle : Draw.shuffle affected.toList.toArray g = (xs, g₁))
    (hrun : convert explosion xs.toList { world := w, pile := { cap := rules.mergeCap } } g₁ =
      ((progress, fault), g₂)) :
    rules.commitCalls explosion affected w g =
      (convertCalls explosion xs.toList w g₁ ++ progress.pile.calls) ++
        rules.finishCalls explosion xs.toList fault
          (w.obeyAll (convertCalls explosion xs.toList w g₁ ++ progress.pile.calls)) g₂ := by
  rw [commitCalls, if_neg hmode, hshuffle]
  simp only [hrun]

end

/-- **A commit is carrying out its calls**, in any twin of the world, and its result is the
same in all of them. -/
theorem commit_twin (rules : CommitRules) (explosion : Explosion) (affected : AffectedSet)
    {w w' : World} (g : Generator) (h : World.Twin w w') :
    rules.commit explosion affected w' g =
      (⟨w'.obeyAll (rules.commitCalls explosion affected w g),
        (rules.commit explosion affected w g).1.result⟩,
        (rules.commit explosion affected w g).2) := by
  by_cases hmode : explosion.interaction = .keep
  · simp only [commit, commitCalls, if_pos hmode]
    rfl
  · rcases hshuffle : Draw.shuffle affected.toList.toArray g with ⟨xs, g₁⟩
    rcases hrun : convert explosion xs.toList { world := w, pile := { cap := rules.mergeCap } } g₁
      with ⟨⟨progress, fault⟩, g₂⟩
    -- in every twin, converting and settling comes to the calls made so far
    have hsettle : ∀ {w'}, World.Twin w w' →
        rules.commit explosion affected w' g = rules.finish explosion xs.toList fault
          (w'.obeyAll (convertCalls explosion xs.toList w g₁ ++ progress.pile.calls),
            progress.settle.2) g₂ := by
      intro w' h
      have hother := @convert_within explosion xs.toList
        { world := w, pile := { cap := rules.mergeCap } } w' g₁ h
      rw [hrun] at hother
      rw [rules.commit_eq affected w' hmode hshuffle hother, CommitProgress.settle_within,
        World.obeyAll_append]
    rw [hsettle h, hsettle (.refl w), rules.commitCalls_eq affected w hmode hshuffle hrun,
      rules.finish_twin explosion _ fault _ g₂ (h.obeyAll _), ← World.obeyAll_append]

/-- What was played before a commit is what was played after it, and makes no difference
to anything else. -/
theorem commit_showing (rules : CommitRules) (explosion : Explosion) (affected : AffectedSet)
    (w : World) (g : Generator) (effects : Array Effect) (bus : Option EventBus) :
    ∃ bus', rules.commit explosion affected (w.showing effects bus) g =
      (⟨(rules.commit explosion affected w g).1.world.showing effects bus',
        (rules.commit explosion affected w g).1.result⟩,
        (rules.commit explosion affected w g).2) := by
  have htwin : World.Twin w (w.showing effects bus) := ⟨effects, bus, rfl⟩
  have hother := rules.commit_twin explosion affected g htwin
  have hworld : (rules.commit explosion affected w g).1.world =
      w.obeyAll (rules.commitCalls explosion affected w g) :=
    congrArg (·.1.world) (rules.commit_twin explosion affected g (.refl w))
  have heffects := (rules.frame_commit explosion affected (w.showing effects bus) g).setting.effects
  have hend := (htwin.obeyAll (rules.commitCalls explosion affected w g)).eq_showing
  rw [hother] at heffects
  rw [show World.effects _ = effects from heffects, ← hworld] at hend
  exact ⟨_, by rw [hother, ← hend]⟩

end CommitRules

end Crater
