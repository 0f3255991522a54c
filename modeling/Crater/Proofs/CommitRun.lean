import Crater.Proofs.Affected
import Crater.Proofs.Burning

/-!
# Runs of a commit

A commit is a run of conversions, after which the gathered drops fall, and then
a fire pass unless a handler failed. `commit_cases` takes a commit apart into
these three.
-/

namespace Crater

def DropPile.fallen (pile : DropPile) : List (ItemStack × Vec3) :=
  pile.entries.map fun (stack, p) => (stack, p.center)

theorem DropPile.map_fst_fallen (pile : DropPile) : pile.fallen.map Prod.fst = pile.contents := by
  simp [fallen, contents, DropEntries.contents, Function.comp_def]

namespace CommitProgress

theorem foldl_settle : ∀ (entries : DropEntries) (w : World) (s : CommitSummary),
    entries.foldl (fun (world, summary) (stack, p) =>
      (world.dropItem stack p.center,
        { summary with dropped := summary.dropped + 1, items := summary.items + stack.count }))
      (w, s) =
      ({ w with drops := w.drops ++ entries.map fun (stack, p) => (stack, p.center) },
        { s with
          dropped := s.dropped + entries.length
          items := s.items + tally .all entries.contents })
  | [], w, s => by simp [DropEntries.contents]
  | (stack, p) :: rest, w, s => by
      rw [List.foldl_cons, foldl_settle rest]
      simp only [World.dropItem, DropEntries.contents, List.map_cons, List.length_cons, tally_all,
        List.sum_cons, Prod.mk.injEq, World.mk.injEq, CommitSummary.mk.injEq, and_true, true_and]
      refine ⟨?_, by omega, by omega⟩
      simp

/-- When drops fall, the world gains the stacks of the pile and nothing else, and
the summary counts them. -/
theorem settle_eq (progress : CommitProgress) : progress.settle =
    ({ progress.world with drops := progress.world.drops ++ progress.pile.fallen },
      { progress.summary with
        dropped := progress.summary.dropped + progress.pile.fallen.length
        items := progress.summary.items + tally .all progress.pile.contents }) := by
  rw [settle, foldl_settle]
  simp [DropPile.fallen, DropPile.contents]

theorem tally_noteAll (select : Selection) : ∀ (log : List Conversion)
    (progress : CommitProgress) (world : World),
    tally select (progress.noteAll log world).pile.contents =
      tally select progress.pile.contents + tally select (earnings log)
  | [], _, _ => rfl
  | c :: log, progress, world => by
      rw [← noteAll_cons progress c log world world, tally_noteAll select log]
      simp only [note, DropPile.tally_addAll, earnings, List.flatMap_cons, tally_append]
      omega

end CommitProgress

namespace CommitSummary

/-- Conversions count replacements and refusals, and nothing else. -/
theorem foldl_count : ∀ (log : List Conversion) (s : CommitSummary),
    log.foldl count s =
      { s with
        changed := s.changed +
          log.countP fun c => c.wanted.replacement.isSome && c.granted
        rejected := s.rejected +
          log.countP fun c => c.wanted.replacement.isSome && !c.granted }
  | [], s => rfl
  | c :: log, s => by
      rw [List.foldl_cons, foldl_count log, List.countP_cons, List.countP_cons]
      obtain ⟨p, ⟨drops, _ | state⟩, _ | _⟩ := c <;> simp [count] <;> omega

end CommitSummary

/-- The block that an explosion lights: none if it lights no fires or there is no
block for them. -/
def Explosion.fireIn? (explosion : Explosion) (registry : Registry) : Option BlockId :=
  if explosion.fire then registry.fireBlock? else none

def Explosion.fireless (explosion : Explosion) : Explosion := { explosion with fire := false }

namespace CommitRules

/-- The fire pass of a commit: none without a block for its fires. -/
def burn (rules : CommitRules) (explosion : Explosion) (order : List Position)
    (state : World × CommitSummary) : Draw (World × CommitSummary) :=
  match explosion.fireIn? state.1.registry with
  | none => pure state
  | some fire => ignite rules fire order state

/-- What is left of a commit when the drops have fallen: the fire pass, unless a handler
failed. -/
def finish (rules : CommitRules) (explosion : Explosion) (order : List Position)
    (fault : Option CommitFault) (state : World × CommitSummary) : Draw CommitOutcome :=
  match fault with
  | some fault => pure ⟨state.1, .error fault⟩
  | none => do
    let (world, summary) ← rules.burn explosion order state
    pure ⟨world, .ok summary⟩

/-- The state in which a log leaves a commit once the drops have fallen. -/
def settled (rules : CommitRules) (w : World) (log : List Conversion) (w' : World) :
    World × CommitSummary :=
  (CommitProgress.noteAll { world := w, pile := { cap := rules.mergeCap } } log w').settle

section
variable (rules : CommitRules) (w : World) (log : List Conversion) (w' : World)

theorem sameSetting_settled : World.SameSetting w' (rules.settled w log w').1 := by
  rw [settled, CommitProgress.settle_eq]
  exact ⟨rfl, rfl, rfl, rfl, rfl⟩

theorem voxel_settled (q : Position) : (rules.settled w log w').1.voxel q = w'.voxel q := by
  rw [settled, CommitProgress.settle_eq]
  rfl

/-- What falls is what was earned, and the summary counts it. -/
theorem settled_eq : ∃ emitted : List (ItemStack × Vec3),
    (∀ select, tally select (emitted.map Prod.fst) = tally select (earnings log)) ∧
    (rules.settled w log w').1.drops = w'.drops ++ emitted ∧
    (rules.settled w log w').2 =
      { log.foldl CommitSummary.count {} with
        dropped := emitted.length
        items := tally .all (emitted.map Prod.fst) } := by
  refine ⟨(CommitProgress.noteAll { world := w, pile := { cap := rules.mergeCap } } log
    w').pile.fallen, ?_, ?_, ?_⟩
  · intro select
    rw [DropPile.map_fst_fallen, CommitProgress.tally_noteAll]
    simp [DropPile.contents, DropEntries.contents]
  · rw [settled, CommitProgress.settle_eq]
    rfl
  · rw [settled, CommitProgress.settle_eq, DropPile.map_fst_fallen]
    simp [CommitProgress.noteAll, CommitSummary.foldl_count]

end

theorem burnt_burn (rules : CommitRules) (explosion : Explosion) (order : List Position)
    (state : World × CommitSummary) (g : Generator) :
    Burnt (explosion.fireIn? state.1.registry) order state
      (rules.burn explosion order state g).1 := by
  unfold burn
  cases explosion.fireIn? state.1.registry with
  | none => exact .refl _ _ _
  | some fire => exact rules.burnt_ignite fire order state g

/-- A commit opened: shuffle, convert, settle and finish. -/
theorem commit_eq (rules : CommitRules) {explosion : Explosion} (affected : AffectedSet)
    (w : World) {g g₁ g₂ : Generator} {xs : Array Position} {progress : CommitProgress}
    {fault : Option CommitFault} (hmode : explosion.interaction ≠ .keep)
    (hshuffle : Draw.shuffle affected.toList.toArray g = (xs, g₁))
    (hrun : convert explosion xs.toList { world := w, pile := { cap := rules.mergeCap } } g₁ =
      ((progress, fault), g₂)) :
    rules.commit explosion affected w g =
      rules.finish explosion xs.toList fault progress.settle g₂ := by
  -- `commit` is opened once, here; all else about it is said of its parts
  rw [commit, if_neg hmode, Draw.bind_apply, hshuffle, Draw.bind_apply, hrun]
  cases fault with
  | some fault => rfl
  | none =>
      simp only [finish, burn, Explosion.fireIn?]
      generalize (if explosion.fire = true then _ else none) = fire?
      cases fire? <;> rfl

/-- A commit whose conversions are a log over the shuffled positions. -/
theorem commit_of_converts (rules : CommitRules) {explosion : Explosion} {affected : AffectedSet}
    {w w' : World} {g g₁ g₂ : Generator} {xs : Array Position} {log : List Conversion}
    (hmode : explosion.interaction ≠ .keep)
    (hshuffle : Draw.shuffle affected.toList.toArray g = (xs, g₁))
    (hconv : Converts explosion w g₁ log w' g₂) (hplaces : places log = xs.toList) :
    rules.commit explosion affected w g =
      rules.finish explosion (places log) none (rules.settled w log w') g₂ := by
  rw [hplaces]
  apply rules.commit_eq affected w hmode hshuffle
  rw [← hplaces]
  exact convert_of_converts hconv _ rfl

/-- Without fires a commit ends when the drops have fallen. -/
theorem finish_of_fire_eq_false (rules : CommitRules) {explosion : Explosion}
    (hfire : explosion.fire = false) (order : List Position) (state : World × CommitSummary)
    (g : Generator) : rules.finish explosion order none state g = (⟨state.1, .ok state.2⟩, g) := by
  simp only [finish, burn, Explosion.fireIn?, hfire]
  rfl

/-- **A commit taken apart.** The positions of the set are put in some order and
converted along a log. If the log covers them all, the drops fall and the fire
pass follows. Else the handler of the next position fails, the drops fall and the
commit ends. -/
theorem commit_cases (rules : CommitRules) {explosion : Explosion} (affected : AffectedSet)
    (w : World) (g : Generator) (hmode : explosion.interaction ≠ .keep) :
    ∃ order log w' g₂, order.Perm affected.toList ∧
      Converts explosion w (Draw.shuffle affected.toList.toArray g).2 log w' g₂ ∧
      ((order = places log ∧ ∃ final g₃,
        rules.burn explosion order (rules.settled w log w') g₂ = (final, g₃) ∧
        rules.commit explosion affected w g = (⟨final.1, .ok final.2⟩, g₃)) ∨
      ∃ p later cause g₃, order = places log ++ p :: later ∧
        reaction explosion w' p g₂ = (.error cause, g₃) ∧
        rules.commit explosion affected w g =
          (⟨(rules.settled w log w').1, .error ⟨p, cause⟩⟩, g₃)) := by
  rcases hshuffle : Draw.shuffle affected.toList.toArray g with ⟨xs, g₁⟩
  obtain ⟨log, w', g₂, hconv, hend⟩ := convert_cases explosion xs.toList
    { world := w, pile := { cap := rules.mergeCap } } g₁
  refine ⟨xs.toList, log, w', g₂, Draw.perm_of_shuffle hshuffle, hconv, ?_⟩
  rcases hend with ⟨hall, hrun⟩ | ⟨p, later, cause, g₃, hsplit, hfail, hrun⟩
  · exact .inl ⟨hall, _, _, rfl, rules.commit_eq affected w hmode hshuffle hrun⟩
  · exact .inr ⟨p, later, cause, g₃, hsplit, hfail, rules.commit_eq affected w hmode hshuffle hrun⟩

/-- **What carries through a commit** to the world that it leaves: it holds if nothing is
done, it holds when the drops of a log have fallen, and no fire pass spoils it. -/
theorem commit_induction (rules : CommitRules) {explosion : Explosion} (affected : AffectedSet)
    (w : World) (g : Generator) {P : World → Prop} (hkeep : P w)
    (hsettled : ∀ log w' g₁ g₂, (∀ q ∈ places log, affected.contains q = true) →
      Converts explosion w g₁ log w' g₂ → P (rules.settled w log w').1)
    (hburnt : ∀ (ps : List Position) (before after : World × CommitSummary),
      (∀ q ∈ ps, affected.contains q = true) → World.SameSetting w before.1 →
      Burnt (explosion.fireIn? w.registry) ps before after → P before.1 → P after.1) :
    P (rules.commit explosion affected w g).1.world := by
  by_cases hmode : explosion.interaction = .keep
  · rw [commit, if_pos hmode]
    exact hkeep
  · obtain ⟨order, log, w', g₂, hperm, hconv, hend⟩ := rules.commit_cases affected w g hmode
    have horder : ∀ q ∈ order, affected.contains q = true := fun q hq =>
      AffectedSet.mem_toList.mp (hperm.mem_iff.mp hq)
    rcases hend with ⟨rfl, final, g₃, hburn, hcommit⟩ | ⟨p, later, cause, g₃, rfl, -, hcommit⟩
    · have hsetting := hconv.sameSetting.trans (rules.sameSetting_settled w log w')
      have hpass := rules.burnt_burn explosion (places log) (rules.settled w log w') g₂
      rw [hburn, hsetting.registry] at hpass
      rw [hcommit]
      exact hburnt _ _ _ horder hsetting hpass (hsettled log w' _ g₂ horder hconv)
    · rw [hcommit]
      exact hsettled log w' _ g₂ (fun q hq => horder q (List.mem_append_left _ hq)) hconv

end CommitRules

/-! ## What a commit leaves alone -/

/-- What a commit over a set leaves alone: all that is not a voxel or a drop, and the
voxels that are not in the set or are guarded. -/
structure CommitFrame (affected : AffectedSet) (w w' : World) : Prop where
  setting : World.SameSetting w w'
  spared : ∀ q, affected.contains q = false ∨ w.isGuarded q = true → w'.voxel q = w.voxel q

theorem Converts.frame {explosion : Explosion} {affected : AffectedSet} {w w' : World}
    {g g' : Generator} {log : List Conversion} (h : Converts explosion w g log w' g')
    (hlog : ∀ q ∈ places log, affected.contains q = true) : CommitFrame affected w w' := by
  refine ⟨h.sameSetting, ?_⟩
  rintro q (hq | hq)
  · apply h.voxel_of_notMem
    intro hmem
    rw [hlog q hmem] at hq
    cases hq
  · exact h.voxel_of_not_isWritable (World.isWritable_of_isGuarded hq)

namespace CommitFrame

variable {affected : AffectedSet} {w w' : World}

theorem refl (affected : AffectedSet) (w : World) : CommitFrame affected w w :=
  ⟨.refl w, fun _ _ => rfl⟩

theorem settled (h : CommitFrame affected w w') (rules : CommitRules) (log : List Conversion) :
    CommitFrame affected w (rules.settled w log w').1 :=
  ⟨h.setting.trans (rules.sameSetting_settled w log w'),
    fun q hq => (rules.voxel_settled w log w' q).trans (h.spared q hq)⟩

theorem burnt {fire? : Option BlockId} {ps : List Position} {before after : World × CommitSummary}
    (h : CommitFrame affected w before.1) (hburnt : Burnt fire? ps before after)
    (hps : ∀ q ∈ ps, affected.contains q = true) : CommitFrame affected w after.1 := by
  refine ⟨h.setting.trans hburnt.setting, ?_⟩
  intro q hq
  have hskip : q ∉ ps ∨ before.1.isWritable q = false := by
    rcases hq with hq | hq
    · left
      intro hmem
      rw [hps q hmem] at hq
      cases hq
    · right
      rw [h.setting.isWritable]
      exact World.isWritable_of_isGuarded hq
  exact (hburnt.spared q hskip).trans (h.spared q hq)

end CommitFrame

theorem CommitRules.frame_commit (rules : CommitRules) (explosion : Explosion)
    (affected : AffectedSet) (w : World) (g : Generator) :
    CommitFrame affected w (rules.commit explosion affected w g).1.world := by
  refine rules.commit_induction affected w g (.refl affected w) ?_ ?_
  · intro log w' g₁ g₂ hlog hconv
    exact (hconv.frame hlog).settled rules log
  · intro ps before after hps _ hburnt hframe
    exact hframe.burnt hburnt hps

end Crater
