import Crater.Proofs.Clearing

/-!
# Switches

An explosion that only triggers flips switches. A switch is a block with the
built-in trigger and metadata 0 or 1; other metadata jams the trigger and makes
the commit fail. Everything else in the set stays as it is, nothing drops, and
since no voxel is emptied there is nowhere for a fire to burn.

Flipping writes a whole voxel, and the write brings no fluid along. A switch
under water is therefore dry once it has been flipped, and nothing but such
switches loses its fluid.
-/

namespace Crater

open CommitRules (reaction canBurn)

/-! ## Triggers -/

def Handler.isTrigger : Handler → Bool
  | trigger => true
  | dropSelf | noDrops | custom _ => false

namespace World

/-- Whether the block at a position has the built-in trigger. Air never reacts. -/
def hasTrigger (w : World) (p : Position) : Bool :=
  !(w.blockAt p).isAir && (w.blockAt p).handler.isTrigger

def isSwitch (w : World) (p : Position) : Bool :=
  w.hasTrigger p && decide ((w.voxel p).block.metadata ≤ 1)

/-- Whether a trigger stands at a position that cannot make sense of its metadata. -/
def isJammed (w : World) (p : Position) : Bool :=
  w.hasTrigger p && decide (1 < (w.voxel p).block.metadata)

def jam (w : World) (p : Position) : HandlerError :=
  .unsupportedState (w.blockAt p).name (w.voxel p).block.metadata

end World

/-- A switch in its other position, and no fluid around it. -/
def Voxel.flipped (v : Voxel) : Voxel := .ofBlock ⟨v.block.block, 1 - v.block.metadata⟩

namespace World

variable {w : World} {p : Position}

theorem not_isAir_of_isSwitch (h : w.isSwitch p = true) : (w.blockAt p).isAir = false := by
  simp only [isSwitch, hasTrigger, Bool.and_eq_true, Bool.not_eq_true'] at h
  exact h.1.1

end World

/-- What an explosion that only triggers wants at a position. -/
def World.triggered (w : World) (p : Position) : Except HandlerError HitResult :=
  if w.isJammed p then .error (w.jam p)
  else if w.isSwitch p then
    .ok ⟨[], some ⟨(w.voxel p).block.block, 1 - (w.voxel p).block.metadata⟩⟩
  else .ok .untouched

/-- **All that an explosion which only triggers wants**, where handlers are built in.
Nothing is drawn for it. -/
theorem CommitRules.reaction_triggerOnly {explosion : Explosion} {w : World}
    (hbuiltin : w.registry.UsesBuiltin) (hmode : explosion.interaction = .triggerOnly)
    (p : Position) (g : Generator) : reaction explosion w p g = (w.triggered p, g) := by
  have hidle : w.hasTrigger p = false → w.triggered p = .ok .untouched := by
    intro h
    simp [World.triggered, World.isJammed, World.isSwitch, h]
  obtain ⟨hempty, hwanted⟩ | ⟨-, hair, hwanted⟩ | ⟨-, hsolid, hwanted⟩ :=
    CommitRules.reaction_cases explosion w p <;> rw [hwanted]
  · rw [w.isEmptyVoxel_voxel, Bool.and_eq_true] at hempty
    rw [hidle (by simp [World.hasTrigger, hempty.1])]
    rfl
  · rw [hidle (by simp [World.hasTrigger, hair]), hmode]
    rfl
  · have hknown := hbuiltin.block (w.voxel p).block.block
    rw [← World.blockAt] at hknown
    cases hhandler : (w.blockAt p).handler with
    | dropSelf | noDrops =>
        rw [hidle (by simp [World.hasTrigger, hhandler, Handler.isTrigger])]
        simp only [Handler.react, Explosion.hitAt, hmode]
        rfl
    | trigger =>
        have htrigger : w.hasTrigger p = true := by
          simp [World.hasTrigger, hhandler, hsolid, Handler.isTrigger]
        simp only [Handler.react, Explosion.hitAt, hmode]
        rcases Nat.lt_or_ge 1 (w.voxel p).block.metadata with hlarge | hsmall
        · rw [if_pos hlarge, World.triggered,
            if_pos (by simp [World.isJammed, htrigger, hlarge])]
          rfl
        · rw [if_neg (by omega), World.triggered,
            if_neg (by simp [World.isJammed, htrigger, hsmall]),
            if_pos (by simp [World.isSwitch, htrigger, hsmall])]
          rfl
    | custom own =>
        rw [hhandler] at hknown
        cases hknown

/-! ## Conversions that trigger -/

/-- A world `w'` that differs from `w` in that the switches at some positions have been
flipped, except where writes are refused. -/
structure World.Flipped (ps : List Position) (w w' : World) : Prop where
  setting : SameSetting w w'
  drops : w'.drops = w.drops
  voxel : ∀ q, w'.voxel q = if q ∈ ps ∧ w.isWritable q = true ∧ w.isSwitch q = true
    then (w.voxel q).flipped else w.voxel q

namespace World.Flipped

variable {ps : List Position} {w w' : World}

theorem block_eq (h : Flipped ps w w') (q : Position) :
    (w'.voxel q).block.block = (w.voxel q).block.block := by
  rw [h.voxel]
  split <;> rfl

/-- Flipping empties no voxel. -/
theorem isEmptyVoxel_eq_false (h : Flipped ps w w') {q : Position}
    (hq : w.registry.isEmptyVoxel (w.voxel q) = false) :
    w'.registry.isEmptyVoxel (w'.voxel q) = false := by
  rw [h.setting.registry, h.voxel]
  split
  · next hflips =>
    have hsolid := not_isAir_of_isSwitch hflips.2.2
    simp only [blockAt] at hsolid
    simp [Registry.isEmptyVoxel, Voxel.flipped, Voxel.ofBlock, hsolid]
  · exact hq

end World.Flipped

namespace Converts

variable {explosion : Explosion} {w w' : World} {g g' : Generator} {log : List Conversion}

/-- A position for which nothing was wanted holds what it held. -/
theorem voxel_of_untouched (h : Converts explosion w g log w' g') (hnodup : (places log).Nodup)
    {c : Conversion} (hc : c ∈ log) (hnone : c.wanted.replacement = none) :
    w'.voxel c.position = w.voxel c.position := by
  induction h with
  | nil w g => cases hc
  | @cons w w₁ w' g g₁ g' p wanted granted log handled fulfilled later ih =>
      simp only [places, List.map_cons, List.nodup_cons] at hnodup
      rcases List.mem_cons.mp hc with rfl | hc
      · rw [later.voxel_of_notMem hnodup.1]
        rw [hnone] at fulfilled
        cases fulfilled
        rfl
      · have hne : c.position ≠ p := by
          intro heq
          exact hnodup.1 (heq ▸ List.mem_map_of_mem hc)
        exact (ih hnodup.2 hc).trans (World.voxel_of_fulfil_of_ne fulfilled hne)

/-- What each conversion of a log wanted, asked about the world before the log. -/
theorem triggers (h : Converts explosion w g log w' g') (hnodup : (places log).Nodup)
    (hbuiltin : w.registry.UsesBuiltin) (hmode : explosion.interaction = .triggerOnly) :
    ∀ c ∈ log, w.triggered c.position = .ok c.wanted ∧
      c.granted = (c.wanted.replacement.isNone || w.isWritable c.position) := by
  intro c hc
  obtain ⟨⟨g₀, hwanted⟩, hgranted⟩ := h.asked hnodup c hc
  rw [CommitRules.reaction_triggerOnly hbuiltin hmode] at hwanted
  exact ⟨hwanted, hgranted⟩

end Converts

/-- What a conversion that only triggers may have wanted. -/
theorem World.triggered_eq_ok {w : World} {p : Position} {wanted : HitResult}
    (h : w.triggered p = .ok wanted) : wanted.drops = [] ∧ w.isJammed p = false ∧
      wanted.replacement = if w.isSwitch p then
        some ⟨(w.voxel p).block.block, 1 - (w.voxel p).block.metadata⟩ else none := by
  unfold triggered at h
  split at h
  · cases h
  · next hjammed =>
    have hjammed : w.isJammed p = false := by simpa using hjammed
    split at h
    · next hswitch =>
      obtain rfl := Except.ok.inj h
      exact ⟨rfl, hjammed, by rw [if_pos hswitch]⟩
    · next hswitch =>
      obtain rfl := Except.ok.inj h
      exact ⟨rfl, hjammed, by rw [if_neg hswitch]; rfl⟩

theorem World.triggered_eq_error {w : World} {p : Position} {cause : HandlerError}
    (h : w.triggered p = .error cause) : w.isJammed p = true ∧ cause = w.jam p := by
  unfold triggered at h
  split at h
  · next hjammed => exact ⟨hjammed, (Except.error.inj h).symm⟩
  · split at h <;> cases h

namespace Converts

variable {explosion : Explosion} {w w' : World} {g g' : Generator} {log : List Conversion}

/-- **A log that triggers** flips the switches among its positions, except where writes
are refused. -/
theorem flipped (h : Converts explosion w g log w' g') (hnodup : (places log).Nodup)
    (hbuiltin : w.registry.UsesBuiltin) (hmode : explosion.interaction = .triggerOnly) :
    World.Flipped (places log) w w' := by
  refine ⟨h.sameSetting, h.drops_eq, ?_⟩
  intro q
  split
  · next hflips =>
    obtain ⟨hq, hw, hswitch⟩ := hflips
    obtain ⟨c, hc, rfl⟩ := List.mem_map.mp hq
    obtain ⟨hwanted, -⟩ := h.triggers hnodup hbuiltin hmode c hc
    obtain ⟨-, -, hreplacement⟩ := World.triggered_eq_ok hwanted
    rw [if_pos hswitch] at hreplacement
    exact h.voxel_of_mem hnodup hc hreplacement hw
  · next hkeeps =>
    by_cases hq : q ∈ places log
    · cases hw : w.isWritable q with
      | false => exact h.voxel_of_not_isWritable hw
      | true =>
          -- no switch stands here, so nothing was wanted
          obtain ⟨c, hc, rfl⟩ := List.mem_map.mp hq
          obtain ⟨hwanted, -⟩ := h.triggers hnodup hbuiltin hmode c hc
          obtain ⟨-, -, hreplacement⟩ := World.triggered_eq_ok hwanted
          rw [if_neg fun hswitch => hkeeps ⟨hq, hw, hswitch⟩] at hreplacement
          exact h.voxel_of_untouched hnodup hc hreplacement
    · exact h.voxel_of_notMem hq

end Converts

/-- Switches count as changed or as rejected, and nothing else counts. -/
theorem CommitSummary.foldl_count_triggered {log : List Conversion} {w : World}
    (hlog : ∀ c ∈ log, w.triggered c.position = .ok c.wanted ∧
      c.granted = (c.wanted.replacement.isNone || w.isWritable c.position)) :
    log.foldl count {} =
      { changed := (places log).countP fun p => w.isSwitch p && w.isWritable p
        rejected := (places log).countP fun p => w.isSwitch p && !w.isWritable p } := by
  have hcount : ∀ f : Bool → Bool,
      (log.countP fun c => c.wanted.replacement.isSome && f c.granted) =
        (places log).countP fun p => w.isSwitch p && f (w.isWritable p) := by
    intro f
    rw [places, List.countP_map]
    apply List.countP_congr
    intro c hc
    obtain ⟨hwanted, hgranted⟩ := hlog c hc
    obtain ⟨-, -, hreplacement⟩ := World.triggered_eq_ok hwanted
    rw [Function.comp, hgranted, hreplacement]
    cases w.isSwitch c.position <;> simp
  have hchanged := hcount id
  have hrejected := hcount not
  simp only [id] at hchanged
  rw [foldl_count, hchanged, hrejected]
  simp

/-! ## Commits that trigger -/

namespace CommitRules

/-- Where nothing was to drop, nothing falls. -/
theorem settled_of_no_drops (rules : CommitRules) (w : World) {log : List Conversion} (w' : World)
    (h : ∀ c ∈ log, c.wanted.drops = []) :
    rules.settled w log w' = (w', log.foldl CommitSummary.count {}) := by
  have hpile : ∀ pile : DropPile,
      log.foldl (fun pile c => pile.addAll c.earned c.position) pile = pile := by
    intro pile
    refine List.foldlRecOn log _ (motive := fun pile' => pile' = pile) rfl ?_
    rintro _ rfl c hc
    simp [Conversion.earned, h c hc, DropPile.addAll]
  rw [settled, CommitProgress.settle_eq]
  simp [CommitProgress.noteAll, hpile, DropPile.fallen, DropPile.contents, DropEntries.contents,
    CommitSummary.foldl_count]

/-- A fire pass over voxels that are not empty does nothing. -/
theorem burn_of_full (rules : CommitRules) (explosion : Explosion) {ps : List Position}
    (state : World × CommitSummary) (g : Generator)
    (hfull : ∀ p ∈ ps, state.1.registry.isEmptyVoxel (state.1.voxel p) = false) :
    (rules.burn explosion ps state g).1 = state := by
  unfold burn
  cases explosion.fireIn? state.1.registry with
  | none => rfl
  | some fire =>
      refine rules.ignite_induction (P := fun state' => state' = state) ps state g rfl ?_
      rintro p hp w s rfl
      have hburn : canBurn w p = false := by
        rw [← Bool.not_eq_true]
        intro hburn
        have hempty := isEmptyVoxel_of_canBurn hburn
        rw [hfull p hp] at hempty
        cases hempty
      rw [light, hburn]
      rfl

/-- **A commit that triggers.** It flips the switches at some positions of the set. Either
these are all of them, or the next position holds a jammed trigger and the commit fails
there. -/
theorem exists_flipped_commit (rules : CommitRules) {explosion : Explosion}
    {affected : AffectedSet} {w : World} (g : Generator) (hbuiltin : w.registry.UsesBuiltin)
    (hmode : explosion.interaction = .triggerOnly)
    (hused : ∀ p, affected.contains p = true → w.registry.isEmptyVoxel (w.voxel p) = false) :
    ∃ reached rest, (reached ++ rest).Perm affected.toList ∧
      (∀ p ∈ reached, w.isJammed p = false) ∧
      World.Flipped reached w (rules.commit explosion affected w g).1.world ∧
      ((rest = [] ∧ (rules.commit explosion affected w g).1.result = .ok
          { changed := affected.toList.countP fun p => w.isSwitch p && w.isWritable p
            rejected := affected.toList.countP fun p => w.isSwitch p && !w.isWritable p }) ∨
        ∃ p later, rest = p :: later ∧ w.isJammed p = true ∧
          (rules.commit explosion affected w g).1.result = .error ⟨p, w.jam p⟩) := by
  have hkeep : explosion.interaction ≠ .keep := by
    rw [hmode]
    decide
  obtain ⟨order, log, w', g₂, hperm, hconv, hend⟩ := rules.commit_cases affected w g hkeep
  have hnodup : order.Nodup := hperm.nodup_iff.mpr affected.nodup_toList
  obtain ⟨rest, rfl⟩ : ∃ rest, order = places log ++ rest := by
    rcases hend with ⟨hall, -⟩ | ⟨p, later, -, -, hall, -⟩
    · exact ⟨[], by rw [List.append_nil, hall]⟩
    · exact ⟨p :: later, hall⟩
  have hlog := hconv.triggers (List.nodup_append.mp hnodup).1 hbuiltin hmode
  have hflipped := hconv.flipped (List.nodup_append.mp hnodup).1 hbuiltin hmode
  have hsettled : rules.settled w log w' = (w', log.foldl CommitSummary.count {}) :=
    rules.settled_of_no_drops w w' fun c hc => (World.triggered_eq_ok (hlog c hc).1).1
  have hjammed : ∀ p ∈ places log, w.isJammed p = false := by
    intro p hp
    obtain ⟨c, hc, rfl⟩ := List.mem_map.mp hp
    exact (World.triggered_eq_ok (hlog c hc).1).2.1
  refine ⟨places log, rest, hperm, hjammed, ?_⟩
  rw [hsettled] at hend
  rcases hend with ⟨hall, final, g₃, hburn, hcommit⟩ | ⟨p, later, cause, g₃, hall, hfail, hcommit⟩
  · obtain rfl : rest = [] := List.append_right_eq_self.mp hall
    have hfull : ∀ p ∈ places log ++ [], w'.registry.isEmptyVoxel (w'.voxel p) = false := fun p hp =>
      hflipped.isEmptyVoxel_eq_false (hused p (AffectedSet.mem_toList.mp (hperm.mem_iff.mp hp)))
    have hnofire :=
      rules.burn_of_full explosion (w', log.foldl CommitSummary.count {}) g₂ hfull
    rw [hburn] at hnofire
    obtain rfl : final = _ := hnofire
    rw [hcommit]
    refine ⟨hflipped, .inl ⟨rfl, ?_⟩⟩
    rw [CommitSummary.foldl_count_triggered hlog]
    rw [List.append_nil] at hperm
    rw [hperm.countP_eq, hperm.countP_eq]
  · obtain rfl : rest = p :: later := List.append_cancel_left hall
    have hp : p ∉ places log := fun hmem =>
      (List.nodup_append.mp hnodup).2.2 p hmem p List.mem_cons_self rfl
    rw [reaction_congr explosion hconv.sameSetting (hconv.voxel_of_notMem hp),
      reaction_triggerOnly hbuiltin hmode] at hfail
    obtain ⟨hjam, rfl⟩ := World.triggered_eq_error (congrArg Prod.fst hfail)
    rw [hcommit]
    exact ⟨hflipped, .inr ⟨p, later, rfl, hjam, rfl⟩⟩

end CommitRules

/-! ## What triggering leaves alone -/

/-- Whether a blast that reaches the voxels of a set can flip a switch at a position. -/
def World.canFlip (w : World) (affected : AffectedSet) (p : Position) : Bool :=
  affected.contains p && w.isWritable p && w.isSwitch p

/-- What a blast that only triggers makes of a world `w`, if it is to reach the voxels of a
set. -/
structure Triggered (affected : AffectedSet) (w : World) (outcome : CommitOutcome) : Prop where
  setting : World.SameSetting w outcome.world
  drops : outcome.world.drops = w.drops
  /-- Every voxel keeps its kind of block. -/
  block : ∀ p, (outcome.world.voxel p).block.block = (w.voxel p).block.block
  /-- Switches may be flipped, and nothing else changes. -/
  voxel : ∀ p, outcome.world.voxel p = w.voxel p ∨
    w.canFlip affected p = true ∧ outcome.world.voxel p = (w.voxel p).flipped
  /-- Fluids stay where no switch under them is flipped. -/
  fluid : ∀ p, (w.canFlip affected p = true → (w.voxel p).fluid = .empty) →
    (outcome.world.voxel p).fluid = (w.voxel p).fluid
  /-- A commit that succeeds flips every switch it can, and neither drops nor lights
  anything. -/
  succeeded : ∀ summary, outcome.result = .ok summary →
    (∀ p, w.canFlip affected p = true → outcome.world.voxel p = (w.voxel p).flipped) ∧
    summary = { changed := affected.toList.countP fun p => w.isSwitch p && w.isWritable p
                rejected := affected.toList.countP fun p => w.isSwitch p && !w.isWritable p }
  /-- A commit fails at a jammed trigger, and only there. -/
  failed : ∀ fault, outcome.result = .error fault →
    affected.contains fault.position = true ∧ w.isJammed fault.position = true ∧
      fault.cause = w.jam fault.position

namespace CommitRules

/-- **A blast that only triggers** flips switches, as far as it gets and where writes are
accepted. Nothing else about the world changes but for the fluid around these switches. -/
theorem triggered_commit (rules : CommitRules) {explosion : Explosion} {affected : AffectedSet}
    {w : World} (g : Generator) (hbuiltin : w.registry.UsesBuiltin)
    (hmode : explosion.interaction = .triggerOnly)
    (hused : ∀ p, affected.contains p = true → w.registry.isEmptyVoxel (w.voxel p) = false) :
    Triggered affected w (rules.commit explosion affected w g).1 := by
  obtain ⟨reached, rest, hperm, -, hflipped, hend⟩ :=
    rules.exists_flipped_commit g hbuiltin hmode hused
  have hmem : ∀ p, p ∈ reached ++ rest ↔ affected.contains p = true := by
    intro p
    rw [hperm.mem_iff, AffectedSet.mem_toList]
  have hvoxel : ∀ p, (rules.commit explosion affected w g).1.world.voxel p = w.voxel p ∨
      w.canFlip affected p = true ∧
        (rules.commit explosion affected w g).1.world.voxel p = (w.voxel p).flipped := by
    intro p
    rw [hflipped.voxel]
    split
    · next hflips =>
      obtain ⟨hp, hw, hswitch⟩ := hflips
      have hp := (hmem p).mp (List.mem_append_left rest hp)
      exact .inr ⟨by simp [World.canFlip, hp, hw, hswitch], rfl⟩
    · exact .inl rfl
  constructor
  case setting => exact hflipped.setting
  case drops => exact hflipped.drops
  case block => exact hflipped.block_eq
  case voxel => exact hvoxel
  case fluid =>
    intro p hdry
    rcases hvoxel p with hsame | ⟨hflips, hsame⟩
    · rw [hsame]
    · rw [hsame, hdry hflips]
      rfl
  case succeeded =>
    intro summary hok
    rcases hend with ⟨rfl, hresult⟩ | ⟨p, later, -, -, hresult⟩
    · rw [hresult] at hok
      refine ⟨?_, (Except.ok.inj hok).symm⟩
      intro p hflips
      simp only [World.canFlip, Bool.and_eq_true] at hflips
      obtain ⟨⟨hp, hw⟩, hswitch⟩ := hflips
      have hp := (hmem p).mpr hp
      rw [List.append_nil] at hp
      rw [hflipped.voxel, if_pos ⟨hp, hw, hswitch⟩]
    · rw [hresult] at hok
      cases hok
  case failed =>
    intro fault hfault
    rcases hend with ⟨-, hresult⟩ | ⟨p, later, rfl, hjam, hresult⟩
    · rw [hresult] at hfault
      cases hfault
    · rw [hresult] at hfault
      obtain rfl := Except.error.inj hfault
      exact ⟨(hmem p).mp (by simp), hjam, rfl⟩

end CommitRules

/-! ## A switch under water -/

/-- A world with one button, which stands under water. -/
def World.wetButton : World :=
  ((World.empty .builtin {}).placeVoxel ⟨0, 0, 0⟩ ⟨⟨⟨11⟩, 0⟩, .source ⟨1⟩⟩).2

def AffectedSet.origin : AffectedSet := empty.insert ⟨0, 0, 0⟩

theorem AffectedSet.contains_origin {p : Position} :
    origin.contains p = true ↔ p = ⟨0, 0, 0⟩ := by
  rw [origin, contains_insert, not_contains_empty]
  simp

theorem World.voxel_wetButton :
    wetButton.voxel ⟨0, 0, 0⟩ = ⟨⟨⟨11⟩, 0⟩, .source ⟨1⟩⟩ := by
  have haccepts : (World.empty .builtin {}).grid.range.accepts ⟨0, 0, 0⟩ = true := by decide
  exact Grid.get_set_self _ haccepts

theorem World.isSwitch_wetButton : wetButton.isSwitch ⟨0, 0, 0⟩ = true := by
  rw [isSwitch, hasTrigger, blockAt, voxel_wetButton]
  rfl

theorem World.isWritable_wetButton : wetButton.isWritable ⟨0, 0, 0⟩ = true := by
  have hfree : wetButton.isGuarded ⟨0, 0, 0⟩ = false := Std.HashSet.contains_empty
  have haccepts : wetButton.grid.range.accepts ⟨0, 0, 0⟩ = true := by decide
  rw [isWritable, hfree, haccepts]
  rfl

/-- The button is no empty voxel. -/
theorem World.isEmptyVoxel_wetButton {p : Position} (h : AffectedSet.origin.contains p = true) :
    wetButton.registry.isEmptyVoxel (wetButton.voxel p) = false := by
  obtain rfl := AffectedSet.contains_origin.mp h
  rw [voxel_wetButton]
  rfl

namespace CommitRules

/-- A blast that triggers the button under water. -/
theorem triggered_commit_wetButton : World.wetButton.registry.UsesBuiltin ∧
    Explosion.pulse.interaction = .triggerOnly ∧
    (∀ p, AffectedSet.origin.contains p = true →
      World.wetButton.registry.isEmptyVoxel (World.wetButton.voxel p) = false) ∧
    Triggered .origin .wetButton
      (CommitRules.commit ⟨16, 3⟩ .pulse .origin .wetButton (.ofSeed 1)).1 :=
  ⟨by decide, by decide, fun _ => World.isEmptyVoxel_wetButton,
    triggered_commit _ _ (by decide) (by decide) fun _ => World.isEmptyVoxel_wetButton⟩

/-- **A blast that only triggers may take a fluid away**: the water around the button is
gone once the button has been flipped. -/
theorem fluid_commit_wetButton_ne : World.wetButton.registry.UsesBuiltin ∧
    Explosion.pulse.interaction = .triggerOnly ∧
    (∀ p, AffectedSet.origin.contains p = true →
      World.wetButton.registry.isEmptyVoxel (World.wetButton.voxel p) = false) ∧
    ((CommitRules.commit ⟨16, 3⟩ .pulse .origin .wetButton (.ofSeed 1)).1.world.voxel
      ⟨0, 0, 0⟩).fluid ≠ (World.wetButton.voxel ⟨0, 0, 0⟩).fluid := by
  refine ⟨by decide, by decide, fun _ => World.isEmptyVoxel_wetButton, ?_⟩
  obtain ⟨reached, rest, hperm, -, hflipped, hend⟩ :=
    @exists_flipped_commit ⟨16, 3⟩ .pulse .origin .wetButton (.ofSeed 1) (by decide) (by decide)
      fun _ => World.isEmptyVoxel_wetButton
  have hmem : ∀ p, p ∈ reached ++ rest ↔ p = ⟨0, 0, 0⟩ := by
    intro p
    rw [hperm.mem_iff, AffectedSet.mem_toList, AffectedSet.contains_origin]
  have hreached : ⟨0, 0, 0⟩ ∈ reached := by
    rcases hend with ⟨rfl, -⟩ | ⟨p, later, rfl, hjam, -⟩
    · exact List.append_nil reached ▸ (hmem _).mpr rfl
    · -- the button is the only candidate, and it is not jammed
      obtain rfl := (hmem p).mp (by simp)
      rw [World.isJammed, World.voxel_wetButton] at hjam
      simp at hjam
  rw [hflipped.voxel, if_pos ⟨hreached, World.isWritable_wetButton, World.isSwitch_wetButton⟩,
    World.voxel_wetButton]
  decide

end CommitRules

end Crater
