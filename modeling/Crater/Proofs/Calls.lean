import Crater.Detonation
import Crater.Proofs.CommitRun

/-!
# Calls

The calls that take an explosion through its life, each with what it can do to
the detonation and to its world. Detonating either fails to end a ray, and then
nothing happens, or hits entities and leaves the rest of the world alone;
finalizing plays the effects and commits, and leaves entities alone.
-/

namespace Crater

/-! ## Frames -/

/-- The same voxels and drops, and the same rules for them. -/
structure World.SameGround (w w' : World) : Prop where
  registry : w'.registry = w.registry
  grid : w'.grid = w.grid
  guarded : w'.guarded = w.guarded
  drops : w'.drops = w.drops

namespace World.SameGround

variable {w w' : World}

theorem refl (w : World) : SameGround w w := ⟨rfl, rfl, rfl, rfl⟩

theorem trans {a b c : World} (hab : SameGround a b) (hbc : SameGround b c) : SameGround a c :=
  ⟨hbc.registry.trans hab.registry, hbc.grid.trans hab.grid, hbc.guarded.trans hab.guarded,
    hbc.drops.trans hab.drops⟩

theorem voxel (h : SameGround w w') (p : Position) : w'.voxel p = w.voxel p := by
  rw [World.voxel, World.voxel, h.grid]

theorem isGuarded (h : SameGround w w') (p : Position) : w'.isGuarded p = w.isGuarded p := by
  rw [World.isGuarded, World.isGuarded, h.guarded]

end World.SameGround

theorem World.play_eq (w : World) (effect : Effect) :
    ∃ bus, w.play effect = { w with effects := w.effects.push effect, bus } :=
  publish_eq { w with effects := w.effects.push effect } (.effect effect)

namespace Detonation

/-- Delivering impacts changes entities only. -/
theorem deliver_eq (source : DamageSource) (report : ImpactReport) (w : World) :
    ∃ population, deliver source report w = { w with population } := by
  unfold deliver
  induction report.impacts generalizing w with
  | nil => exact ⟨w.population, rfl⟩
  | cons impact rest ih =>
      obtain ⟨population, hrest⟩ :=
        ih (w.strike impact.entity source impact.damage impact.impulse).2
      exact ⟨population, hrest⟩

/-- Presenting an explosion changes what was played and what waits on the bus. -/
theorem present_eq (d : Detonation) (particles : Bool) (pitch : Float32) (w : World) :
    ∃ effects bus, d.present particles pitch w = { w with effects, bus } := by
  simp only [present]
  obtain ⟨bus, hsound⟩ := w.play_eq
    (.sound d.explosion.effects.sound d.explosion.center d.config.soundVolume pitch)
  rw [hsound]
  cases particles with
  | false => exact ⟨_, bus, rfl⟩
  | true =>
      obtain ⟨bus', hparticle⟩ := World.play_eq _
        (.particle d.particle d.explosion.center ⟨1.0, 0.0, 0.0⟩)
      exact ⟨_, bus', hparticle⟩

theorem sameGround_deliver (source : DamageSource) (report : ImpactReport) (w : World) :
    World.SameGround w (deliver source report w) := by
  obtain ⟨population, h⟩ := deliver_eq source report w
  rw [h]
  exact ⟨rfl, rfl, rfl, rfl⟩

theorem sameGround_present (d : Detonation) (particles : Bool) (pitch : Float32) (w : World) :
    World.SameGround w (d.present particles pitch w) := by
  obtain ⟨effects, bus, h⟩ := d.present_eq particles pitch w
  rw [h]
  exact ⟨rfl, rfl, rfl, rfl⟩

/-! ## What a call does -/

theorem create_eq (explosion : Explosion) {config : Config}
    (h : config.validate = .ok ()) :
    create explosion config = .ok { explosion, config, validate_config := h } := by
  unfold create
  split
  · rfl
  · next fault hfault =>
    rw [h] at hfault
    cases hfault

theorem explosion_of_create {explosion : Explosion} {config : Config} {d : Detonation}
    (h : create explosion config = .ok d) : d.explosion = explosion := by
  unfold create at h
  split at h
  · obtain rfl := Except.ok.inj h
    rfl
  · cases h

/-- The detonation after its rays have been traced and its entities hit. -/
def struck (d : Detonation) (affected : AffectedSet) (w : World) : Detonation :=
  { d with phase := .detonated, affected, report := d.impacts w }

/-- **All that a blast can do**: nothing, if a ray has no end, or strike. -/
theorem blast_cases (d : Detonation) (w : World) (g : Generator) :
    (((RayFan.ofConfig d.config).trace d.explosion w.terrain g).1 = none ∧
      (d.blast w g).1 = ⟨d, w, .error .endlessRay⟩) ∨
    ∃ affected, ((RayFan.ofConfig d.config).trace d.explosion w.terrain g).1 = some affected ∧
      (d.blast w g).1 =
        ⟨d.struck affected w, deliver d.explosion.damageSource (d.impacts w) w, .ok ()⟩ := by
  rw [blast, Draw.bind_apply]
  cases htrace : ((RayFan.ofConfig d.config).trace d.explosion w.terrain g).1 with
  | none => exact .inl ⟨rfl, rfl⟩
  | some affected => exact .inr ⟨affected, rfl, rfl⟩

def drawPitch : Draw Float32 := do
  let first ← Draw.fraction
  let second ← Draw.fraction
  pure (pitch first second)

/-- A detonation finalized, whatever became of its commit. -/
def closed (d : Detonation) (outcome : CommitOutcome) : DetonationOutcome CommitSummary :=
  ⟨{ d with phase := .finalized }, outcome.world, outcome.result.mapError CommitFault.failure⟩

/-- Finalizing opened: draw the pitch, present, commit. -/
theorem finalize_eq_closed (d : Detonation) (g : Generator) (hphase : d.phase = .detonated)
    (particles : Bool) (w : World) :
    d.finalize particles w g =
      ((CommitRules.ofConfig d.config).commit d.explosion d.affected
        (d.present particles (drawPitch g).1 w) (drawPitch g).2).map d.closed id := by
  unfold finalize
  rw [if_pos hphase]
  rfl

/-- **All that finalizing does**: effects are played, then voxels are committed, and
whatever becomes of that, the explosion is finalized. -/
theorem finalize_eq (d : Detonation) (particles : Bool) (w : World) (g : Generator)
    (hphase : d.phase = .detonated) :
    ∃ pitch g₁, d.finalize particles w g =
      (⟨{ d with phase := .finalized },
        ((CommitRules.ofConfig d.config).commit d.explosion d.affected
          (d.present particles pitch w) g₁).1.world,
        ((CommitRules.ofConfig d.config).commit d.explosion d.affected
          (d.present particles pitch w) g₁).1.result.mapError CommitFault.failure⟩,
      ((CommitRules.ofConfig d.config).commit d.explosion d.affected
          (d.present particles pitch w) g₁).2) :=
  ⟨_, _, d.finalize_eq_closed g hphase particles w⟩

end Detonation

/-! ## Calls as data -/

inductive Call where
  | detonate
  | detonateUnless (veto : Explosion → Bool)
  | spareVoxels
  | finalize (particles : Bool)

/-- The only phase in which a call is in turn. -/
def Call.turn : Call → Phase
  | detonate | detonateUnless _ => .created
  | spareVoxels | finalize _ => .detonated

/-- Whether a call starts a blast: it asks to detonate, and its veto does not stand
against it. -/
def Call.Starts (explosion : Explosion) : Call → Prop
  | detonate => True
  | detonateUnless veto => veto explosion = false
  | spareVoxels | finalize _ => False

theorem Call.Starts.turn {explosion : Explosion} {call : Call} (h : call.Starts explosion) :
    call.turn = .created := by
  cases call with
  | detonate | detonateUnless => rfl
  | spareVoxels | finalize => cases h

def Call.operation : Call → Operation
  | detonate | detonateUnless _ => .detonate
  | spareVoxels => .clear
  | finalize _ => .finalize

inductive Answer where
  /-- Whether the explosion was detonated, or else called off. -/
  | detonated (went : Bool)
  | spared
  | finalized (summary : CommitSummary)

def DetonationOutcome.map {α β : Type} (f : α → β) (outcome : DetonationOutcome α) :
    DetonationOutcome β :=
  ⟨outcome.detonation, outcome.world, outcome.result.map f⟩

namespace Detonation

def perform (d : Detonation) (w : World) : Call → Draw (DetonationOutcome Answer)
  | .detonate => DetonationOutcome.map (fun _ => .detonated true) <$> d.detonate w
  | .detonateUnless veto => DetonationOutcome.map .detonated <$> d.detonateUnless veto w
  | .spareVoxels =>
    match d.spareVoxels with
    | .ok d => pure ⟨d, w, .ok .spared⟩
    | .error failure => pure ⟨d, w, .error failure⟩
  | .finalize particles => DetonationOutcome.map .finalized <$> d.finalize particles w

/-- **What can come of a call**: the cases that there are. -/
inductive Performed (d : Detonation) (w : World) (g : Generator) (call : Call) :
    DetonationOutcome Answer × Generator → Prop
  | refused (early : d.phase ≠ call.turn) :
      Performed d w g call (⟨d, w, .error (.invalidState call.operation d.phase)⟩, g)
  | endless (turn : d.phase = call.turn) (started : call.Starts d.explosion) (g' : Generator) :
      Performed d w g call (⟨d, w, .error .endlessRay⟩, g')
  | struck (turn : d.phase = call.turn) (started : call.Starts d.explosion)
      (affected : AffectedSet) (g' : Generator) :
      Performed d w g call (⟨d.struck affected w,
        deliver d.explosion.damageSource (d.impacts w) w, .ok (.detonated true)⟩, g')
  | vetoed (turn : d.phase = call.turn) (veto : Explosion → Bool)
      (asked : call = .detonateUnless veto) (fires : veto d.explosion = true) :
      Performed d w g call (⟨{ d with phase := .cancelled }, w, .ok (.detonated false)⟩, g)
  | spared (turn : d.phase = call.turn) (asked : call = .spareVoxels) :
      Performed d w g call (⟨{ d with affected := .empty }, w, .ok .spared⟩, g)
  | finalized (turn : d.phase = call.turn) (particles : Bool) (asked : call = .finalize particles)
      (pitch : Float32) (rules : CommitRules) (outcome : CommitOutcome) (g₁ g' : Generator)
      (committed : rules.commit d.explosion d.affected (d.present particles pitch w) g₁ =
        (outcome, g')) :
      Performed d w g call (⟨{ d with phase := .finalized }, outcome.world,
        (outcome.result.mapError CommitFault.failure).map .finalized⟩, g')

variable (d : Detonation) (w : World) (g : Generator)

/-- Without a veto against it, an explosion is just detonated. -/
theorem perform_detonateUnless {veto : Explosion → Bool} (hveto : veto d.explosion = false) :
    d.perform w (.detonateUnless veto) = d.perform w .detonate := by
  funext g
  simp only [perform, Draw.map_apply, detonate, detonateUnless]
  by_cases hphase : d.phase = .created
  · rw [if_pos hphase, if_pos hphase, if_neg (by simp [hveto]), Draw.bind_apply]
    rcases d.blast w g with ⟨⟨d', w', failure | _⟩, g'⟩ <;> rfl
  · rw [if_neg hphase, if_neg hphase]
    rfl

theorem performed_blast {call : Call} (hturn : d.phase = call.turn)
    (hstarted : call.Starts d.explosion)
    (hrun : d.perform w call g =
      (DetonationOutcome.map (fun _ => .detonated true) (d.blast w g).1, (d.blast w g).2)) :
    Performed d w g call (d.perform w call g) := by
  rw [hrun]
  rcases d.blast_cases w g with ⟨-, hblast⟩ | ⟨affected, -, hblast⟩
  · rw [hblast]
    exact .endless hturn hstarted _
  · rw [hblast]
    exact .struck hturn hstarted affected _

theorem performed (call : Call) : Performed d w g call (d.perform w call g) := by
  cases call with
  | detonate =>
      by_cases hphase : d.phase = .created
      · refine d.performed_blast w g hphase trivial ?_
        rw [perform, Draw.map_apply, detonate, if_pos hphase]
      · rw [perform, Draw.map_apply, detonate, if_neg hphase]
        exact .refused hphase
  | detonateUnless veto =>
      by_cases hphase : d.phase = .created
      · cases hveto : veto d.explosion with
        | true =>
            rw [perform, Draw.map_apply, detonateUnless, if_pos hphase, if_pos hveto]
            exact .vetoed hphase veto rfl hveto
        | false =>
            refine d.performed_blast w g hphase hveto ?_
            rw [d.perform_detonateUnless w hveto, perform, Draw.map_apply, detonate, if_pos hphase]
      · rw [perform, Draw.map_apply, detonateUnless, if_neg hphase]
        exact .refused hphase
  | spareVoxels =>
      by_cases hphase : d.phase = .detonated
      · rw [perform, spareVoxels, if_pos hphase]
        exact .spared hphase rfl
      · rw [perform, spareVoxels, if_neg hphase]
        exact .refused hphase
  | finalize particles =>
      by_cases hphase : d.phase = .detonated
      · obtain ⟨pitch, g₁, hrun⟩ := d.finalize_eq particles w g hphase
        rw [perform, Draw.map_apply, hrun]
        exact .finalized hphase particles rfl pitch _ _ g₁ _ rfl
      · rw [perform, Draw.map_apply, finalize, if_neg hphase]
        exact .refused hphase

/-- One call changes the voxels and drops of a world at most by a commit. -/
theorem perform_ground (call : Call) :
    World.SameGround w (d.perform w call g).1.world ∨
    ∃ (rules : CommitRules) (w₁ : World) (g₁ : Generator), World.SameGround w w₁ ∧
      (d.perform w call g).1.world = (rules.commit d.explosion d.affected w₁ g₁).1.world := by
  have h := d.performed w g call
  generalize d.perform w call g = made at h ⊢
  cases h with
  | refused | endless | vetoed | spared => exact .inl (.refl w)
  | struck => exact .inl (sameGround_deliver _ _ w)
  | finalized turn particles asked pitch rules outcome g₁ g' committed =>
      refine .inr ⟨rules, _, g₁, d.sameGround_present particles pitch w, ?_⟩
      rw [committed]

theorem perform_explosion (call : Call) :
    (d.perform w call g).1.detonation.explosion = d.explosion := by
  have h := d.performed w g call
  generalize d.perform w call g = made at h ⊢
  cases h <;> rfl

end Detonation

end Crater
