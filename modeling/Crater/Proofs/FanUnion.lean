import Crater.Proofs.Doubles
import Crater.Proofs.Tracing

/-!
# The union of single rays

A traced set is the union of what each ray of the fan destroys when it marches
alone, from the centre and with the power that its own draw gives it. No ray
changes what another one meets: rays share nothing but the order in which their
powers are drawn.
-/

namespace Crater

/-! ## Draws -/

namespace Generator

theorem skip_zero (g : Generator) : g.skip 0 = g := rfl

theorem skip_skip (g : Generator) (m n : ℕ) : (g.skip m).skip n = g.skip (m + n) := by
  simp [skip, Nat.add_assoc]

end Generator

theorem Draw.fraction_eq (g : Generator) :
    Draw.fraction g = (Draw.fractionOf (g.word g.drawn), g.skip 1) := rfl

/-- A radius that is valid is zero or positive. -/
theorem radius_pos_iff {radius : Float32} (h : validRadius radius = true) :
    radius > 0.0 ↔ ¬ radius ≤ 0.0 := by
  rw [validRadius, Bool.and_eq_true] at h
  have hnan : Numeral.isNaN radius = false := Numeral.isNaN_of_isFinite h.1
  show 0.0 < radius ↔ _
  rw [Numeral.lt_iff, Numeral.le_iff, and_iff_right ⟨rfl, hnan⟩, and_iff_right ⟨hnan, rfl⟩, not_le]

/-! ## Rules -/

/-- A step destroys its voxel if the ray has power left and the rules agree. -/
theorem March.destroyed_step_iff {m : March} {ray : Ray} :
    (m.step ray).destroyed = true ↔ (m.step ray).powerAfter > 0.0 ∧
      m.rules.destroys (m.step ray).powerAfter (m.step ray).position = true := by
  rw [show (m.step ray).destroyed = (decide ((m.step ray).powerAfter > 0.0) &&
    m.rules.destroys (m.step ray).powerAfter (m.step ray).position) from rfl, Bool.and_eq_true,
    decide_eq_true_eq]

theorem ResistanceStrategy.destroys_rules_iff {strategy : ResistanceStrategy} {terrain : Terrain}
    {power : Float32} {p : Position} :
    (strategy.rules terrain).destroys power p = true ↔
      terrain.registry.isEmptyVoxel (terrain.voxel p) = false ∧
      ∀ entity r, strategy = .entityDerived entity r →
        r.shouldDestroy p (terrain.voxel p)
          (terrain.registry.block (terrain.voxel p).block.block) power = true := by
  simp only [rules]
  cases terrain.registry.isEmptyVoxel (terrain.voxel p) with
  | true => simp
  | false =>
      cases strategy with
      | registry => simp
      | entityDerived entity r => simp

/-! ## Single rays -/

namespace RayFan

variable {config : Config} {explosion : Explosion} {terrain : Terrain}

theorem startPower_ofConfig (config : Config) (radius drawn : Float32) :
    (ofConfig config).startPower radius drawn =
      radius * (config.powerJitterMin + drawn * config.powerJitterSpan) := rfl

/-- The steps of the ray with number `i` when it marches alone, in a direction and with a share of
the radius that draw number `i` decides. -/
def alone (config : Config) (explosion : Explosion) (terrain : Terrain) (rules : RayRules)
    (g : Generator) (i : ℕ) (direction : Vec3) : Option (Array RayStep) :=
  let drawn := (Draw.fraction (g.skip i)).1
  ((ofConfig config).march terrain rules direction).steps?
    ⟨explosion.center,
      explosion.radius * (config.powerJitterMin + drawn * config.powerJitterSpan)⟩

def DestroysAlone (config : Config) (explosion : Explosion) (terrain : Terrain) (rules : RayRules)
    (g : Generator) (directions : List Vec3) (p : Position) : Prop :=
  ∃ i direction steps, directions[i]? = some direction ∧
    alone config explosion terrain rules g i direction = some steps ∧
      ∃ s ∈ steps, s.destroyed = true ∧ s.position = p

variable {rules : RayRules}

theorem alone_succ (g : Generator) (i : ℕ) (direction : Vec3) :
    alone config explosion terrain rules g (i + 1) direction =
      alone config explosion terrain rules (g.skip 1) i direction := by
  rw [alone, alone, Generator.skip_skip, Nat.add_comm]

theorem destroysAlone_cons {g : Generator} {direction : Vec3} {rest : List Vec3} {p : Position} :
    DestroysAlone config explosion terrain rules g (direction :: rest) p ↔
      (∃ steps, alone config explosion terrain rules g 0 direction = some steps ∧
        ∃ s ∈ steps, s.destroyed = true ∧ s.position = p) ∨
      DestroysAlone config explosion terrain rules (g.skip 1) rest p := by
  constructor
  · rintro ⟨i, d, steps, hd, hsteps, hs⟩
    cases i with
    | zero =>
        obtain rfl := Option.some.inj hd
        exact .inl ⟨steps, hsteps, hs⟩
    | succ i =>
        rw [alone_succ] at hsteps
        exact .inr ⟨i, d, steps, hd, hsteps, hs⟩
  · rintro (⟨steps, hsteps, hs⟩ | ⟨i, d, steps, hd, hsteps, hs⟩)
    · exact ⟨0, direction, steps, rfl, hsteps, hs⟩
    · exact ⟨i + 1, d, steps, hd, by rwa [alone_succ], hs⟩

/-- One ray is sent, and then the rest with the draws that follow. -/
theorem traceFrom_cons (directions : List Vec3) (direction : Vec3) (affected : AffectedSet)
    (g : Generator) :
    (ofConfig config).traceFrom explosion terrain rules (direction :: directions) affected g =
      match alone config explosion terrain rules g 0 direction with
      | none => (none, g.skip 1)
      | some steps =>
        (ofConfig config).traceFrom explosion terrain rules directions (record affected steps)
          (g.skip 1) := by
  rw [traceFrom, Draw.bind_apply, alone, Generator.skip_zero, Draw.fraction_eq,
    startPower_ofConfig]
  split <;> simp_all [Draw.pure_apply]

theorem forall_alone_cons {g : Generator} {direction : Vec3} {rest : List Vec3} :
    (∀ i d, (direction :: rest)[i]? = some d →
      (alone config explosion terrain rules g i d).isSome = true) ↔
    (alone config explosion terrain rules g 0 direction).isSome = true ∧
      ∀ i d, rest[i]? = some d →
        (alone config explosion terrain rules (g.skip 1) i d).isSome = true := by
  constructor
  · intro h
    refine ⟨h 0 direction rfl, ?_⟩
    intro i d hd
    rw [← alone_succ]
    exact h (i + 1) d hd
  · rintro ⟨hfirst, hrest⟩ i d hd
    cases i with
    | zero =>
        obtain rfl := Option.some.inj hd
        exact hfirst
    | succ i =>
        rw [alone_succ]
        exact hrest i d hd

/-- Rays leave a set if each of them ends when it marches alone. -/
theorem isSome_traceFrom_iff (directions : List Vec3) (affected : AffectedSet) (g : Generator) :
    ((ofConfig config).traceFrom explosion terrain rules directions affected g).1.isSome = true ↔
      ∀ i direction, directions[i]? = some direction →
        (alone config explosion terrain rules g i direction).isSome = true := by
  induction directions generalizing affected g with
  | nil => simp [traceFrom, Draw.pure_apply]
  | cons direction rest ih =>
      rw [traceFrom_cons, forall_alone_cons]
      cases alone config explosion terrain rules g 0 direction with
      | none => simp
      | some steps => simpa using ih (record affected steps) (g.skip 1)

/-- The set that rays leave, and how many words they draw. -/
theorem contains_traceFrom (directions : List Vec3) {affected result : AffectedSet} {g : Generator}
    (hresult : ((ofConfig config).traceFrom explosion terrain rules directions affected g).1 =
      some result) :
    ((ofConfig config).traceFrom explosion terrain rules directions affected g).2 =
        g.skip directions.length ∧
      ∀ p, result.contains p = true ↔ affected.contains p = true ∨
        DestroysAlone config explosion terrain rules g directions p := by
  induction directions generalizing affected g with
  | nil =>
      obtain rfl := Option.some.inj hresult
      refine ⟨rfl, fun p => (or_iff_left ?_).symm⟩
      rintro ⟨i, direction, steps, hnone, -⟩
      cases hnone
  | cons direction rest ih =>
      rw [traceFrom_cons] at hresult ⊢
      cases halone : alone config explosion terrain rules g 0 direction with
      | none =>
          rw [halone] at hresult
          cases hresult
      | some steps =>
          rw [halone] at hresult
          obtain ⟨hdrawn, hcontains⟩ := ih hresult
          refine ⟨?_, ?_⟩
          · rw [List.length_cons, Nat.add_comm, ← Generator.skip_skip]
            exact hdrawn
          · intro p
            rw [hcontains p, contains_record, destroysAlone_cons, halone, or_assoc]
            simp

/-! ## Steps that destroy -/

/-- What a step that destroys tells about its position: it lies inside the build height, it is not
empty, and the ray had power left with which the rules of the exploding entity let it be
destroyed. -/
structure Destructible (explosion : Explosion) (terrain : Terrain) (s : RayStep) : Prop where
  inside : terrain.isOutside s.position = false
  notEmpty : terrain.registry.isEmptyVoxel (terrain.voxel s.position) = false
  powerLeft : s.powerAfter > 0.0
  allowed : ∀ entity r, explosion.resistance = .entityDerived entity r →
    r.shouldDestroy s.position (terrain.voxel s.position)
      (terrain.registry.block (terrain.voxel s.position).block.block) s.powerAfter = true

theorem destructible_of_alone {g : Generator} {i : ℕ} {direction : Vec3} {steps : Array RayStep}
    (halone : alone config explosion terrain (explosion.resistance.rules terrain) g i direction =
      some steps) :
    ∀ s ∈ steps, s.destroyed = true → Destructible explosion terrain s := by
  refine March.forall_mem_steps? ?_ halone
  intro ray hgo hdestroyed
  obtain ⟨hpower, hrules⟩ := March.destroyed_step_iff.mp hdestroyed
  obtain ⟨hempty, hallowed⟩ := ResistanceStrategy.destroys_rules_iff.mp hrules
  simp only [March.goesOn, march, Bool.and_eq_true, Bool.not_eq_true'] at hgo
  exact ⟨hgo.2, hempty, hpower, hallowed⟩

/-- **A traced set is the union of single rays.** There is one if every ray of the fan ends when it
marches alone. It has the positions that one of the rays destroys alone, all of which can be
destroyed, and none of a block that is protected. One word is drawn for each ray, whatever the world
is like, and none if the radius is zero. -/
theorem trace_eq_union (config : Config) (explosion : Explosion) (terrain : Terrain)
    (g : Generator) :
    let rules := explosion.resistance.rules terrain
    (((ofConfig config).trace explosion terrain g).1.isSome = true ↔
      (explosion.radius > 0.0 → ∀ i direction, (ofConfig config).directions[i]? = some direction →
        (alone config explosion terrain rules g i direction).isSome = true)) ∧
    ∀ affected, ((ofConfig config).trace explosion terrain g).1 = some affected →
      (∀ p, affected.contains p = true ↔
        explosion.radius > 0.0 ∧
          DestroysAlone config explosion terrain rules g (ofConfig config).directions p) ∧
      (∀ p, affected.contains p = true →
        ∃ i direction steps, (ofConfig config).directions[i]? = some direction ∧
          alone config explosion terrain rules g i direction = some steps ∧
            ∃ s ∈ steps, s.position = p ∧ Destructible explosion terrain s) ∧
      (∀ entity blocks, explosion.resistance = .entityDerived entity (.protectedBlocks blocks) →
        ∀ p, affected.contains p = true → (terrain.voxel p).block.block ∉ blocks) ∧
      ((ofConfig config).trace explosion terrain g).2 =
        if explosion.radius > 0.0 then g.skip (ofConfig config).directions.length else g := by
  intro rules
  have hpos := radius_pos_iff explosion.validRadius_radius
  rw [trace]
  by_cases hradius : explosion.radius ≤ 0.0
  · have hzero : ¬ explosion.radius > 0.0 := fun h => hpos.mp h hradius
    rw [if_pos hradius, if_neg hzero]
    refine ⟨⟨fun _ h => absurd h hzero, fun _ => rfl⟩, ?_⟩
    intro affected haffected
    obtain rfl := Option.some.inj haffected
    have hnone : ∀ p, AffectedSet.empty.contains p ≠ true := by
      intro p hp
      rw [AffectedSet.not_contains_empty] at hp
      cases hp
    exact ⟨fun p => ⟨fun h => absurd h (hnone p), fun h => absurd h.1 hzero⟩,
      fun p h => absurd h (hnone p), fun _ _ _ p h => absurd h (hnone p), rfl⟩
  · have hradius' : explosion.radius > 0.0 := hpos.mpr hradius
    rw [if_neg hradius, if_pos hradius', isSome_traceFrom_iff]
    refine ⟨⟨fun h _ => h, fun h => h hradius'⟩, ?_⟩
    intro affected haffected
    obtain ⟨hdrawn, hcontains⟩ := contains_traceFrom (ofConfig config).directions haffected
    have hmem : ∀ p, affected.contains p = true ↔
        DestroysAlone config explosion terrain rules g (ofConfig config).directions p := by
      intro p
      rw [hcontains p, AffectedSet.not_contains_empty]
      simp [rules]
    have hsound : ∀ p, affected.contains p = true →
        ∃ i direction steps, (ofConfig config).directions[i]? = some direction ∧
          alone config explosion terrain rules g i direction = some steps ∧
            ∃ s ∈ steps, s.position = p ∧ Destructible explosion terrain s := by
      intro p hp
      obtain ⟨i, direction, steps, hd, halone, s, hs, hdestroyed, hposition⟩ := (hmem p).mp hp
      exact ⟨i, direction, steps, hd, halone, s, hs, hposition,
        destructible_of_alone halone s hs hdestroyed⟩
    refine ⟨fun p => by rw [hmem p, and_iff_right hradius'], hsound, ?_, hdrawn⟩
    intro entity blocks hprotected p hp
    obtain ⟨-, -, -, -, -, s, -, rfl, hs⟩ := hsound p hp
    have hallowed := hs.allowed entity _ hprotected
    simpa [EntityRules.protectedBlocks] using hallowed

end RayFan

end Crater
