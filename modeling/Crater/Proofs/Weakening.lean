import Crater.Proofs.Endings

/-!
# Weakening rays

What a ray does can be said step by step, also of a ray that never ends: its first
steps form a list of any length. In such a list no ray gains power, neither by
paying for a voxel nor from one step to the next, whatever an exploding entity says
about resistances. For they are raised to zero before rays pay them, and a NaN on
the way ends the ray.
-/

namespace Crater

open Numeral

namespace March

variable {m : March} {ray : Ray}

/-! ## The first steps of a ray -/

/-- The first `n` steps that a ray takes; all of them if they are fewer. -/
def first (m : March) : ℕ → Ray → List RayStep
  | 0, _ => []
  | n + 1, ray => if m.goesOn ray then m.step ray :: first m n (m.next ray) else []

theorem first_succ (hgo : m.goesOn ray = true) (n : ℕ) :
    m.first (n + 1) ray = m.step ray :: m.first n (m.next ray) :=
  if_pos hgo

theorem first_of_not_goesOn (hgo : m.goesOn ray = false) (n : ℕ) : m.first n ray = [] := by
  cases n with
  | zero => rfl
  | succ n =>
      rw [first, hgo]
      rfl

/-- Whether a list has all steps of a ray. -/
def Lists (m : March) (ray : Ray) (steps : List RayStep) : Prop :=
  ∀ n, steps.take n = m.first n ray

theorem lists_nil (hgo : m.goesOn ray = false) : m.Lists ray [] := by
  intro n
  rw [first_of_not_goesOn hgo, List.take_nil]

theorem Lists.cons (hgo : m.goesOn ray = true) {steps : List RayStep}
    (h : m.Lists (m.next ray) steps) : m.Lists ray (m.step ray :: steps) := by
  intro n
  cases n with
  | zero => rfl
  | succ n => rw [first_succ hgo, List.take_succ_cons, h n]

theorem exists_lists_of_run {progress : Progress} {steps : Array RayStep}
    (hrun : m.run progress = some steps) :
    ∃ rest, steps.toList = progress.taken.toList ++ rest ∧ m.Lists progress.ray rest := by
  fun_induction run m progress with
  | case1 progress ray hgo step next taken hcloser ih =>
      obtain ⟨rest, hsteps, hlists⟩ := ih hrun
      exact ⟨step :: rest, by simp [hsteps, taken], hlists.cons hgo⟩
  | case2 progress ray hgo step next taken hcloser hweaker ih =>
      obtain ⟨rest, hsteps, hlists⟩ := ih hrun
      exact ⟨step :: rest, by simp [hsteps, taken], hlists.cons hgo⟩
  | case3 => cases hrun
  | case4 progress ray hgo step next taken hcloser hweaker hends =>
      obtain rfl := Option.some.inj hrun
      have hlast : m.Lists (m.next ray) [] := lists_nil (Bool.eq_false_of_not_eq_true hends)
      exact ⟨[step], by simp [taken], hlast.cons hgo⟩
  | case5 progress ray hgo =>
      obtain rfl := Option.some.inj hrun
      exact ⟨[], by simp, lists_nil (Bool.eq_false_of_not_eq_true hgo)⟩

/-- A march reports the steps of its ray in their order. -/
theorem lists_of_steps? {steps : Array RayStep} (hsteps : m.steps? ray = some steps) :
    m.Lists ray steps.toList := by
  obtain ⟨rest, hrest, hlists⟩ := exists_lists_of_run hsteps
  rwa [hrest]

theorem length_first_of_not_ends (h : ¬ m.Ends ray) (n : ℕ) : (m.first n ray).length = n := by
  induction n generalizing ray with
  | zero => rfl
  | succ n ih =>
      have hgo : m.goesOn ray = true := by
        by_contra hgo
        exact h (ends_of_not_goesOn (Bool.eq_false_of_not_eq_true hgo))
      rw [first_succ hgo, List.length_cons, ih fun hends => h ((ends_next_iff hgo).mp hends)]

/-! ## What the steps of a fair march do -/

/-- A step that is taken with power, inside the build height, and not to gain power. -/
structure IsWeakening (m : March) (s : RayStep) : Prop where
  not_gt : ¬ s.powerAfter > s.powerBefore
  powerBefore : s.powerBefore > 0.0
  powerAfter : s.destroyed = true → s.powerAfter > 0.0
  inside : m.isOutside s.position = false

/-- What holds of two consecutive steps: the first left power, and none was gained since. -/
structure Precedes (s t : RayStep) : Prop where
  powerAfter : s.powerAfter > 0.0
  not_gt : ¬ t.powerBefore > s.powerAfter

theorem isWeakening_step (hm : m.IsFair) (hgo : m.goesOn ray = true) :
    m.IsWeakening (m.step ray) where
  not_gt := by
    intro hgt
    obtain ⟨⟨-, hnan⟩, hlt⟩ := Numeral.lt_iff.mp hgt
    exact absurd (powerAfter_le hm ray hnan) (not_le.mpr hlt)
  powerBefore := by
    simp only [goesOn, Bool.and_eq_true, decide_eq_true_eq] at hgo
    exact hgo.1
  powerAfter := fun hdestroyed => (destroyed_step_iff.mp hdestroyed).1
  inside := by
    simp only [goesOn, Bool.and_eq_true, Bool.not_eq_true'] at hgo
    exact hgo.2

theorem precedes_step (hm : m.IsFair) (hgo : m.goesOn (m.next ray) = true) :
    Precedes (m.step ray) (m.step (m.next ray)) := by
  obtain ⟨hnan, hpos⟩ := power_pos_of_goesOn hgo
  have hle : real (m.next ray).power ≤ real (m.step ray).powerAfter :=
    power_sub_le hm.attenuation hnan
  constructor
  · show 0.0 < (m.step ray).powerAfter
    rw [Numeral.lt_iff, Single.real_zero]
    exact ⟨⟨rfl, isNaN_of_isNaN_sub hnan⟩, hpos.trans_le hle⟩
  · intro hgt
    exact absurd hle (not_le.mpr (Numeral.lt_iff.mp hgt).2)

theorem isWeakening_of_mem_first (hm : m.IsFair) (n : ℕ) :
    ∀ s ∈ m.first n ray, m.IsWeakening s := by
  induction n generalizing ray with
  | zero =>
      intro s hs
      cases hs
  | succ n ih =>
      cases hgo : m.goesOn ray with
      | false =>
          rw [first_of_not_goesOn hgo]
          intro s hs
          cases hs
      | true =>
          rw [first_succ hgo]
          intro s hs
          rcases List.mem_cons.mp hs with rfl | hs
          · exact isWeakening_step hm hgo
          · exact ih s hs

theorem isChain_first (hm : m.IsFair) (n : ℕ) : (m.first n ray).IsChain Precedes := by
  induction n generalizing ray with
  | zero => exact .nil
  | succ n ih =>
      cases hgo : m.goesOn ray with
      | false =>
          rw [first_of_not_goesOn hgo]
          exact .nil
      | true =>
          rw [first_succ hgo]
          refine List.IsChain.cons ih ?_
          intro t ht
          -- a second step is taken only if the ray goes on after the first
          cases n with
          | zero => cases ht
          | succ n =>
              cases hnext : m.goesOn (m.next ray) with
              | false =>
                  rw [first_of_not_goesOn hnext] at ht
                  cases ht
              | true =>
                  rw [first_succ hnext] at ht
                  obtain rfl := Option.some.inj ht
                  exact precedes_step hm hnext

end March

/-- The larger of a number and zero is a number; of a NaN and zero it is zero. -/
theorem Single.isNaN_max_zero (x : Float32) : (Single.max x 0.0).isNaN = false := by
  have hzero : (0.0 : Float32).isNaN = false := by decide +kernel
  unfold Single.max
  cases hx : x.isNaN with
  | true => rw [if_pos rfl, hzero]
  | false =>
      rw [if_neg Bool.false_ne_true, hzero, if_neg Bool.false_ne_true]
      split
      · exact hzero
      · exact hx

/-- Whatever an exploding entity says, no resistance is a NaN or negative. -/
theorem ResistanceStrategy.resistance_nonneg (strategy : ResistanceStrategy) (terrain : Terrain)
    {p : Position} {r : Float32} (h : (strategy.rules terrain).resistance p = some r) :
    r.isNaN = false ∧ ¬ r < 0.0 := by
  simp only [rules] at h
  split at h
  · cases h
  · obtain rfl := Option.some.inj h
    refine ⟨Single.isNaN_max_zero _, ?_⟩
    intro hlt
    have hneg := (Numeral.lt_iff.mp hlt).2
    rw [Single.real_zero] at hneg
    exact absurd (Single.real_max_zero_nonneg _) (not_le.mpr hneg)

namespace RayFan

/-- **The power of a ray never grows.** With a configuration that passes its checks, this holds of
the first steps of every ray, in all worlds and under all rules. A march reports all steps of a ray
that ends, and a ray that does not end has as many first steps as one asks for. -/
theorem isWeakening_march {config : Config} (hvalid : config.validate = .ok ())
    (terrain : Terrain) (strategy : ResistanceStrategy) (direction : Vec3) (ray : Ray) :
    let m := (ofConfig config).march terrain (strategy.rules terrain) direction
    (∀ n, (∀ s ∈ m.first n ray, m.IsWeakening s) ∧ (m.first n ray).IsChain March.Precedes) ∧
    (∀ steps, m.steps? ray = some steps → m.Lists ray steps.toList) ∧
    (m.steps? ray = none → ∀ n, (m.first n ray).length = n) ∧
    ∀ p r, (strategy.rules terrain).resistance p = some r → r.isNaN = false ∧ ¬ r < 0.0 := by
  intro m
  have hfair : m.IsFair := isFair_march (Config.isValid_of_validate hvalid) strategy direction
  refine ⟨?_, ?_, ?_, ?_⟩
  · intro n
    exact ⟨March.isWeakening_of_mem_first hfair n, March.isChain_first hfair n⟩
  · intro steps hsteps
    exact March.lists_of_steps? hsteps
  · intro hnone n
    refine March.length_first_of_not_ends ?_ n
    rw [← March.isSome_steps?_iff hfair, hnone]
    exact Bool.false_ne_true
  · intro p r hr
    exact strategy.resistance_nonneg terrain hr

/-- A ray that meets a NaN wherever it looks. -/
theorem isWeakening_march_nan :
    let rules : EntityRules := { resistance := fun _ _ _ _ => 0.0 / 0.0 }
    let terrain := World.buttonRow.terrain
    let m := (ofConfig {}).march terrain
      ((ResistanceStrategy.entityDerived ⟨0⟩ rules).rules terrain) ⟨1.0, 0.0, 0.0⟩
    Config.validate {} = .ok () ∧ (∀ s ∈ m.first 8 ⟨.splat 0.5, 4.0⟩, m.IsWeakening s) ∧
      (m.first 8 ⟨.splat 0.5, 4.0⟩).IsChain March.Precedes :=
  ⟨rfl, (isWeakening_march rfl _ _ _ _).1 8⟩

end RayFan

end Crater
