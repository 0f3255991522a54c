import Crater.Proofs.Affected
import Crater.Proofs.Draws
import Crater.Ray.Fan

/-!
# Traced positions

What holds of every step that a ray takes inside the build height holds of every
step of a march, and what holds of every position that such a step destroys holds
of every position of a traced set. In particular a traced set has only positions
inside the build height that are not empty.
-/

namespace Crater

namespace March

/-- What holds of each single step holds of every step of a march. -/
theorem forall_mem_run {m : March} {P : RayStep → Prop}
    (hstep : ∀ ray, m.goesOn ray = true → P (m.step ray)) (progress : Progress)
    {steps : Array RayStep} (hrun : m.run progress = some steps)
    (htaken : ∀ s ∈ progress.taken, P s) : ∀ s ∈ steps, P s := by
  have hpush : ∀ progress : Progress, m.goesOn progress.ray = true →
      (∀ s ∈ progress.taken, P s) → ∀ s ∈ progress.taken.push (m.step progress.ray), P s := by
    intro progress hgo htaken s hs
    rcases Array.mem_push.mp hs with hs | rfl
    · exact htaken s hs
    · exact hstep _ hgo
  fun_induction run m progress with
  | case1 progress ray hgo step next taken hcloser ih => exact ih hrun (hpush _ hgo htaken)
  | case2 progress ray hgo step next taken hcloser hweaker ih =>
      exact ih hrun (hpush _ hgo htaken)
  | case3 => cases hrun
  | case4 progress ray hgo step next taken hcloser hweaker hends =>
      obtain rfl := Option.some.inj hrun
      exact hpush _ hgo htaken
  | case5 =>
      obtain rfl := Option.some.inj hrun
      exact htaken

theorem forall_mem_steps? {m : March} {P : RayStep → Prop}
    (hstep : ∀ ray, m.goesOn ray = true → P (m.step ray)) {ray : Ray} {steps : Array RayStep}
    (hsteps : m.steps? ray = some steps) : ∀ s ∈ steps, P s :=
  forall_mem_run hstep _ hsteps (by simp)

/-- A march ends if the ray has no power left after its next step. -/
theorem isSome_run_of_weak {m : March} {progress : Progress}
    (hweak : m.goesOn (m.after progress.ray (m.step progress.ray)) = false) :
    (m.run progress).isSome = true := by
  have hnext : ∀ taken,
      (m.run ⟨m.after progress.ray (m.step progress.ray), taken⟩).isSome = true := by
    intro taken
    rw [run, if_neg (by simp [hweak])]
    rfl
  fun_cases run m progress with
  | case1 => exact hnext _
  | case2 => exact hnext _
  | case3 ray hgo step next hcloser hweaker hends =>
      rw [hweak] at hends
      cases hends
  | case4 => rfl
  | case5 => rfl

theorem goesOn_after_eq_false {m : March} {ray : Ray} {r : Float32}
    (hresistance : m.rules.resistance (Position.containing ray.point) = some r)
    (hweak : ¬ ray.power - (r + m.bias) * m.stride - m.attenuation > 0.0) :
    m.goesOn (m.after ray (m.step ray)) = false := by
  simp only [goesOn, after, step, hresistance, hweak, decide_false, Bool.false_and]

end March

namespace RayFan

variable {fan : RayFan} {terrain : Terrain} {rules : RayRules} {Q : Position → Prop}

theorem contains_record (steps : Array RayStep) (affected : AffectedSet) (p : Position) :
    (record affected steps).contains p = true ↔
      affected.contains p = true ∨ ∃ s ∈ steps, s.destroyed = true ∧ s.position = p := by
  obtain ⟨steps⟩ := steps
  simp only [record, List.foldl_toArray', List.mem_toArray]
  induction steps generalizing affected with
  | nil => simp
  | cons s rest ih =>
      rw [List.foldl_cons, ih]
      by_cases hs : s.destroyed = true
      · rw [if_pos hs, AffectedSet.contains_insert]
        simp only [List.mem_cons, exists_eq_or_imp, and_iff_right hs]
        rw [or_right_comm, or_comm, @eq_comm _ p]
      · rw [if_neg hs]
        simp [hs]

/-- What holds of every position that a step destroys holds of every position of
the set that the rays leave. -/
theorem forall_mem_traceFrom (explosion : Explosion)
    (hstep : ∀ direction ray, (fan.march terrain rules direction).goesOn ray = true →
      ((fan.march terrain rules direction).step ray).destroyed = true →
      Q ((fan.march terrain rules direction).step ray).position) :
    ∀ (directions : List Vec3) (affected result : AffectedSet) (g : Generator),
      (fan.traceFrom explosion terrain rules directions affected g).1 = some result →
      (∀ p, affected.contains p = true → Q p) → ∀ p, result.contains p = true → Q p
  | [], affected, result, g, hresult, haffected => by
      cases hresult
      exact haffected
  | direction :: rest, affected, result, g, hresult, haffected => by
      rw [traceFrom, Draw.bind_apply] at hresult
      cases hsteps : (fan.march terrain rules direction).steps?
          ⟨explosion.center, fan.startPower explosion.radius (Draw.fraction g).1⟩ with
      | none =>
          rw [hsteps] at hresult
          cases hresult
      | some steps =>
          rw [hsteps] at hresult
          refine forall_mem_traceFrom explosion hstep rest _ result _ hresult ?_
          intro p hp
          rcases (contains_record steps affected p).mp hp with hp | ⟨s, hs, hdestroyed, rfl⟩
          · exact haffected p hp
          · have hall := March.forall_mem_steps? (P := fun s => s.destroyed = true → Q s.position)
              (hstep direction) hsteps
            exact hall s hs hdestroyed

/-- Rays that all start with the same power and end leave a set. -/
theorem isSome_traceFrom {explosion : Explosion} {word : UInt32}
    (hends : ∀ direction, ((fan.march terrain rules direction).steps?
      ⟨explosion.center, fan.startPower explosion.radius (Draw.fractionOf word)⟩).isSome = true) :
    ∀ (directions : List Vec3) (affected : AffectedSet) (n : Nat),
      (fan.traceFrom explosion terrain rules directions affected ⟨fun _ => word, n⟩).1.isSome = true
  | [], _, _ => rfl
  | direction :: rest, affected, n => by
      obtain ⟨steps, hsteps⟩ := Option.isSome_iff_exists.mp (hends direction)
      have hrest := isSome_traceFrom hends rest (record affected steps) (n + 1)
      rw [traceFrom, Draw.bind_apply, show Draw.fraction ⟨fun _ => word, n⟩ =
        (Draw.fractionOf word, ⟨fun _ => word, n + 1⟩) from rfl]
      simp only [hsteps]
      exact hrest

/-- What holds of every position that a step of an explosion destroys holds of every
position of its traced set. -/
theorem forall_mem_trace {explosion : Explosion} {g : Generator} {result : AffectedSet}
    (hresult : (fan.trace explosion terrain g).1 = some result)
    (hstep : ∀ direction ray,
      let m := fan.march terrain (explosion.resistance.rules terrain) direction
      m.goesOn ray = true → (m.step ray).destroyed = true → Q (m.step ray).position)
    {p : Position} (hp : result.contains p = true) : Q p := by
  have hempty : ∀ p, AffectedSet.empty.contains p = true → Q p := by
    intro p hp
    rw [AffectedSet.not_contains_empty] at hp
    cases hp
  unfold trace at hresult
  split at hresult
  · cases hresult
    exact hempty p hp
  · exact forall_mem_traceFrom explosion hstep fan.directions .empty result g hresult hempty p hp

/-- **Traced positions** lie inside the build height and are not empty. -/
theorem inside_and_not_empty_of_trace {explosion : Explosion} {g : Generator}
    {result : AffectedSet} (hresult : (fan.trace explosion terrain g).1 = some result)
    {p : Position} (hp : result.contains p = true) :
    terrain.isOutside p = false ∧ terrain.registry.isEmptyVoxel (terrain.voxel p) = false := by
  refine forall_mem_trace (Q := fun p => terrain.isOutside p = false ∧
    terrain.registry.isEmptyVoxel (terrain.voxel p) = false) hresult ?_ hp
  intro direction ray m hgo hdestroyed
  simp only [m, March.goesOn, march, Bool.and_eq_true, Bool.not_eq_true'] at hgo
  refine ⟨hgo.2, ?_⟩
  simp only [m, March.step, march, ResistanceStrategy.rules, Bool.and_eq_true] at hdestroyed ⊢
  have hrules := hdestroyed.2
  split at hrules
  · cases hrules
  · next hempty => simpa using hempty

end RayFan

end Crater
