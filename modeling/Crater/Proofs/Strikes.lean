import Crater.Detonation

/-!
# Strikes

A report has at most one impact on each entity, so delivering it hits an entity at
most once: with the impact that the report has on it, if there is one.
-/

namespace Crater

/-! ## One impact on each entity -/

theorem perm_insertByKey {α : Type} (key : α → Nat) (a : α) :
    ∀ xs : List α, (insertByKey key a xs).Perm (a :: xs)
  | [] => .refl _
  | b :: rest => by
      rw [insertByKey]
      split
      · exact .refl _
      · exact ((perm_insertByKey key a rest).cons b).trans (.swap a b rest)

def ImpactReport.IsSimple (r : ImpactReport) : Prop := (r.impacts.map EntityImpact.entity).Nodup

namespace ImpactRules

variable (rules : ImpactRules) (explosion : Explosion) (blocked : SightBlock)

theorem isSimple_record {report : ImpactReport} (h : report.IsSimple) (s : Snapshot) :
    (rules.record explosion blocked report s).IsSimple := by
  unfold record
  split
  · next hreached =>
    simp only [Bool.and_eq_true, Option.isNone_iff_eq_none, ImpactReport.get?,
      List.find?_eq_none] at hreached
    have hperm := (perm_insertByKey (fun impact => impact.entity.index)
      (rules.impactOn explosion blocked s) report.impacts).map EntityImpact.entity
    rw [ImpactReport.IsSimple, ImpactReport.insert, hperm.nodup_iff]
    refine List.nodup_cons.mpr ⟨?_, h⟩
    intro hmem
    obtain ⟨impact, himpact, hsame⟩ := List.mem_map.mp hmem
    exact hreached.2 impact himpact (by rw [hsame]; exact beq_self_eq_true _)
  · exact h

theorem isSimple_resolve (candidates : List Snapshot) :
    (rules.resolve explosion blocked candidates).IsSimple := by
  have hempty : ImpactReport.IsSimple {} := List.nodup_nil
  rw [resolve]
  split
  · exact hempty
  · exact List.foldlRecOn candidates _ hempty fun report hreport s _ =>
      rules.isSimple_record explosion blocked hreport s

end ImpactRules

theorem Detonation.isSimple_impacts (d : Detonation) (w : World) : (d.impacts w).IsSimple :=
  ImpactRules.isSimple_resolve _ _ _ _

/-! ## Delivery -/

theorem Population.find?_modify (p : Population) (id other : EntityId) (f : Entity → Entity) :
    (p.modify id f).find? other =
      (p.find? other).map fun e => if e.id = id then { f e with id := e.id } else e := by
  simp only [find?, modify, List.find?_map]
  congr 2
  funext e
  simp only [Function.comp]
  split <;> rfl

theorem World.entity?_strike (w : World) (id other : EntityId) (source : DamageSource)
    (damage : Float32) (impulse : Vec3) :
    (w.strike id source damage impulse).2.entity? other =
      if other = id then (w.entity? other).map fun e => e.struck source damage impulse
      else w.entity? other := by
  simp only [entity?, strike, Population.strike, Population.find?_modify]
  cases he : w.population.find? other with
  | none => split <;> rfl
  | some e =>
      have hid : e.id = other := by
        have hfound := List.find?_some he
        simpa using hfound
      simp only [Option.map_some, hid]
      split
      · subst hid
        rfl
      · rfl

namespace Detonation

/-- **Delivery** hits each entity with the impact that the report has on it, and leaves
the others alone. -/
theorem entity?_deliver (source : DamageSource) {report : ImpactReport} (h : report.IsSimple)
    (w : World) (id : EntityId) :
    (deliver source report w).entity? id =
      match report.get? id with
      | none => w.entity? id
      | some impact =>
          (w.entity? id).map fun e => e.struck source impact.damage impact.impulse := by
  obtain ⟨impacts, playerKnockback⟩ := report
  simp only [deliver, ImpactReport.get?]
  simp only [ImpactReport.IsSimple] at h
  induction impacts generalizing w with
  | nil => rfl
  | cons impact rest ih =>
      rw [List.map_cons, List.nodup_cons] at h
      rw [List.foldl_cons, ih _ h.2]
      by_cases hid : impact.entity = id
      · -- no later impact is on the same entity
        have hrest : rest.find? (·.entity == id) = none := by
          rw [List.find?_eq_none]
          intro other hother hsame
          have hsame : other.entity = id := by simpa using hsame
          exact h.1 (List.mem_map.mpr ⟨other, hother, hsame.trans hid.symm⟩)
        rw [hrest, List.find?_cons_of_pos (by simpa using hid), World.entity?_strike,
          if_pos hid.symm]
      · rw [List.find?_cons_of_neg (by simpa using hid), World.entity?_strike,
          if_neg fun heq => hid heq.symm]

end Detonation

end Crater
