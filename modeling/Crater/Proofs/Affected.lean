import Crater.Ray.Affected

/-!
# Affected sets

Positions are totally ordered, and an affected set lists its members in that
order without repetition. Insertion adds one member.
-/

namespace Crater

namespace Position

theorem compare_eq_lex :
    (Ord.compare : Position → Position → Ordering) =
      compareLex (compareOn x) (compareLex (compareOn y) (compareOn z)) := rfl

instance : Std.TransOrd Position := by
  rw [Std.TransOrd, compare_eq_lex]
  infer_instance

instance : Std.LawfulEqOrd Position where
  eq_of_compare {p q} h := by
    simp only [compare_eq_lex, compareLex, compareOn, Ordering.then_eq_eq,
      Std.LawfulEqOrd.compare_eq_iff_eq] at h
    obtain ⟨hx, hy, hz⟩ := h
    cases p
    cases q
    simp_all
  compare_self := Std.ReflOrd.compare_self

end Position

namespace AffectedSet

variable {s : AffectedSet} {p q : Position}

theorem mem_toList : p ∈ s.toList ↔ s.contains p = true := by
  rw [toList, Std.TreeSet.mem_toList, Std.TreeSet.mem_iff_contains, contains]

theorem nodup_toList (s : AffectedSet) : s.toList.Nodup := by
  refine s.cells.distinct_toList.imp ?_
  rintro a b h rfl
  exact h Std.ReflOrd.compare_self

theorem contains_insert : (s.insert p).contains q = true ↔ q = p ∨ s.contains q = true := by
  rw [insert, contains, Std.TreeSet.contains_insert, Bool.or_eq_true, contains, beq_iff_eq,
    Std.LawfulEqOrd.compare_eq_iff_eq, eq_comm]

theorem not_contains_empty (p : Position) : empty.contains p = false := by
  rw [empty, contains, Std.TreeSet.contains_emptyc]

theorem contains_foldl_insert {ps : List Position} :
    (ps.foldl insert s).contains q = true ↔ q ∈ ps ∨ s.contains q = true := by
  induction ps generalizing s with
  | nil => simp
  | cons p rest ih =>
      rw [List.foldl_cons, ih, contains_insert, List.mem_cons, or_left_comm, or_assoc]

theorem contains_ofList {ps : List Position} : (ofList ps).contains q = true ↔ q ∈ ps := by
  rw [ofList, contains_foldl_insert, not_contains_empty]
  simp

end AffectedSet

end Crater
