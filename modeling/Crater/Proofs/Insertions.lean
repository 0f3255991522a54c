import Mathlib
import Crater.Commit
import Crater.Proofs.Affected

/-!
# Insertions

An affected set keeps no trace of how it came about. Its list ascends without a
repetition, and such a list is known when its members are known. In which order
positions were put in, and how often, shows in the answers of the insertions and
nowhere else; and as a commit starts from the list, nothing of it shows in what
the commit does.
-/

namespace Crater

/-! ## The order of positions -/

namespace Position

variable {p q : Position}

/-- Positions come by `x`, then by `y`, then by `z`, each from the negative to the positive. -/
def Before (p q : Position) : Prop :=
  p.x < q.x ∨ p.x = q.x ∧ (p.y < q.y ∨ p.y = q.y ∧ p.z < q.z)

theorem compare_eq_lt_iff : Ord.compare p q = .lt ↔ p.Before q := by
  simp only [compare_eq_lex, compareLex, compareOn, Ordering.then_eq_lt,
    Std.LawfulEqOrd.compare_eq_iff_eq, Int.compare_eq_lt, Before]

theorem Before.asymm (h : p.Before q) : ¬ q.Before p := by
  unfold Before at h ⊢
  omega

end Position

namespace AffectedSet

variable {s : AffectedSet} {p q : Position} {ps qs : List Position}

/-! ## What a set lists -/

theorem ascends_toList (s : AffectedSet) : s.toList.Pairwise Position.Before :=
  Std.TreeSet.ordered_toList.imp Position.compare_eq_lt_iff.mp

/-- **Sets with the same members** have the same list. -/
theorem toList_eq_of_mem_iff {t : AffectedSet} (h : ∀ p, p ∈ s.toList ↔ p ∈ t.toList) :
    s.toList = t.toList := by
  have hperm : s.toList.Perm t.toList :=
    (List.perm_ext_iff_of_nodup s.nodup_toList t.nodup_toList).mpr h
  refine hperm.eq_of_pairwise ?_ s.ascends_toList t.ascends_toList
  intro p q _ _ hpq hqp
  exact absurd hqp hpq.asymm

theorem mem_toList_ofList : p ∈ (ofList ps).toList ↔ p ∈ ps := by
  rw [mem_toList, contains_ofList]

theorem size_ofList (ps : List Position) : (ofList ps).size = ps.toFinset.card := by
  have hmembers : ps.toFinset = (ofList ps).toList.toFinset := by
    ext p
    rw [List.mem_toFinset, List.mem_toFinset, mem_toList_ofList]
  rw [hmembers, List.toFinset_card_of_nodup (nodup_toList _), toList, Std.TreeSet.length_toList,
    size]

/-! ## What insertions answer -/

theorem enter_eq (s : AffectedSet) (p : Position) : s.enter p = (!s.contains p, s.insert p) := by
  rw [enter, contains, insert, ← Std.TreeSet.containsThenInsert_fst,
    ← Std.TreeSet.containsThenInsert_snd]

/-- Adds positions one after the other, and tells of each whether it was new. -/
def enterAll : AffectedSet → List Position → List Bool × AffectedSet
  | s, [] => ([], s)
  | s, p :: rest =>
    let (new, s) := s.enter p
    let (news, s) := enterAll s rest
    (new :: news, s)

theorem enterAll_cons (s : AffectedSet) (p : Position) (rest : List Position) :
    s.enterAll (p :: rest) =
      ((!s.contains p) :: ((s.insert p).enterAll rest).1, ((s.insert p).enterAll rest).2) := by
  rw [enterAll, enter_eq]

theorem enterAll_snd (s : AffectedSet) (ps : List Position) :
    (s.enterAll ps).2 = ps.foldl insert s := by
  induction ps generalizing s with
  | nil => rfl
  | cons p rest ih => rw [enterAll_cons, List.foldl_cons, ih]

/-- An insertion is news if its position was not in the set from the start and none of the
insertions before it was of the same position. -/
theorem enterAll_fst_getElem? (s : AffectedSet) (ps : List Position) (i : ℕ) :
    (s.enterAll ps).1[i]? =
      ps[i]?.map fun p => decide (s.contains p = false ∧ p ∉ ps.take i) := by
  induction ps generalizing s i with
  | nil => rfl
  | cons p rest ih =>
      rw [enterAll_cons]
      cases i with
      | zero => simp
      | succ i =>
          rw [List.getElem?_cons_succ, List.getElem?_cons_succ, ih, List.take_succ_cons]
          congr 1
          funext q
          have hq := contains_insert (s := s) (p := p) (q := q)
          rw [decide_eq_decide, ← Bool.not_eq_true, hq, List.mem_cons, ← Bool.not_eq_true]
          tauto

/-! ## Histories -/

/-- What is left of some insertions: the set and its size, but not the order or the repetitions,
which show in the answers alone. The positions `qs` are the same in another order, with other
repetitions. -/
structure IsCanonical (ps qs : List Position) : Prop where
  /-- An insertion is news if it is the first of its position. -/
  news : ∀ i, (empty.enterAll ps).1[i]? = ps[i]?.map fun p => decide (p ∉ ps.take i)
  /-- Collected at once the positions give the same set. -/
  collected : (empty.enterAll ps).2 = ofList ps
  size : (ofList ps).size = ps.toFinset.card
  mem_toList : ∀ p, p ∈ (ofList ps).toList ↔ p ∈ ps
  ascends : (ofList ps).toList.Pairwise Position.Before
  toList_eq : (ofList ps).toList = (ofList qs).toList
  commit_eq : ∀ (rules : CommitRules) (explosion : Explosion) (w : World) (g : Generator),
    rules.commit explosion (ofList ps) w g = rules.commit explosion (ofList qs) w g

/-- **An affected set is canonical**: it depends on which positions were put in, and on nothing
else. -/
theorem isCanonical_of_mem_iff (h : ∀ p, p ∈ ps ↔ p ∈ qs) : IsCanonical ps qs := by
  have hlist : (ofList ps).toList = (ofList qs).toList := by
    apply toList_eq_of_mem_iff
    intro p
    rw [mem_toList_ofList, mem_toList_ofList]
    exact h p
  exact {
    news := by
      intro i
      rw [enterAll_fst_getElem?]
      simp [not_contains_empty]
    collected := enterAll_snd empty ps
    size := size_ofList ps
    mem_toList := fun _ => mem_toList_ofList
    ascends := ascends_toList _
    toList_eq := hlist
    commit_eq := by
      intro rules explosion w g
      unfold CommitRules.commit
      rw [hlist] }

def scattered : List Position := [⟨1, 0, 0⟩, ⟨-1, 2, 0⟩, ⟨1, 0, 0⟩, ⟨-1, -2, 5⟩]

theorem isCanonical_scattered :
    (∀ p, p ∈ scattered ↔ p ∈ ([⟨-1, -2, 5⟩, ⟨-1, 2, 0⟩, ⟨1, 0, 0⟩] : List Position)) ∧
      IsCanonical scattered [⟨-1, -2, 5⟩, ⟨-1, 2, 0⟩, ⟨1, 0, 0⟩] ∧
      (empty.enterAll scattered).1 = [true, true, false, true] ∧
      (ofList scattered).toList = [⟨-1, -2, 5⟩, ⟨-1, 2, 0⟩, ⟨1, 0, 0⟩] := by
  have h : ∀ p, p ∈ scattered ↔ p ∈ ([⟨-1, -2, 5⟩, ⟨-1, 2, 0⟩, ⟨1, 0, 0⟩] : List Position) := by
    intro p
    simp only [scattered, List.mem_cons, List.not_mem_nil, or_false]
    tauto
  exact ⟨h, isCanonical_of_mem_iff h, by decide +kernel, by decide +kernel⟩

end AffectedSet

end Crater
