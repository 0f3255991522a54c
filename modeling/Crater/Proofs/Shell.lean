import Mathlib
import Crater.Ray.Fan

/-!
# The shell of the cube

The rays of a fan go through the cells on the shell of a cube. The cells are listed row
by row: a row that lies in a face of the cube belongs to the shell as a whole, and any
other meets it at its two ends. So every cell of the shell is listed, none of them twice
although faces share edges and corners, and they are as many as the cells of the cube
less those of the cube that is left when the shell is taken away.
-/

namespace Crater

abbrev Cell := Nat × Nat × Nat

namespace Cell

/-- Cells come by `x`, then by `y`, then by `z`. -/
def Before (c d : Cell) : Prop :=
  c.1 < d.1 ∨ c.1 = d.1 ∧ (c.2.1 < d.2.1 ∨ c.2.1 = d.2.1 ∧ c.2.2 < d.2.2)

/-- Whether a cell of a cube of `n` cells along each axis lies on its shell. A cube of one
cell has no shell. -/
structure OnShell (n : ℕ) (c : Cell) : Prop where
  two_le : 2 ≤ n
  inside : c.1 < n ∧ c.2.1 < n ∧ c.2.2 < n
  outmost : (c.1 = 0 ∨ c.1 = n - 1) ∨ (c.2.1 = 0 ∨ c.2.1 = n - 1) ∨ c.2.2 = 0 ∨ c.2.2 = n - 1

end Cell

/-! ## Rows -/

section
variable {n i : ℕ} {onShell : Bool}

theorem isEdge_iff : isEdge n i = true ↔ i = 0 ∨ i = n - 1 := by
  simp [isEdge]

theorem mem_shellRow (hn : 2 ≤ n) :
    i ∈ shellRow n onShell ↔ i < n ∧ (onShell = true ∨ i = 0 ∨ i = n - 1) := by
  cases onShell with
  | true => simp [shellRow]
  | false =>
      simp only [shellRow, Bool.false_eq_true, if_false, List.mem_cons, List.not_mem_nil, or_false,
        false_or]
      omega

theorem pairwise_shellRow (hn : 2 ≤ n) (onShell : Bool) :
    (shellRow n onShell).Pairwise (· < ·) := by
  cases onShell with
  | true => exact List.pairwise_lt_range
  | false =>
      rw [shellRow, if_neg Bool.false_ne_true, List.pairwise_pair]
      omega

theorem length_shellRow (n : ℕ) (onShell : Bool) :
    (shellRow n onShell).length = if onShell then n else 2 := by
  cases onShell with
  | true => exact List.length_range
  | false => rfl

end

/-! ## Cells -/

theorem shellCells_of_lt {n : ℕ} (hn : n < 2) : shellCells n = [] := if_pos hn

theorem shellCells_of_le {n : ℕ} (hn : 2 ≤ n) : shellCells n =
    (List.range n).flatMap fun x =>
      (List.range n).flatMap fun y =>
        (shellRow n (isEdge n x || isEdge n y)).map fun z => (x, y, z) :=
  if_neg (not_lt.mpr hn)

/-- **The cells that are listed** are those on the shell. -/
theorem mem_shellCells {n : ℕ} {c : Cell} : c ∈ shellCells n ↔ c.OnShell n := by
  rcases lt_or_ge n 2 with hn | hn
  · rw [shellCells_of_lt hn]
    constructor
    · intro h
      cases h
    · intro h
      exact absurd h.two_le (not_le.mpr hn)
  · obtain ⟨x, y, z⟩ := c
    simp only [shellCells_of_le hn, List.mem_flatMap, List.mem_range, List.mem_map,
      mem_shellRow hn, Bool.or_eq_true, isEdge_iff]
    constructor
    · rintro ⟨x, hx, y, hy, z, ⟨hz, hedge⟩, rfl, rfl, rfl⟩
      exact ⟨hn, ⟨hx, hy, hz⟩, or_assoc.mp hedge⟩
    · rintro ⟨-, ⟨hx, hy, hz⟩, hedge⟩
      exact ⟨x, hx, y, hy, z, ⟨hz, or_assoc.mpr hedge⟩, rfl⟩

/-- Lists one after the other are in order if each of them is, and if what stands in an earlier
list goes before what stands in a later one. -/
theorem pairwise_flatMap_range {α : Type} {R : α → α → Prop} {n : ℕ} {f : ℕ → List α}
    (hwithin : ∀ i, (f i).Pairwise R)
    (hbetween : ∀ i j, i < j → ∀ a ∈ f i, ∀ b ∈ f j, R a b) :
    ((List.range n).flatMap f).Pairwise R := by
  rw [List.pairwise_flatMap]
  refine ⟨fun i _ => hwithin i, List.pairwise_lt_range.imp ?_⟩
  intro i j hlt
  exact hbetween i j hlt

/-- **The cells of the shell** are listed in their order. -/
theorem pairwise_shellCells (n : ℕ) : (shellCells n).Pairwise Cell.Before := by
  rcases lt_or_ge n 2 with hn | hn
  · rw [shellCells_of_lt hn]
    exact .nil
  · rw [shellCells_of_le hn]
    apply pairwise_flatMap_range
    · intro x
      apply pairwise_flatMap_range
      · intro y
        rw [List.pairwise_map]
        apply (pairwise_shellRow hn _).imp
        intro z z' hlt
        exact .inr ⟨rfl, .inr ⟨rfl, hlt⟩⟩
      · rintro y y' hlt c hc d hd
        obtain ⟨z, -, rfl⟩ := List.mem_map.mp hc
        obtain ⟨z', -, rfl⟩ := List.mem_map.mp hd
        exact .inr ⟨rfl, .inl hlt⟩
    · rintro x x' hlt c hc d hd
      obtain ⟨y, -, hc⟩ := List.mem_flatMap.mp hc
      obtain ⟨y', -, hd⟩ := List.mem_flatMap.mp hd
      obtain ⟨z, -, rfl⟩ := List.mem_map.mp hc
      obtain ⟨z', -, rfl⟩ := List.mem_map.mp hd
      exact .inl hlt

/-! ## Their number -/

/-- Two of the indices along an axis are at its ends. -/
theorem sum_range_edge (m a b : ℕ) :
    ((List.range (m + 2)).map fun i => if isEdge (m + 2) i then a else b).sum = 2 * a + m * b := by
  have hinner : ∀ i ∈ List.range m, (if isEdge (m + 2) (i + 1) then a else b) = b := by
    intro i hi
    have hlt := List.mem_range.mp hi
    refine if_neg ?_
    rw [isEdge_iff]
    omega
  have hfirst : isEdge (m + 2) 0 = true := isEdge_iff.mpr (.inl rfl)
  have hlast : isEdge (m + 2) (m + 1) = true := isEdge_iff.mpr (.inr rfl)
  rw [List.range_succ_eq_map, List.map_cons, List.sum_cons, List.map_map, List.range_succ,
    List.map_append, List.sum_append]
  simp only [Function.comp_def, Nat.succ_eq_add_one, List.map_singleton, List.sum_singleton,
    hfirst, hlast, if_true, List.map_congr_left hinner, List.map_const', List.length_range,
    List.sum_replicate, smul_eq_mul]
  ring

theorem length_shellCells {n : ℕ} (hn : 2 ≤ n) :
    (shellCells n).length = n ^ 3 - (n - 2) ^ 3 := by
  obtain ⟨m, rfl⟩ := Nat.exists_eq_add_of_le' hn
  -- a face across the first axis is full, and any other layer is a frame
  have hlayer : ∀ x, ((List.range (m + 2)).map fun y =>
      if (isEdge (m + 2) x || isEdge (m + 2) y) = true then m + 2 else 2).sum =
        if isEdge (m + 2) x then (m + 2) * (m + 2) else 2 * (m + 2) + m * 2 := by
    intro x
    cases isEdge (m + 2) x with
    | true => simp
    | false =>
        simp only [Bool.false_or, Bool.false_eq_true, if_false]
        exact sum_range_edge m (m + 2) 2
  have hsum : (shellCells (m + 2)).length =
      2 * ((m + 2) * (m + 2)) + m * (2 * (m + 2) + m * 2) := by
    rw [shellCells_of_le hn, List.length_flatMap]
    simp only [List.length_flatMap, List.length_map, length_shellRow, hlayer]
    exact sum_range_edge m _ _
  rw [hsum, Nat.add_sub_cancel]
  apply Nat.eq_sub_of_add_eq
  ring

/-! ## The fan -/

namespace RayFan

/-- One ray for each cell on the shell of a cube of `n` cells along each axis: the directions are
those of `cells`, which are the cells on the shell in their order. -/
structure CoversShell (fan : RayFan) (n : ℕ) (cells : List Cell) : Prop where
  directions : fan.directions = cells.map (cellDirection n)
  mem_iff : ∀ c, c ∈ cells ↔ c.OnShell n
  ordered : cells.Pairwise Cell.Before
  once : cells.Nodup
  length : fan.directions.length = if n < 2 then 0 else n ^ 3 - (n - 2) ^ 3

/-- **A fan covers the shell** of its grid. -/
theorem coversShell_ofConfig (config : Config) :
    (ofConfig config).CoversShell config.rayGrid (shellCells config.rayGrid) where
  directions := rfl
  mem_iff _ := mem_shellCells
  ordered := pairwise_shellCells _
  once := by
    apply (pairwise_shellCells config.rayGrid).imp
    rintro c d hbefore rfl
    unfold Cell.Before at hbefore
    omega
  length := by
    rw [show (ofConfig config).directions.length = (shellCells config.rayGrid).length from
      List.length_map _]
    split
    · next hn => rw [shellCells_of_lt hn, List.length_nil]
    · next hn => exact length_shellCells (not_lt.mp hn)

end RayFan

end Crater
