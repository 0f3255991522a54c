import Crater.Proofs.Storage

/-!
# Storage as a plain map

The specification of a world's storage: a function from positions to voxels, a
set of guarded positions, and what each call does to the two. Chunks, slots and
hash tables have no place in it. A world *stores* such a map if it answers as
the map does; one call keeps that (`Stores.perform`), and so does every sequence
of calls, with the same answers on both sides.
-/

namespace Crater

/-! ## Boxes of positions -/

namespace Position

/-- Whether a position lies in the box between two corners, given in any order. -/
def InBox (p a b : Position) : Prop :=
  (min a.x b.x ≤ p.x ∧ p.x ≤ max a.x b.x) ∧ (min a.y b.y ≤ p.y ∧ p.y ≤ max a.y b.y) ∧
    (min a.z b.z ≤ p.z ∧ p.z ≤ max a.z b.z)

instance (p a b : Position) : Decidable (p.InBox a b) :=
  inferInstanceAs (Decidable (_ ∧ _ ∧ _))

theorem mem_span {a b n : Int} : n ∈ span a b ↔ min a b ≤ n ∧ n ≤ max a b := by
  simp only [span, List.mem_map, List.mem_range]
  constructor
  · rintro ⟨i, hi, rfl⟩
    omega
  · rintro ⟨hmin, hmax⟩
    exact ⟨(n - min a b).toNat, by omega, by omega⟩

theorem mem_box {a b p : Position} : p ∈ box a b ↔ p.InBox a b := by
  simp only [box, List.mem_flatMap, List.mem_map, mem_span, InBox]
  constructor
  · rintro ⟨y, hy, z, hz, x, hx, rfl⟩
    exact ⟨hx, hy, hz⟩
  · rintro ⟨hx, hy, hz⟩
    exact ⟨p.y, hy, p.z, hz, p.x, hx, rfl⟩

end Position

/-! ## The specification -/

namespace BuildRange

/-- Whether a range begins and ends within 32 bits. -/
structure Fits (range : BuildRange) : Prop where
  lowest : -2 ^ 31 ≤ range.minY
  highest : range.minY + range.height < 2 ^ 31

/-- Whether the `y` of a position is one of the `height` numbers from `minY` upward. -/
def Holds (range : BuildRange) (p : Position) : Prop :=
  range.minY ≤ p.y ∧ p.y < range.minY + range.height

/-- Whether chunks have a place for a position: it must not lie above more layers than 32
bits can number. -/
def Takes (range : BuildRange) (p : Position) : Prop :=
  range.Holds p ∧ p.y - range.minY < 2 ^ 31

instance (range : BuildRange) (p : Position) : Decidable (range.Holds p) :=
  inferInstanceAs (Decidable (_ ∧ _))

instance (range : BuildRange) (p : Position) : Decidable (range.Takes p) :=
  inferInstanceAs (Decidable (_ ∧ _))

end BuildRange

/-- A call that writes to a world or restricts what can be written. -/
inductive StorageCall where
  | place (p : Position) (state : BlockState)
  | placeVoxel (p : Position) (v : Voxel)
  | fill (a b : Position) (state : BlockState)
  | guard (p : Position)
  | setVoxel (p : Position) (state : BlockState) (flags : WriteFlags)

/-- The voxels of a world as one map, and the positions that explosions cannot
write at. -/
structure PlainMap where
  voxel : Position → Voxel := fun _ => .air
  guarded : Position → Bool := fun _ => false

namespace PlainMap

/-- Writes one voxel if `allowed`, and answers whether it did. -/
def write (m : PlainMap) (allowed : Prop) [Decidable allowed] (p : Position) (v : Voxel) :
    Option Bool × PlainMap :=
  if allowed then (some true, { m with voxel := Function.update m.voxel p v })
  else (some false, m)

/-- The answer to a call, if it has one, and the map after it. -/
def perform (range : BuildRange) (m : PlainMap) : StorageCall → Option Bool × PlainMap
  | .place p state => m.write (range.Takes p) p (.ofBlock state)
  | .placeVoxel p v => m.write (range.Takes p) p v
  | .fill a b state =>
    let filled p := if p.InBox a b ∧ range.Takes p then .ofBlock state else m.voxel p
    (none, { m with voxel := filled })
  | .guard p => (none, { m with guarded := Function.update m.guarded p true })
  | .setVoxel p state _ =>
    m.write (range.Takes p ∧ m.guarded p = false) p (.ofBlock state)

def performAll (range : BuildRange) (m : PlainMap) :
    List StorageCall → List (Option Bool) × PlainMap
  | [] => ([], m)
  | call :: rest =>
    let (answer, m) := m.perform range call
    let (answers, m) := performAll range m rest
    (answer :: answers, m)

theorem perform_of_refused {range : BuildRange} {m : PlainMap} {call : StorageCall}
    (h : (m.perform range call).1 = some false) : (m.perform range call).2 = m := by
  have hwrite : ∀ (allowed : Prop) [Decidable allowed] (p : Position) (v : Voxel),
      (m.write allowed p v).1 = some false → (m.write allowed p v).2 = m := by
    intro allowed _ p v hrefused
    rw [write] at hrefused ⊢
    split at hrefused
    · cases hrefused
    · next hnot => rw [if_neg hnot]
  cases call with
  | place p state => exact hwrite _ p _ h
  | placeVoxel p v => exact hwrite _ p v h
  | fill a b state => cases h
  | guard p => cases h
  | setVoxel p state flags => exact hwrite _ p _ h

end PlainMap

/-! ## Heights -/

namespace BuildRange

variable {range : BuildRange} {p : Position}

theorem isOutside_iff (h : range.Fits) : range.isOutside p = true ↔ ¬ range.Holds p := by
  obtain ⟨hlow, hhigh⟩ := h
  have htop : range.maxY = range.minY + range.height :=
    Coordinate.wrap_eq_self_iff.mpr ⟨by omega, hhigh⟩
  rw [isOutside, htop, Bool.or_eq_true, decide_eq_true_eq, decide_eq_true_eq, Holds]
  omega

/-- Where the range ends within 32 bits, the number of a layer comes out right as long as it is
below `2 ^ 31`. Any larger number turns negative, as does that of a height below the range. -/
theorem layer_mem_iff (h : range.Fits) {y : ℤ} (hy : -2 ^ 31 ≤ y ∧ y < 2 ^ 31) :
    0 ≤ range.layer y ∧ range.layer y < range.height ↔
      0 ≤ y - range.minY ∧ y - range.minY < range.height ∧ y - range.minY < 2 ^ 31 := by
  obtain ⟨hlow, hhigh⟩ := h
  rw [layer, Coordinate.wrap_eq_bmod, Int.bmod_def]
  split <;> omega

theorem layer_eq (h : range.Takes p) : range.layer p.y = p.y - range.minY := by
  obtain ⟨⟨hlow, -⟩, hlayer⟩ := h
  exact Coordinate.wrap_eq_self_iff.mpr ⟨by omega, hlayer⟩

/-- **What chunks take**, reckoned in 32 bits and reckoned exactly. -/
theorem accepts_iff (h : range.Fits) : range.accepts p = true ↔ range.Takes p := by
  rw [accepts, Bool.and_eq_true, Bool.not_eq_true', ← Bool.not_eq_true, isOutside_iff h, not_not,
    ChunkCoord.isSome_slot?_containing, Takes]
  refine and_congr_right fun hp => ?_
  obtain ⟨hlow, hhigh⟩ := hp
  have hword : -2 ^ 31 ≤ p.y ∧ p.y < 2 ^ 31 := by
    have hfirst := h.lowest
    have hlast := h.highest
    omega
  rw [Coordinate.wrap_eq_self_iff, layer_mem_iff h hword]
  omega

theorem takes_iff_holds (h : range.height ≤ 2 ^ 31) : range.Takes p ↔ range.Holds p := by
  rw [Takes, Holds]
  omega

end BuildRange

/-! ## The calls on a world -/

namespace Grid

theorem range_fill (g : Grid) (a b : Position) (v : Voxel) : (g.fill a b v).range = g.range := by
  rw [fill]
  induction Position.box a b generalizing g with
  | nil => rfl
  | cons p rest ih => rw [List.foldl_cons, ih, range_set]

/-- **Filling** writes the positions of the box that are accepted, and no others. -/
theorem get_fill (g : Grid) (a b q : Position) (v : Voxel) :
    (g.fill a b v).get q =
      if q.InBox a b ∧ g.range.accepts q = true then v else g.get q := by
  rw [fill]
  simp only [← Position.mem_box]
  induction Position.box a b generalizing g with
  | nil => simp
  | cons p rest ih =>
      rw [List.foldl_cons, ih, range_set, get_set]
      by_cases hrest : q ∈ rest ∧ g.range.accepts q = true
      · rw [if_pos hrest, if_pos ⟨List.mem_cons_of_mem p hrest.1, hrest.2⟩]
      · rw [if_neg hrest]
        refine if_congr ?_ rfl rfl
        constructor
        · rintro ⟨rfl, hp⟩
          exact ⟨List.mem_cons_self, hp⟩
        · rintro ⟨hmem, hq⟩
          rcases List.mem_cons.mp hmem with rfl | hmem
          · exact ⟨rfl, hq⟩
          · exact absurd ⟨hmem, hq⟩ hrest

end Grid

namespace World

def perform (w : World) : StorageCall → Option Bool × World
  | .place p state => (w.place p state).map some id
  | .placeVoxel p v => (w.placeVoxel p v).map some id
  | .fill a b state => (none, w.fill a b state)
  | .guard p => (none, w.guard p)
  | .setVoxel p state flags => (w.setVoxel p state flags).map some id

def performAll (w : World) : List StorageCall → List (Option Bool) × World
  | [] => ([], w)
  | call :: rest =>
    let (answer, w) := w.perform call
    let (answers, w) := performAll w rest
    (answer :: answers, w)

/-- Whether a world answers for its voxels and guards as a plain map does. -/
structure Stores (w : World) (range : BuildRange) (m : PlainMap) : Prop where
  range : w.grid.range = range
  voxel : ∀ p, w.voxel p = m.voxel p
  guarded : ∀ p, w.isGuarded p = m.guarded p

variable {w : World} {range : BuildRange} {m : PlainMap}

/-- Where every layer of the range has its number, a call that is refused changes nothing at
all; elsewhere a chunk of air may have come into being. -/
theorem perform_of_refused (hfits : w.grid.range.Fits) (hlayers : w.grid.range.height ≤ 2 ^ 31)
    {call : StorageCall} (h : (w.perform call).1 = some false) : (w.perform call).2 = w := by
  have hplace : ∀ p v, (w.placeVoxel p v).1 = false → (w.placeVoxel p v).2 = w := by
    intro p v hrefused
    rw [placeVoxel_fst, ← Bool.not_eq_true, BuildRange.accepts_iff hfits,
      BuildRange.takes_iff_holds hlayers, ← BuildRange.isOutside_iff hfits] at hrefused
    rw [placeVoxel, Grid.set_of_isOutside v hrefused]
  cases call with
  | place p state => exact hplace p _ (Option.some.inj h)
  | placeVoxel p v => exact hplace p v (Option.some.inj h)
  | fill a b state => cases h
  | guard p => cases h
  | setVoxel p state flags =>
      have hrefused : w.isWritable p = false := by
        rw [← setVoxel_fst w p state flags]
        exact Option.some.inj h
      show (w.setVoxel p state flags).2 = w
      rw [setVoxel_of_not_isWritable state flags hrefused]
      cases hguard : w.isGuarded p with
      | true => rfl
      | false =>
          rw [isWritable, hguard, Bool.not_false, Bool.true_and] at hrefused
          exact hplace p _ ((w.place_fst p state).trans hrefused)

namespace Stores

/-- One voxel written on both sides, or on neither. -/
theorem set (h : Stores w range m) (hfits : range.Fits) (p : Position) (v : Voxel) :
    Stores { w with grid := (w.grid.set p v).2 } range (m.write (range.Takes p) p v).2 where
  range := (Grid.range_set w.grid p v).trans h.range
  voxel q := by
    show (w.grid.set p v).2.get q = _
    simp only [Grid.get_set, h.range, BuildRange.accepts_iff hfits, PlainMap.write]
    by_cases hp : range.Takes p
    · simp only [hp, and_true, if_true, Function.update_apply, ← h.voxel q]
      rfl
    · rw [if_neg hp, if_neg fun hq => hp hq.2]
      exact h.voxel q
  guarded q := by
    rw [PlainMap.write]
    split <;> exact h.guarded q

theorem placeVoxel (h : Stores w range m) (hfits : range.Fits) (p : Position) (v : Voxel) :
    some (w.placeVoxel p v).1 = (m.write (range.Takes p) p v).1 ∧
      Stores (w.placeVoxel p v).2 range (m.write (range.Takes p) p v).2 := by
  refine ⟨?_, h.set hfits p v⟩
  rw [placeVoxel_fst, h.range, PlainMap.write]
  by_cases hp : range.Takes p
  · rw [if_pos hp, (BuildRange.accepts_iff hfits).mpr hp]
  · rw [if_neg hp, Bool.eq_false_iff.mpr (mt (BuildRange.accepts_iff hfits).mp hp)]

theorem fill (h : Stores w range m) (hfits : range.Fits) (a b : Position) (state : BlockState) :
    Stores (w.fill a b state) range (m.perform range (.fill a b state)).2 where
  range := (Grid.range_fill w.grid a b _).trans h.range
  voxel p := by
    show (w.grid.fill a b (.ofBlock state)).get p = _
    simp only [Grid.get_fill, h.range, BuildRange.accepts_iff hfits,
      show w.grid.get p = m.voxel p from h.voxel p]
    rfl
  guarded := h.guarded

theorem guard (h : Stores w range m) (p : Position) :
    Stores (w.guard p) range { m with guarded := Function.update m.guarded p true } where
  range := h.range
  voxel := h.voxel
  guarded q := by
    show (w.guarded.insert p).contains q = Function.update m.guarded p true q
    rw [Std.HashSet.contains_insert, Function.update_apply, ← h.guarded q]
    by_cases hq : q = p
    · simp [hq]
    · rw [if_neg hq, beq_eq_false_iff_ne.mpr (Ne.symm hq), Bool.false_or]
      rfl

theorem isWritable_iff (h : Stores w range m) (hfits : range.Fits) {p : Position} :
    w.isWritable p = true ↔ range.Takes p ∧ m.guarded p = false := by
  rw [isWritable, h.guarded, h.range, Bool.and_eq_true, Bool.not_eq_true',
    BuildRange.accepts_iff hfits, and_comm]

theorem setVoxel (h : Stores w range m) (hfits : range.Fits) (p : Position) (state : BlockState)
    (flags : WriteFlags) :
    some (w.setVoxel p state flags).1 = (m.perform range (.setVoxel p state flags)).1 ∧
      Stores (w.setVoxel p state flags).2 range
        (m.perform range (.setVoxel p state flags)).2 := by
  have hwritable := h.isWritable_iff hfits (p := p)
  rw [PlainMap.perform, PlainMap.write]
  obtain ⟨hw, grid, hrange, hget, hset⟩ | ⟨hw, bus, hset⟩ := w.setVoxel_cases p state flags
  · rw [hset, if_neg (by simp [← hwritable, hw])]
    exact ⟨rfl, hrange.trans h.range, fun q => (hget q).trans (h.voxel q), h.guarded⟩
  · have hallowed := hwritable.mp hw
    rw [hset, if_pos hallowed]
    have hwritten := h.set hfits p (.ofBlock state)
    rw [PlainMap.write, if_pos hallowed.1] at hwritten
    exact ⟨rfl, hwritten.range, hwritten.voxel, hwritten.guarded⟩

/-- **One call** has the answer that the plain map gives, and leads to a world
that stores the map after the call. -/
theorem perform (h : Stores w range m) (hfits : range.Fits) (call : StorageCall) :
    (w.perform call).1 = (m.perform range call).1 ∧
      Stores (w.perform call).2 range (m.perform range call).2 := by
  cases call with
  | place p state => exact h.placeVoxel hfits p (.ofBlock state)
  | placeVoxel p v => exact h.placeVoxel hfits p v
  | fill a b state => exact ⟨rfl, h.fill hfits a b state⟩
  | guard p => exact ⟨rfl, h.guard p⟩
  | setVoxel p state flags => exact h.setVoxel hfits p state flags

theorem performAll (h : Stores w range m) (hfits : range.Fits) (calls : List StorageCall) :
    (w.performAll calls).1 = (m.performAll range calls).1 ∧
      Stores (w.performAll calls).2 range (m.performAll range calls).2 := by
  induction calls generalizing w m with
  | nil => exact ⟨rfl, h⟩
  | cons call rest ih =>
      obtain ⟨hanswer, hnext⟩ := h.perform hfits call
      obtain ⟨hanswers, hlast⟩ := ih hnext
      refine ⟨?_, hlast⟩
      rw [World.performAll, PlainMap.performAll]
      exact congrArg₂ _ hanswer hanswers

/-- A world without chunks and guards stores the map of air. -/
theorem fresh (w : World) (range : BuildRange) :
    Stores { w with grid := { range }, guarded := ∅ } range {} where
  range := rfl
  voxel p := by
    show ({ range } : Grid).get p = .air
    simp [Grid.get]
  guarded p := by
    show (∅ : Std.HashSet Position).contains p = false
    simp

end Stores

end World

/-! ## Slots -/

/-- The slot of a position that can be built on, by layer, row and place in the
row. For negative coordinates too, the row and the place are remainders. -/
theorem ChunkCoord.exists_slot?_containing {range : BuildRange} (hfits : range.Fits)
    {p : Position} (h : range.Takes p) :
    ∃ i : Fin range.chunkVolume, (containing p).slot? range p = some i ∧
      (i : Int) = ((p.y - range.minY) * 16 + p.z % 16) * 16 + p.x % 16 := by
  have haccepts := (BuildRange.accepts_iff hfits).mpr h
  rw [BuildRange.accepts, Bool.and_eq_true, Option.isSome_iff_exists] at haccepts
  obtain ⟨-, i, hi⟩ := haccepts
  refine ⟨i, hi, ?_⟩
  simp only [slot?, Option.dite_none_right_eq_some, Option.some.injEq,
    BuildRange.layer_eq h] at hi
  obtain ⟨hbounds, rfl⟩ := hi
  simp only [containing, worldX, worldZ] at hbounds ⊢
  push_cast
  omega

/-- What calls on a world come to that has the range and neither chunks nor guards. -/
structure World.FollowsPlainMap (start : World) (range : BuildRange) (calls : List StorageCall) :
    Prop where
  /-- The answers are those of a map that starts as air and has nothing but
  `PlainMap.perform` happen to it. -/
  answers : (start.performAll calls).1 = (PlainMap.performAll range {} calls).1
  stores : Stores (start.performAll calls).2 range (PlainMap.performAll range {} calls).2
  /-- A further call that is refused changes no voxel and no guard. -/
  refused : ∀ call, ((start.performAll calls).2.perform call).1 = some false →
    Stores ((start.performAll calls).2.perform call).2 range (PlainMap.performAll range {} calls).2
  /-- The map takes whatever lies in the range, if that has no more layers than 32 bits can
  number. Then a call that is refused changes nothing at all. -/
  whole : range.height ≤ 2 ^ 31 → (∀ p, range.Takes p ↔ range.Holds p) ∧
    ∀ call, ((start.performAll calls).2.perform call).1 = some false →
      ((start.performAll calls).2.perform call).2 = (start.performAll calls).2
  /-- In a chunk that has come into being, each position of its column that the map takes has
  a slot of its own in the vector. -/
  slots : ∀ c chunk, (start.performAll calls).2.grid.chunks[c]? = some chunk →
    chunk.voxels.toArray.size = 16 * 16 * range.height ∧
    (∀ p, range.Takes p → ChunkCoord.containing p = c →
      ∃ i, c.slot? (start.performAll calls).2.grid.range p = some i ∧
        i.val < chunk.voxels.toArray.size ∧
        (i : Int) = ((p.y - range.minY) * 16 + p.z % 16) * 16 + p.x % 16) ∧
    ∀ p q i, c.slot? (start.performAll calls).2.grid.range p = some i →
      c.slot? (start.performAll calls).2.grid.range q = some i → p = q

/-- **Chunked storage is a plain map** of the positions whose layers can be numbered in 32
bits, and these are all of a range with at most `2 ^ 31` layers. -/
theorem World.stores_performAll (w : World) {range : BuildRange} (hfits : range.Fits)
    (calls : List StorageCall) :
    FollowsPlainMap { w with grid := { range }, guarded := ∅ } range calls := by
  obtain ⟨hanswers, hstores⟩ := (Stores.fresh w range).performAll hfits calls
  have hrange := hstores.range
  refine ⟨hanswers, hstores, ?_, ?_, ?_⟩
  · intro call hrefused
    obtain ⟨hanswer, hafter⟩ := hstores.perform hfits call
    rw [hanswer] at hrefused
    rwa [PlainMap.perform_of_refused hrefused] at hafter
  · intro hlayers
    refine ⟨fun p => BuildRange.takes_iff_holds hlayers, fun call => ?_⟩
    exact perform_of_refused (hrange.symm ▸ hfits) (hrange.symm ▸ hlayers)
  · intro c chunk _
    have hsize : chunk.voxels.toArray.size = 16 * 16 * range.height := by
      rw [Vector.size_toArray, hrange, BuildRange.chunkVolume]
    refine ⟨hsize, ?_, fun p q i => ChunkCoord.slot?_inj⟩
    rintro p hp rfl
    have hslots : ∀ r : BuildRange, r = range → ∃ i : Fin r.chunkVolume,
        (ChunkCoord.containing p).slot? r p = some i ∧
          (i : Int) = ((p.y - range.minY) * 16 + p.z % 16) * 16 + p.x % 16 := by
      rintro _ rfl
      exact ChunkCoord.exists_slot?_containing hfits hp
    obtain ⟨i, hslot, hi⟩ := hslots _ hrange
    refine ⟨i, hslot, ?_, hi⟩
    rw [Vector.size_toArray]
    exact i.isLt

/-- Calls at a corner of four chunks and at both ends of the build height. -/
def StorageCall.corner : List StorageCall :=
  [.fill ⟨0, -63, 15⟩ ⟨-1, -66, 16⟩ ⟨⟨1⟩, 0⟩, .guard ⟨-1, -64, 15⟩,
    .setVoxel ⟨-1, -64, 15⟩ .air .standard, .setVoxel ⟨0, -64, 16⟩ .air .standard,
    .place ⟨0, 320, 0⟩ ⟨⟨1⟩, 0⟩]

theorem World.stores_performAll_corner : ({} : BuildRange).Fits ∧
    FollowsPlainMap (.empty .builtin {}) {} StorageCall.corner ∧
    ((World.empty .builtin {}).performAll StorageCall.corner).1 =
      [none, none, some false, some true, some false] := by
  have hfits : ({} : BuildRange).Fits := ⟨by decide, by decide⟩
  have hfollows : FollowsPlainMap (.empty .builtin {}) {} StorageCall.corner :=
    stores_performAll (.empty .builtin {}) hfits StorageCall.corner
  exact ⟨hfits, hfollows, hfollows.answers.trans (by decide)⟩

/-! ## A layer without a number -/

/-- A range that begins at the lowest coordinate of all and ends at 52. -/
def BuildRange.tower : BuildRange := ⟨-2 ^ 31, 2 ^ 31 + 52⟩

/-- **A write inside the build height may be refused**: above `2 ^ 31` layers it finds no place
in its chunk. -/
theorem World.not_place_tower : BuildRange.tower.Fits ∧ BuildRange.tower.Holds ⟨0, 20, 0⟩ ∧
    ((World.empty .builtin .tower).place ⟨0, 20, 0⟩ ⟨⟨1⟩, 0⟩).1 = false ∧
    ((World.empty .builtin .tower).place ⟨0, 20, 0⟩ ⟨⟨1⟩, 0⟩).2.voxel ⟨0, 20, 0⟩ = .air := by
  have haccepts : BuildRange.tower.accepts ⟨0, 20, 0⟩ = false := by decide
  refine ⟨⟨by decide, by decide⟩, by decide,
    (place_fst _ _ _).trans haccepts, ?_⟩
  refine ((World.empty .builtin .tower).grid.get_set_of_not_accepts _ haccepts _).trans ?_
  exact (Stores.fresh (.empty .builtin .tower) .tower).voxel _

end Crater
