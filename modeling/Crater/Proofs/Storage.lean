import Mathlib
import Crater.World.Basic

/-!
# Storage

Chunks are bookkeeping: seen from outside, a grid is one map from positions to
voxels. A write is either refused, and then no position reads differently for it,
or it sets one voxel and leaves all others alone. A refused write may still bring
a chunk of air into being. Only finitely many voxels ever differ from air, so
voxels can be counted.

The last section lifts this to worlds. Writing a voxel and telling the bus are
the only steps of a commit that touch a world outside its drops, and
`setVoxel_cases` says all that such a step can do.
-/

namespace Crater

open Coordinate (wrap)

/-! ## Heights in 32 bits -/

namespace Coordinate

theorem wrap_eq_bmod (n : ℤ) : wrap n = n.bmod (2 ^ 32) := Int32.toInt_ofInt

theorem wrap_eq_self_iff {n : ℤ} : wrap n = n ↔ -2 ^ 31 ≤ n ∧ n < 2 ^ 31 := by
  rw [wrap_eq_bmod, Int.bmod_def]
  split <;> omega

/-- Differences to one height tell two others apart. -/
theorem eq_of_wrap_sub_eq {y z m : ℤ} (hy : wrap y = y) (hz : wrap z = z)
    (h : wrap (y - m) = wrap (z - m)) : y = z := by
  rw [wrap_eq_self_iff] at hy hz
  rw [wrap_eq_bmod, wrap_eq_bmod, Int.bmod_def, Int.bmod_def] at h
  split at h <;> split at h <;> omega

end Coordinate

/-! ## Slots of a chunk -/

namespace ChunkCoord

theorem isSome_slot?_containing {range : BuildRange} {p : Position} :
    ((containing p).slot? range p).isSome = true ↔
      wrap p.y = p.y ∧ 0 ≤ range.layer p.y ∧ range.layer p.y < range.height := by
  have hcolumn : 0 ≤ p.x - (containing p).worldX ∧ p.x - (containing p).worldX < 16 ∧
      0 ≤ p.z - (containing p).worldZ ∧ p.z - (containing p).worldZ < 16 := by
    simp only [containing, worldX, worldZ]
    omega
  obtain ⟨hx, hx', hz, hz'⟩ := hcolumn
  rw [slot?]
  constructor
  · intro h
    split at h
    · next hslot => exact ⟨hslot.1, hslot.2.2.2.2.2⟩
    · cases h
  · rintro ⟨hword, hlayer⟩
    rw [dif_pos ⟨hword, hx, hx', hz, hz', hlayer⟩]
    rfl

/-- A slot holds one position: row, layer and place in the row can be read off
its number. -/
theorem slot?_inj {range : BuildRange} {c : ChunkCoord} {p q : Position}
    {i : Fin range.chunkVolume} (hp : c.slot? range p = some i) (hq : c.slot? range q = some i) :
    p = q := by
  simp only [slot?, Option.dite_none_right_eq_some, Option.some.injEq] at hp hq
  obtain ⟨⟨hpy, hp⟩, rfl⟩ := hp
  obtain ⟨⟨hqy, hq⟩, hi⟩ := hq
  simp only [Fin.mk.injEq] at hi
  have hlayer : range.layer p.y = range.layer q.y := by omega
  have hy : p.y = q.y := Coordinate.eq_of_wrap_sub_eq hpy hqy hlayer
  obtain ⟨px, py, pz⟩ := p
  obtain ⟨qx, qy, qz⟩ := q
  simp only [Position.mk.injEq]
  simp only at hp hq hi hy
  omega

/-- The positions of one column that have a slot are finitely many. -/
theorem finite_setOf_slot? (c : ChunkCoord) (range : BuildRange) :
    {p | (c.slot? range p).isSome}.Finite := by
  refine Set.Finite.of_injOn (f := c.slot? range) (t := Set.univ) (fun _ _ => trivial) ?_
    Set.finite_univ
  intro p hp q hq h
  obtain ⟨i, hi⟩ := Option.isSome_iff_exists.mp hp
  exact slot?_inj hi (h ▸ hi)

end ChunkCoord

namespace Chunk

variable {range : BuildRange} {c : ChunkCoord} {p q : Position} {i : Fin range.chunkVolume}

theorem get_of_slot? (chunk : Chunk range) (hp : c.slot? range p = some i) :
    chunk.get c p = chunk.voxels.get i := by
  simp [get, hp, Vector.get_eq_getElem]

theorem get_of_slot?_eq_none (chunk : Chunk range) (hp : c.slot? range p = none) :
    chunk.get c p = Voxel.air := by
  simp [get, hp]

theorem set_of_slot? (chunk : Chunk range) (v : Voxel) (hp : c.slot? range p = some i) :
    chunk.set c p v = (true, ⟨chunk.voxels.set i v i.isLt, true⟩) := by
  simp [set, hp]

theorem get_set_self (chunk : Chunk range) (v : Voxel) (hp : c.slot? range p = some i) :
    (chunk.set c p v).2.get c p = v := by
  rw [get_of_slot? _ hp, set_of_slot? _ _ hp]
  simp [Vector.get_eq_getElem]

theorem get_set_of_ne (chunk : Chunk range) (v : Voxel) (h : q ≠ p) :
    (chunk.set c p v).2.get c q = chunk.get c q := by
  cases hp : c.slot? range p with
  | none => simp [set, hp]
  | some i =>
      cases hq : c.slot? range q with
      | none => simp [get, hq]
      | some j =>
          have hij : i ≠ j := by
            rintro rfl
            exact h (ChunkCoord.slot?_inj hq hp)
          rw [get_of_slot? _ hq, get_of_slot? _ hq, set_of_slot? _ _ hp]
          simp [Vector.get_eq_getElem, Fin.val_ne_of_ne hij]

theorem get_empty (c : ChunkCoord) (p : Position) : (empty : Chunk range).get c p = Voxel.air := by
  simp only [get, empty]
  split <;> simp

end Chunk

/-- Whether a voxel can be written at a position: the position lies inside the build
height, and its layer is one of the chunk's. -/
def BuildRange.accepts (range : BuildRange) (p : Position) : Bool :=
  !range.isOutside p && ((ChunkCoord.containing p).slot? range p).isSome

/-! ## The grid as one map -/

namespace Grid

theorem range_set (g : Grid) (p : Position) (v : Voxel) : (g.set p v).2.range = g.range := by
  rw [set]
  split <;> rfl

theorem set_of_isOutside {g : Grid} {p : Position} (v : Voxel)
    (h : g.range.isOutside p = true) : g.set p v = (false, g) := by
  rw [set, if_pos h]

theorem set_of_isInside {g : Grid} {p : Position} (v : Voxel)
    (h : g.range.isOutside p = false) :
    g.set p v = (((ChunkCoord.containing p).slot? g.range p).isSome,
      { range := g.range
        chunks := g.chunks.alter (ChunkCoord.containing p)
          (fun chunk => some (writeChunk (ChunkCoord.containing p) p v chunk)) }) := by
  rw [set, if_neg (by simp [h])]

theorem set_fst (g : Grid) (p : Position) (v : Voxel) :
    (g.set p v).1 = g.range.accepts p := by
  rw [BuildRange.accepts]
  cases h : g.range.isOutside p with
  | true => rw [set_of_isOutside v h]; rfl
  | false => rw [set_of_isInside v h]; rfl

/-- What can be told apart from air has a slot. -/
theorem isSome_slot?_of_get_ne_air {g : Grid} {p : Position} (h : g.get p ≠ Voxel.air) :
    ((ChunkCoord.containing p).slot? g.range p).isSome = true := by
  cases hslot : (ChunkCoord.containing p).slot? g.range p with
  | some i => rfl
  | none =>
      refine absurd ?_ h
      simp only [get]
      split
      · exact Chunk.get_of_slot?_eq_none _ hslot
      · rfl

theorem get_set_self {g : Grid} {p : Position} (v : Voxel) (h : g.range.accepts p = true) :
    (g.set p v).2.get p = v := by
  rw [BuildRange.accepts, Bool.and_eq_true, Bool.not_eq_true', Option.isSome_iff_exists] at h
  obtain ⟨hinside, i, hi⟩ := h
  rw [set_of_isInside v hinside]
  simp only [get, Std.HashMap.getElem?_alter_self]
  cases g.chunks[ChunkCoord.containing p]? <;> exact Chunk.get_set_self _ v hi

theorem get_set_of_ne (g : Grid) {p q : Position} (v : Voxel) (h : q ≠ p) :
    (g.set p v).2.get q = g.get q := by
  cases hout : g.range.isOutside p with
  | true => rw [set_of_isOutside v hout]
  | false =>
      rw [set_of_isInside v hout]
      simp only [get, Std.HashMap.getElem?_alter]
      by_cases hc : ChunkCoord.containing p = ChunkCoord.containing q
      · rw [if_pos (by simpa using hc), hc]
        cases g.chunks[ChunkCoord.containing q]? with
        | none => exact (Chunk.get_set_of_ne _ v h).trans (Chunk.get_empty _ _)
        | some chunk => exact Chunk.get_set_of_ne chunk v h
      · rw [if_neg (by simpa using hc)]
        cases g.chunks[ChunkCoord.containing q]? <;> rfl

/-- A write that is not accepted shows nowhere. -/
theorem get_set_of_not_accepts (g : Grid) {p : Position} (v : Voxel)
    (h : g.range.accepts p = false) (q : Position) : (g.set p v).2.get q = g.get q := by
  by_cases hq : q = p
  · subst hq
    cases hout : g.range.isOutside q with
    | true => rw [set_of_isOutside v hout]
    | false =>
        -- without a slot, the position reads as air before and after
        have hslot : ((ChunkCoord.containing q).slot? g.range q).isSome ≠ true := by
          simpa [BuildRange.accepts, hout] using h
        have hbefore := mt isSome_slot?_of_get_ne_air hslot
        rw [← range_set g q v] at hslot
        have hafter := mt isSome_slot?_of_get_ne_air hslot
        rw [not_not.mp hbefore, not_not.mp hafter]
  · exact g.get_set_of_ne v hq

theorem get_set (g : Grid) (p q : Position) (v : Voxel) :
    (g.set p v).2.get q = if q = p ∧ g.range.accepts p = true then v else g.get q := by
  cases h : g.range.accepts p with
  | false => rw [g.get_set_of_not_accepts v h, if_neg (by simp)]
  | true =>
      by_cases hq : q = p
      · subst hq
        rw [get_set_self v h, if_pos ⟨rfl, rfl⟩]
      · rw [g.get_set_of_ne v hq, if_neg fun hpq => hq hpq.1]

/-- A voxel that differs from air lies in one of the chunks that exist. -/
theorem finite_setOf_get_ne_air (g : Grid) : {p | g.get p ≠ Voxel.air}.Finite := by
  refine Set.Finite.subset (Set.Finite.biUnion (List.finite_toSet g.chunks.keys)
    fun c _ => c.finite_setOf_slot? g.range) ?_
  intro p hp
  -- the position lies in a chunk that exists, and there in one of its slots
  have hkey : ChunkCoord.containing p ∈ g.chunks.keys := by
    rw [Std.HashMap.mem_keys, Std.HashMap.mem_iff_isSome_getElem?]
    rw [Set.mem_ofPred_eq, get] at hp
    cases hchunk : g.chunks[ChunkCoord.containing p]? with
    | none => simp [hchunk] at hp
    | some chunk => rfl
  exact Set.mem_biUnion hkey (isSome_slot?_of_get_ne_air hp)

end Grid

/-! ## Writing to a world -/

namespace World

/-- Whether an explosion's write at a position is accepted: no guard is on it, and the grid has
a place for it. -/
def isWritable (w : World) (p : Position) : Bool := !w.isGuarded p && w.grid.range.accepts p

theorem isWritable_of_isGuarded {w : World} {p : Position} (h : w.isGuarded p = true) :
    w.isWritable p = false := by
  simp [isWritable, h]

/-- What no commit ever changes: all of a world but its voxels, its drops and
what waits on the bus. -/
structure SameSetting (w w' : World) : Prop where
  registry : w'.registry = w.registry
  range : w'.grid.range = w.grid.range
  guarded : w'.guarded = w.guarded
  population : w'.population = w.population
  effects : w'.effects = w.effects

namespace SameSetting

theorem refl (w : World) : SameSetting w w := ⟨rfl, rfl, rfl, rfl, rfl⟩

theorem trans {a b c : World} (hab : SameSetting a b) (hbc : SameSetting b c) :
    SameSetting a c :=
  ⟨hbc.registry.trans hab.registry, hbc.range.trans hab.range, hbc.guarded.trans hab.guarded,
    hbc.population.trans hab.population, hbc.effects.trans hab.effects⟩

theorem isWritable {w w' : World} (h : SameSetting w w') (p : Position) :
    w'.isWritable p = w.isWritable p := by
  simp only [World.isWritable, World.isGuarded, h.guarded, h.range]

end SameSetting

theorem publish_eq (w : World) (event : Event) : ∃ bus, w.publish event = { w with bus } := by
  rw [publish, send]
  split
  · exact ⟨w.bus, rfl⟩
  · exact ⟨_, rfl⟩

theorem placeVoxel_fst (w : World) (p : Position) (v : Voxel) :
    (w.placeVoxel p v).1 = w.grid.range.accepts p :=
  w.grid.set_fst p v

theorem place_fst (w : World) (p : Position) (state : BlockState) :
    (w.place p state).1 = w.grid.range.accepts p :=
  w.placeVoxel_fst p (.ofBlock state)

theorem voxel_place_self {w : World} {p : Position} (h : w.grid.range.accepts p = true)
    (state : BlockState) : (w.place p state).2.voxel p = .ofBlock state :=
  Grid.get_set_self (.ofBlock state) h

/-- A write that is accepted sets one voxel, and publishes it if observers are to see. -/
theorem setVoxel_of_isWritable {w : World} {p : Position} (state : BlockState)
    (flags : WriteFlags) (hw : w.isWritable p = true) : w.setVoxel p state flags =
      (true, if flags.has .sync then (w.place p state).2.publish (.voxelChanged p state.block)
        else (w.place p state).2) := by
  rw [isWritable, Bool.and_eq_true, Bool.not_eq_true'] at hw
  obtain ⟨hfree, haccepts⟩ := hw
  have hplaced : (w.place p state).1 = true := (w.place_fst p state).trans haccepts
  simp only [setVoxel, hfree, hplaced, Bool.true_and, Bool.false_eq_true, if_false]
  split <;> rfl

/-- A write that is refused does not even place, or places where nothing can be. -/
theorem setVoxel_of_not_isWritable {w : World} {p : Position} (state : BlockState)
    (flags : WriteFlags) (hw : w.isWritable p = false) : w.setVoxel p state flags =
      (false, if w.isGuarded p then w else (w.place p state).2) := by
  rw [setVoxel]
  cases hguard : w.isGuarded p with
  | true => rfl
  | false =>
      have hplaced : (w.place p state).1 = false := by
        rw [isWritable, hguard, Bool.not_false, Bool.true_and] at hw
        exact (w.place_fst p state).trans hw
      simp only [hplaced, Bool.false_and, Bool.false_eq_true, if_false]

/-- **All that a write can do.** Either it is refused and no voxel shows it, or one voxel
is set and the bus may have been told. -/
theorem setVoxel_cases (w : World) (p : Position) (state : BlockState) (flags : WriteFlags) :
    (w.isWritable p = false ∧ ∃ grid : Grid, grid.range = w.grid.range ∧
      (∀ q, grid.get q = w.grid.get q) ∧ w.setVoxel p state flags = (false, { w with grid })) ∨
    (w.isWritable p = true ∧ ∃ bus, w.setVoxel p state flags =
      (true, { w with grid := (w.grid.set p (.ofBlock state)).2, bus })) := by
  cases hw : w.isWritable p with
  | false =>
      rw [setVoxel_of_not_isWritable state flags hw]
      refine .inl ⟨rfl, ?_⟩
      cases hguard : w.isGuarded p with
      | true => exact ⟨w.grid, rfl, fun _ => rfl, rfl⟩
      | false =>
          rw [isWritable, hguard, Bool.not_false, Bool.true_and] at hw
          exact ⟨_, w.grid.range_set p _, w.grid.get_set_of_not_accepts _ hw, rfl⟩
  | true =>
      rw [setVoxel_of_isWritable state flags hw]
      refine .inr ⟨rfl, ?_⟩
      split
      · obtain ⟨bus, hbus⟩ := publish_eq (w.place p state).2 (.voxelChanged p state.block)
        exact ⟨bus, by rw [hbus]; rfl⟩
      · exact ⟨w.bus, rfl⟩

variable (w : World) (p : Position) (state : BlockState) (flags : WriteFlags)

theorem setVoxel_fst : (w.setVoxel p state flags).1 = w.isWritable p := by
  obtain ⟨hw, _, -, -, h⟩ | ⟨hw, bus, h⟩ := w.setVoxel_cases p state flags <;> rw [h, hw]

theorem setVoxel_sameSetting : SameSetting w (w.setVoxel p state flags).2 := by
  obtain ⟨-, grid, hrange, -, h⟩ | ⟨-, bus, h⟩ := w.setVoxel_cases p state flags <;> rw [h]
  · exact ⟨rfl, hrange, rfl, rfl, rfl⟩
  · exact ⟨rfl, Grid.range_set _ _ _, rfl, rfl, rfl⟩

theorem setVoxel_drops : (w.setVoxel p state flags).2.drops = w.drops := by
  obtain ⟨-, grid, -, -, h⟩ | ⟨-, bus, h⟩ := w.setVoxel_cases p state flags <;> rw [h]

variable {w p}

theorem voxel_setVoxel_self (hw : w.isWritable p = true) :
    (w.setVoxel p state flags).2.voxel p = .ofBlock state := by
  obtain ⟨hw', -⟩ | ⟨-, bus, h⟩ := w.setVoxel_cases p state flags
  · exact absurd hw (by simp [hw'])
  · rw [isWritable, Bool.and_eq_true] at hw
    rw [h]
    exact Grid.get_set_self _ hw.2

theorem voxel_setVoxel_of_ne {q : Position} (hq : q ≠ p) :
    (w.setVoxel p state flags).2.voxel q = w.voxel q := by
  obtain ⟨-, grid, -, hget, h⟩ | ⟨-, bus, h⟩ := w.setVoxel_cases p state flags <;> rw [h]
  · exact hget q
  · exact Grid.get_set_of_ne _ _ hq

theorem voxel_setVoxel_of_not_isWritable (hw : w.isWritable p = false) (q : Position) :
    (w.setVoxel p state flags).2.voxel q = w.voxel q := by
  obtain ⟨-, grid, -, hget, h⟩ | ⟨hw', -⟩ := w.setVoxel_cases p state flags
  · rw [h]
    exact hget q
  · exact absurd hw' (by simp [hw])

end World

end Crater
