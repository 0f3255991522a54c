import Crater.Block.State
import Crater.Geometry.Position
/-!
# Chunks

Voxels are stored in columns of 16 by 16 positions over the whole build height. A chunk keeps its
voxels in one vector, layer by layer from below and row by row along `x` within a layer.

Heights are reckoned in 32 bits with a sign, and sums and differences of them wrap around. The top of
a range is right all the same if it has a coordinate at all; but the number of a layer is not, if there
are `2 ^ 31` layers or more below it, and such a layer has no place in a chunk.
-/

namespace Crater

/-- What 32 bits with a sign keep of an integer. -/
def Coordinate.wrap (n : Int) : Int := n.toInt32.toInt

open Coordinate (wrap)

/-- The range of `y` coordinates that can be built on: `height` of them from `minY` upward. -/
structure BuildRange where
  minY : Int := -64
  height : Nat := 384

namespace BuildRange

/-- One past the highest coordinate of the range. -/
def maxY (range : BuildRange) : Int := wrap (range.minY + range.height)

def isOutside (range : BuildRange) (p : Position) : Bool := p.y < range.minY || p.y ≥ range.maxY

/-- The number of the layer at a height, the lowest being layer 0. -/
def layer (range : BuildRange) (y : Int) : Int := wrap (y - range.minY)

def chunkVolume (range : BuildRange) : Nat := 16 * 16 * range.height

end BuildRange

/-- A column of the world grid. -/
structure ChunkCoord where
  x : Int
  z : Int
  deriving DecidableEq, Hashable, Inhabited

namespace ChunkCoord

/-- The column that holds a position. -/
def containing (p : Position) : ChunkCoord := ⟨p.x / 16, p.z / 16⟩

def worldX (c : ChunkCoord) : Int := c.x * 16

def worldZ (c : ChunkCoord) : Int := c.z * 16

/-- The place of a position in the vector of the chunk in this column; none if it lies in another
column, or if its layer is none of the chunk's. -/
def slot? (c : ChunkCoord) (range : BuildRange) (p : Position) : Option (Fin range.chunkVolume) :=
  let x := p.x - c.worldX
  let y := range.layer p.y
  let z := p.z - c.worldZ
  -- a height beyond 32 bits would be taken for the one that it wraps around to
  if h : wrap p.y = p.y ∧ 0 ≤ x ∧ x < 16 ∧ 0 ≤ z ∧ z < 16 ∧ 0 ≤ y ∧ y < range.height then
    some ⟨(y.toNat * 16 + z.toNat) * 16 + x.toNat, by
      obtain ⟨-, hx, hx', hz, hz', hy, hy'⟩ := h
      simp only [BuildRange.chunkVolume]
      omega⟩
  else none

end ChunkCoord

structure Chunk (range : BuildRange) where
  voxels : Vector Voxel range.chunkVolume
  /-- Whether a voxel was ever written. -/
  modified : Bool := false

namespace Chunk

variable {range : BuildRange}

def empty : Chunk range := ⟨Vector.replicate range.chunkVolume Voxel.air, false⟩

/-- The voxel at a position, if the chunk is the one in column `c`; air elsewhere. -/
def get (chunk : Chunk range) (c : ChunkCoord) (p : Position) : Voxel :=
  match c.slot? range p with
  | some i => chunk.voxels[i]
  | none => Voxel.air

/-- Writes the voxel at a position and tells whether the position lies in the chunk. -/
def set (chunk : Chunk range) (c : ChunkCoord) (p : Position) (v : Voxel) : Bool × Chunk range :=
  match c.slot? range p with
  | some i => (true, ⟨chunk.voxels.set i v, true⟩)
  | none => (false, chunk)

def occupied (chunk : Chunk range) : Nat :=
  chunk.voxels.toArray.foldl (fun n v => if v = Voxel.air then n else n + 1) 0

end Chunk

end Crater
