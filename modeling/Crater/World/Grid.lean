import Std.Data.HashMap
import Crater.World.Chunk
/-!
# The voxel grid

All voxels of a world: chunks that come into being when they are first written to. A position in a
chunk that does not exist reads as air.
-/

namespace Crater

structure Grid where
  range : BuildRange
  chunks : Std.HashMap ChunkCoord (Chunk range) := ∅

namespace Grid

def get (g : Grid) (p : Position) : Voxel :=
  let c := ChunkCoord.containing p
  match g.chunks[c]? with
  | some chunk => chunk.get c p
  | none => Voxel.air

/-- The chunk of a column with one voxel written, whether or not it existed before. -/
def writeChunk {range : BuildRange} (c : ChunkCoord) (p : Position) (v : Voxel) :
    Option (Chunk range) → Chunk range
  | some chunk => (chunk.set c p v).2
  | none => (Chunk.empty.set c p v).2

/-- Writes a voxel, and tells whether there was a place for it. Inside the build height the chunk comes
into being in any case. -/
def set (g : Grid) (p : Position) (v : Voxel) : Bool × Grid :=
  if g.range.isOutside p then (false, g)
  else
    let c := ChunkCoord.containing p
    ((c.slot? g.range p).isSome,
      { g with chunks := g.chunks.alter c fun chunk => some (writeChunk c p v chunk) })

def fill (g : Grid) (a b : Position) (v : Voxel) : Grid :=
  (Position.box a b).foldl (fun g p => (g.set p v).2) g

end Grid

end Crater
