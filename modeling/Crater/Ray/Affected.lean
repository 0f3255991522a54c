import Std.Data.TreeSet
import Crater.Geometry.Position
/-!
# Affected voxels

The set of positions that a blast destroys. It is listed in the order of positions, whatever order
they were put in, so that everything that follows depends on the set alone.
-/

namespace Crater

structure AffectedSet where
  cells : Std.TreeSet Position compare := ∅

namespace AffectedSet

def empty : AffectedSet := {}

instance : Inhabited AffectedSet := ⟨empty⟩

def insert (s : AffectedSet) (p : Position) : AffectedSet := ⟨s.cells.insert p⟩

/-- Adds a position, and tells whether it is new. -/
def enter (s : AffectedSet) (p : Position) : Bool × AffectedSet :=
  let (known, cells) := s.cells.containsThenInsert p
  (!known, ⟨cells⟩)

def contains (s : AffectedSet) (p : Position) : Bool := s.cells.contains p

def size (s : AffectedSet) : Nat := s.cells.size

def isEmpty (s : AffectedSet) : Bool := s.cells.isEmpty

def toList (s : AffectedSet) : List Position := s.cells.toList

def ofList (ps : List Position) : AffectedSet := ps.foldl insert empty

end AffectedSet

end Crater
