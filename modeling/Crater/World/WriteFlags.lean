/-!
# Write flags

What a write to the world sets in motion. Flags are bits of one byte; a set of flags is asked for any
of the bits of another.
-/

namespace Crater

structure WriteFlags where
  bits : UInt8
  deriving DecidableEq, Inhabited

namespace WriteFlags

/-- Nothing but the write itself. -/
def none : WriteFlags := ⟨0⟩

/-- Neighbours are told. -/
def notify : WriteFlags := ⟨1⟩

/-- Observers are told. -/
def sync : WriteFlags := ⟨2⟩

def has (a b : WriteFlags) : Bool := a.bits &&& b.bits != 0

def union (a b : WriteFlags) : WriteFlags := ⟨a.bits ||| b.bits⟩

/-- What explosions write with: neighbours and observers are told. -/
def standard : WriteFlags := notify.union sync

end WriteFlags

end Crater
