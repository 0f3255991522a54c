/-!
# Voxel contents

A voxel holds a block state and a fluid state. Block zero is air and fluid zero is no fluid.
-/

namespace Crater

/-- A kind of block, by its number in the registry. -/
structure BlockId where
  index : Nat
  deriving DecidableEq, Hashable, Inhabited

def BlockId.air : BlockId := ⟨0⟩

/-- A block with its metadata byte. -/
structure BlockState where
  block : BlockId
  metadata : Nat := 0
  deriving DecidableEq, Inhabited

def BlockState.air : BlockState := ⟨.air, 0⟩

structure FluidId where
  index : Nat
  deriving DecidableEq, Hashable, Inhabited

def FluidId.empty : FluidId := ⟨0⟩

structure FluidState where
  fluid : FluidId
  level : Nat
  deriving DecidableEq, Inhabited

namespace FluidState

def empty : FluidState := ⟨.empty, 0⟩

def sourceLevel : Nat := 8

def source (fluid : FluidId) : FluidState := ⟨fluid, sourceLevel⟩

/-- Whether there is no fluid, whatever the level says. -/
def isEmpty (f : FluidState) : Bool := f.fluid == .empty

end FluidState

/-- The contents of one cube of the grid. -/
structure Voxel where
  block : BlockState
  fluid : FluidState
  deriving DecidableEq, Inhabited

namespace Voxel

def air : Voxel := ⟨.air, .empty⟩

def ofBlock (state : BlockState) : Voxel := ⟨state, .empty⟩

def ofFluid (fluid : FluidState) : Voxel := ⟨.air, fluid⟩

end Voxel

end Crater
