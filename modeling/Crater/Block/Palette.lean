import Crater.Block.Registry
/-!
# Palettes

A palette lists kinds of blocks and fluids to load into an empty registry. Loading takes the tables in
order, blocks before fluids, and stops at the first table that is at fault.
-/

namespace Crater

inductive HandlerKind where
  | dropSelf
  | noDrops
  | trigger
  deriving DecidableEq, Inhabited

namespace HandlerKind

def handler : HandlerKind → Handler
  | dropSelf => .dropSelf
  | noDrops => .noDrops
  | trigger => .trigger

def ofName? : String → Option HandlerKind
  | "drop_self" => some dropSelf
  | "no_drops" => some noDrops
  | "trigger" => some trigger
  | _ => none

end HandlerKind

structure BlockSpec where
  name : String
  resistance : Float32
  solid : Bool := true
  collision : Bool := true
  /-- Whether the block leaves an item of its own number. -/
  drops : Bool := false
  maxStack : Nat := ItemStack.defaultMaxStack
  handler : HandlerKind := .dropSelf
  deriving DecidableEq

structure FluidSpec where
  name : String
  resistance : Float32
  deriving DecidableEq

/-- The kinds that a world is to have beside air and no fluid. -/
structure Palette where
  blocks : List BlockSpec
  fluids : List FluidSpec
  deriving DecidableEq

/-- Whether a resistance may stand in a palette: any number that is not negative, infinity
included. -/
def validResistance (r : Float32) : Bool := !(r.isNaN || r < 0.0)

/-- The kind of block that a table describes, if it gets number `id`. -/
def BlockSpec.toType (spec : BlockSpec) (id : BlockId) : BlockType where
  name := spec.name
  resistance := spec.resistance
  solidRender := spec.solid
  collision := spec.collision
  dropItem := if spec.drops then some ⟨id.index⟩ else none
  dropMaxStack := spec.maxStack
  handler := spec.handler.handler

namespace Registry

def load (r : Registry) (spec : BlockSpec) : Except PaletteFault Registry := do
  if (r.byName? spec.name).isSome then throw (.duplicateBlock spec.name)
  if !validResistance spec.resistance then throw (.blockResistance spec.name spec.resistance)
  let id ← r.nextId
  return r.add (spec.toType id)

def loadFluid (r : Registry) (spec : FluidSpec) : Except PaletteFault Registry := do
  if (r.fluidByName? spec.name).isSome then throw (.duplicateFluid spec.name)
  if !validResistance spec.resistance then throw (.fluidResistance spec.name spec.resistance)
  let _ ← r.nextFluidId
  return r.addFluid ⟨spec.name, spec.resistance⟩

def ofPalette (palette : Palette) : Except PaletteFault Registry := do
  let r ← palette.blocks.foldlM load empty
  palette.fluids.foldlM loadFluid r

end Registry

end Crater
