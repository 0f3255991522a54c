import Std.Data.HashMap
import Crater.Block.Handler
import Crater.Number.Single
/-!
# Block registry

The kinds of blocks and fluids of a world, numbered in the order in which they were registered. A
block is found under the name that was registered last, a fluid under the name that was registered
first. Numbers are limited to 16 bits for blocks and 8 bits for fluids.
-/

namespace Crater

/-- A kind of block: its traits and its reaction to a blast. -/
structure BlockType extends BlockTraits where
  handler : Handler := .noDrops

namespace BlockType

def solid (name : String) (resistance : Float32) : BlockType := { name, resistance }

/-- Neither fills its cube nor blocks lines of sight. -/
def nonSolid (b : BlockType) : BlockType := { b with solidRender := false, collision := false }

def withDrop (b : BlockType) (item : ItemId) : BlockType := { b with dropItem := some item }

def withHandler (b : BlockType) (handler : Handler) : BlockType := { b with handler }

def air : BlockType := { (solid "air" 0.0).nonSolid with isAir := true }

/-- What a number that was never registered stands for: a block no ray gets through. -/
def unknown : BlockType := solid "unknown" Single.infinity

end BlockType

structure FluidType where
  name : String
  resistance : Float32

inductive PaletteFault where
  | duplicateBlock (name : String)
  | blockResistance (name : String) (resistance : Float32)
  | blocksFull (count : Nat)
  | duplicateFluid (name : String)
  | fluidResistance (name : String) (resistance : Float32)
  | fluidsFull (count : Nat)

def PaletteFault.message : PaletteFault → String
  | duplicateBlock name => s!"duplicate block name: {name}"
  | blockResistance name r => s!"block {name} has invalid resistance " ++ Decimal.plainSingle r
  | blocksFull count => s!"block palette is full at {count} types"
  | duplicateFluid name => s!"duplicate fluid name: {name}"
  | fluidResistance name r => s!"fluid {name} has invalid resistance " ++ Decimal.plainSingle r
  | fluidsFull count => s!"fluid palette is full at {count} types"

/-- The kinds of blocks and fluids of a world. -/
structure Registry where
  blocks : Array BlockType
  fluids : Array FluidType
  /-- The number last registered under each name. -/
  names : Std.HashMap String BlockId
  /-- Block zero is air. -/
  air_first : blocks[0]? = some .air
  /-- A name leads to a block that bears it. -/
  named : ∀ {name : String} {id : BlockId}, names[name]? = some id →
    blocks[id.index]?.map (fun block => block.name) = some name

namespace Registry

def maxBlocks : Nat := 65536

def maxFluids : Nat := 256

/-- Air and no fluid. -/
def empty : Registry where
  blocks := #[.air]
  fluids := #[⟨"empty", 0.0⟩]
  names := (∅ : Std.HashMap String BlockId).insert "air" .air
  air_first := rfl
  named := by
    intro name id h
    rw [Std.HashMap.getElem?_insert] at h
    split at h
    · next hname =>
      cases h
      rw [← eq_of_beq hname]
      rfl
    · simp at h

instance : Inhabited Registry := ⟨empty⟩

/-- Number of kinds of blocks, air included. -/
def size (r : Registry) : Nat := r.blocks.size

def nextId (r : Registry) : Except PaletteFault BlockId :=
  if r.blocks.size < maxBlocks then .ok ⟨r.blocks.size⟩ else .error (.blocksFull r.blocks.size)

/-- The registry with one more kind of block, whether or not there is room. -/
def add (r : Registry) (block : BlockType) : Registry where
  blocks := r.blocks.push block
  fluids := r.fluids
  names := r.names.insert block.name ⟨r.blocks.size⟩
  air_first := by
    obtain ⟨hsize, hair⟩ := Array.getElem?_eq_some_iff.1 r.air_first
    rw [Array.getElem?_push_lt hsize, hair]
  named := by
    intro name id h
    rw [Std.HashMap.getElem?_insert] at h
    split at h
    · next hname =>
      cases h
      rw [Array.getElem?_push_size, ← eq_of_beq hname]
      rfl
    · have hold := r.named h
      obtain ⟨b, hb, -⟩ := Option.map_eq_some_iff.1 hold
      obtain ⟨hsize, hget⟩ := Array.getElem?_eq_some_iff.1 hb
      rwa [Array.getElem?_push_lt hsize, hget, ← hb]

/-- Adds a kind of block. The registry stays as it is if there is no room. -/
def register (r : Registry) (block : BlockType) : Except PaletteFault BlockId × Registry :=
  match r.nextId with
  | .ok id => (.ok id, r.add block)
  | .error fault => (.error fault, r)

def nextFluidId (r : Registry) : Except PaletteFault FluidId :=
  if r.fluids.size < maxFluids then .ok ⟨r.fluids.size⟩ else .error (.fluidsFull r.fluids.size)

def addFluid (r : Registry) (fluid : FluidType) : Registry :=
  { r with fluids := r.fluids.push fluid }

def registerFluid (r : Registry) (fluid : FluidType) : Except PaletteFault FluidId × Registry :=
  match r.nextFluidId with
  | .ok id => (.ok id, r.addFluid fluid)
  | .error fault => (.error fault, r)

def get? (r : Registry) (id : BlockId) : Option BlockType := r.blocks[id.index]?

/-- The kind of block with a number, and an indestructible one if there is none. -/
def block (r : Registry) (id : BlockId) : BlockType := (r.get? id).getD .unknown

theorem block_air (r : Registry) : r.block .air = .air := by
  simp [block, get?, BlockId.air, r.air_first]

def fluid? (r : Registry) (id : FluidId) : Option FluidType := r.fluids[id.index]?

/-- The number of the block last registered under a name. -/
def byName? (r : Registry) (name : String) : Option BlockId := r.names[name]?

/-- The number of the fluid first registered under a name. -/
def fluidByName? (r : Registry) (name : String) : Option FluidId :=
  (r.fluids.findIdx? (·.name == name)).map FluidId.mk

def fireBlock? (r : Registry) : Option BlockId := r.byName? "fire"

theorem fire_ne_air {r : Registry} {fire : BlockId} (h : r.fireBlock? = some fire) : fire ≠ .air := by
  rintro rfl
  have hname := r.named h
  simp [BlockId.air, r.air_first, BlockType.air, BlockType.nonSolid, BlockType.solid] at hname

def isEmptyVoxel (r : Registry) (v : Voxel) : Bool := (r.block v.block.block).isAir && v.fluid.isEmpty

/-- The built-in palette. Grass leaves dirt behind, glass, bedrock, explosives and fire leave
nothing, and a button toggles when it is only triggered. -/
def builtin : Registry :=
  let blocks : List BlockType :=
    [ ((BlockType.solid "stone" 6.0).withDrop ⟨1⟩).withHandler .dropSelf,
      ((BlockType.solid "dirt" 0.5).withDrop ⟨2⟩).withHandler .dropSelf,
      ((BlockType.solid "grass" 0.6).withDrop ⟨2⟩).withHandler .dropSelf,
      ((BlockType.solid "sand" 0.5).withDrop ⟨4⟩).withHandler .dropSelf,
      ((BlockType.solid "planks" 3.0).withDrop ⟨5⟩).withHandler .dropSelf,
      BlockType.solid "glass" 0.3,
      ((BlockType.solid "obsidian" 1200.0).withDrop ⟨7⟩).withHandler .dropSelf,
      BlockType.solid "bedrock" 3600000.0,
      BlockType.solid "tnt" 0.0,
      (BlockType.solid "fire" 0.0).nonSolid,
      ((BlockType.solid "button" 0.5).nonSolid.withDrop ⟨11⟩).withHandler .trigger ]
  let fluids : List FluidType := [⟨"water", 100.0⟩, ⟨"lava", 100.0⟩]
  fluids.foldl addFluid (blocks.foldl add empty)

end Registry

end Crater
