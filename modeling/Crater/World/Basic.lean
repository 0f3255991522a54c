import Std.Data.HashSet
import Crater.Event
import Crater.Exposure
import Crater.Item
import Crater.Resistance
import Crater.Segment
import Crater.World.Grid
import Crater.World.Population
import Crater.World.WriteFlags
/-!
# Worlds

A world holds voxels and entities, keeps what was dropped and what was played, and passes events on to
a bus if one is attached. The bus is only written to: nothing that a world answers depends on it.

There are two ways to write a voxel. Placing builds the world and tells nobody; `setVoxel` is how
explosions write, and it respects protected positions and reports to the bus.
-/

namespace Crater

/-- Voxels, entities and what happened to them. -/
structure World where
  registry : Registry
  grid : Grid
  population : Population := {}
  /-- Positions at which explosions cannot write. -/
  guarded : Std.HashSet Position := ∅
  /-- Items on the ground, in the order in which they fell. -/
  drops : Array (ItemStack × Vec3) := #[]
  /-- Sounds and particles, in the order in which they were played. -/
  effects : Array Effect := #[]
  bus : Option EventBus := none

namespace World

def empty (registry : Registry) (range : BuildRange) : World := { registry, grid := { range } }

def voxel (w : World) (p : Position) : Voxel := w.grid.get p

def isOutside (w : World) (p : Position) : Bool := w.grid.range.isOutside p

/-- Whether explosions cannot write at a position. -/
def isGuarded (w : World) (p : Position) : Bool := w.guarded.contains p

def blockAt (w : World) (p : Position) : BlockType := w.registry.block (w.voxel p).block.block

def terrain (w : World) : Terrain where
  registry := w.registry
  voxel := w.voxel
  isOutside := w.isOutside

def blocksSight (w : World) : SightBlock := fun start stop =>
  Segment.isBlocked start stop fun p => (w.blockAt p).collision

/-! ## Building -/

/-- Places a voxel, and tells whether the position can be built on. -/
def placeVoxel (w : World) (p : Position) (v : Voxel) : Bool × World :=
  let (placed, grid) := w.grid.set p v
  (placed, { w with grid })

def place (w : World) (p : Position) (state : BlockState) : Bool × World :=
  w.placeVoxel p (.ofBlock state)

def fill (w : World) (a b : Position) (state : BlockState) : World :=
  { w with grid := w.grid.fill a b (.ofBlock state) }

/-- Lets no explosion write at a position from now on. -/
def guard (w : World) (p : Position) : World := { w with guarded := w.guarded.insert p }

/-! ## Reporting -/

/-- Passes an event on to the bus, and tells whether the bus took it. -/
def send (w : World) (event : Event) : Bool × World :=
  match w.bus with
  | none => (false, w)
  | some bus =>
    let (taken, bus) := bus.send event
    (taken, { w with bus := some bus })

/-- Passes an event on to the bus, whether or not it can take it. -/
def publish (w : World) (event : Event) : World := (w.send event).2

def play (w : World) (effect : Effect) : World :=
  { w with effects := w.effects.push effect }.publish (.effect effect)

def dropItem (w : World) (stack : ItemStack) (position : Vec3) : World :=
  { w with drops := w.drops.push (stack, position) }

/-- Writes a block with what the flags ask for, and tells whether the world accepted it. Whatever fluid
was there is gone. -/
def setVoxel (w : World) (p : Position) (state : BlockState) (flags : WriteFlags) : Bool × World :=
  if w.isGuarded p then (false, w)
  else
    let (placed, w) := w.place p state
    if placed && flags.has .sync then (true, w.publish (.voxelChanged p state.block))
    else (placed, w)

/-! ## Entities -/

def spawn (w : World) (category : Category) (position : Vec3) (width height : Float) :
    EntityId × World :=
  let (id, population) := w.population.spawn category position width height
  (id, { w with population })

def entity? (w : World) (id : EntityId) : Option Entity := w.population.find? id

def despawn (w : World) (id : EntityId) : Option Entity × World :=
  (w.entity? id, { w with population := w.population.erase id })

/-- Changes the entity with a number, if there is one. Whatever `f` does to the number in the record is
undone. -/
def editEntity (w : World) (id : EntityId) (f : Entity → Entity) : World :=
  { w with population := w.population.modify id f }

def strike (w : World) (id : EntityId) (source : DamageSource) (damage : Float32) (impulse : Vec3) :
    Bool × World :=
  let (taken, population) := w.population.strike id source damage impulse
  (taken, { w with population })

end World

end Crater
