import Crater.World.Basic
import Crater.Failure
/-!
# The arena of the demo

A stone basin with a floor of dirt under grass, a pile of sand, a pillar of obsidian, a button and a
pocket of water, and three entities around the place where the blast will be.
-/

namespace Crater.Demo

/-- Boxes of one kind of block, in the order in which they are built. -/
structure ArenaPart where
  block : String
  low : Position
  high : Position

def arenaParts : List ArenaPart :=
  [ ⟨"stone", ⟨-12, -6, -12⟩, ⟨12, -4, 12⟩⟩,
    ⟨"dirt", ⟨-12, -3, -12⟩, ⟨12, -2, 12⟩⟩,
    ⟨"grass", ⟨-12, -1, -12⟩, ⟨12, -1, 12⟩⟩,
    ⟨"sand", ⟨3, 0, -2⟩, ⟨5, 2, 0⟩⟩,
    ⟨"obsidian", ⟨-3, 0, 3⟩, ⟨-3, 3, 3⟩⟩,
    ⟨"button", ⟨0, 0, -3⟩, ⟨0, 0, -3⟩⟩ ]

def pocket : List Position := [⟨-6, -1, -5⟩, ⟨-5, -1, -5⟩, ⟨-4, -1, -5⟩]

def pourWater (world : World) : World :=
  match world.registry.fluidByName? "water" with
  | none => world
  | some water =>
    pocket.foldl (fun world p => (world.placeVoxel p (.ofFluid (.source water))).2) world

/-- Lets a zombie, a player in armour and a second zombie behind the pillar into the world. -/
def populate (world : World) : World :=
  let (_, world) := world.spawn (.living 0) ⟨2.5, 0.0, 2.5⟩ 0.6 1.95
  let (_, world) := world.spawn (.player {} 4) ⟨-4.5, 0.0, -1.5⟩ 0.6 1.8
  let (_, world) := world.spawn (.living 0) ⟨-4.5, 0.0, 3.5⟩ 0.6 1.95
  world

/-- The arena with blocks of a registry, which has to know all of them. -/
def buildArena (registry : Registry) (bus : EventBus) : Except Failure World := do
  let parts ← arenaParts.mapM fun part => return (part, ← registry.require part.block)
  let world := parts.foldl
    (fun world (part, block) => world.fill part.low part.high ⟨block, 0⟩)
    { World.empty registry {} with bus := some bus }
  return populate (pourWater world)

end Crater.Demo
