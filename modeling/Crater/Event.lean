import Crater.Entity
import Crater.Block.State
/-!
# Events

Sounds and particles that a world presents, and the bus that passes them on together with voxel
changes and knockback. The bus is a queue of bounded length: an event that finds it full, or nobody
left to take it, is lost, and the sender is told so.
-/

namespace Crater

inductive ParticleKind where
  | explosion
  | explosionEmitter
  | smoke
  deriving DecidableEq

/-- A sound or a particle. -/
inductive Effect where
  | sound (name : String) (position : Vec3) (volume pitch : Float32)
  | particle (kind : ParticleKind) (position velocity : Vec3)

def explosionSound : String := "entity.generic.explode"

/-- Something that observers are told about. -/
inductive Event where
  | effect (effect : Effect)
  | voxelChanged (position : Position) (block : BlockId)
  | playerKnockback (entity : EntityId) (knockback : Vec3)

/-- A queue of events between senders and receivers. -/
structure EventBus where
  /-- The most events that may wait. -/
  capacity : Nat
  /-- The waiting events, the oldest first. -/
  queue : Array Event := #[]
  /-- Whether anybody is left to receive. -/
  hasReceiver : Bool := true

namespace EventBus

def accepts (bus : EventBus) : Bool := bus.hasReceiver && bus.queue.size < bus.capacity

/-- Queues an event, or loses it. -/
def send (bus : EventBus) (event : Event) : Bool × EventBus :=
  if bus.accepts then (true, { bus with queue := bus.queue.push event }) else (false, bus)

def receive (bus : EventBus) : Option Event × EventBus :=
  (bus.queue[0]?, { bus with queue := bus.queue.extract 1 bus.queue.size })

def drain (bus : EventBus) : List Event × EventBus := (bus.queue.toList, { bus with queue := #[] })

/-- The last receiver goes, and with it what was waiting. -/
def dropReceiver (bus : EventBus) : EventBus := { bus with queue := #[], hasReceiver := false }

end EventBus

end Crater
