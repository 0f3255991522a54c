import Crater.Geometry.Box
/-!
# Entities

What a blast has to know about the bodies around it, and the rules that dampen knockback.
-/

namespace Crater

structure EntityId where
  index : Nat
  deriving DecidableEq, Inhabited

def EntityId.text (id : EntityId) : String := s!"#{id.index}"

structure Abilities where
  creative : Bool := false
  flying : Bool := false
  spectator : Bool := false
  deriving DecidableEq

/-- Whether knockback moves the player: not a spectator, and not one who flies in creative mode. -/
def Abilities.receivesKnockback (a : Abilities) : Bool := !a.spectator && !(a.creative && a.flying)

/-- What kind of body an entity is. -/
inductive Category where
  | living (blastProtection : Nat)
  | player (abilities : Abilities) (blastProtection : Nat)
  | physics
  | primedExplosive
  deriving DecidableEq

/-- An entity as an explosion sees it. -/
structure Snapshot where
  id : EntityId
  /-- Where the feet are. -/
  position : Vec3
  eyeHeight : Float
  bounds : Box
  category : Category
  /-- Never affected by explosions. -/
  immune : Bool := false
  /-- Passed over by explosions for now, as spectators are. -/
  ignores : Bool := false

namespace Snapshot

/-- The snapshot of a body that stands at `position`, with eyes at 85 percent of its height. -/
def ofBody (id : EntityId) (position : Vec3) (width height : Float) (category : Category) :
    Snapshot where
  id
  position
  eyeHeight := height * 0.85
  bounds := Box.ofFeet position width height
  category

/-- The point that knockback pushes away from the centre: the eyes, or the feet of a primed
explosive. -/
def referencePoint (s : Snapshot) : Vec3 :=
  match s.category with
  | .primedExplosive => s.position
  | _ => s.position + ⟨0.0, s.eyeHeight, 0.0⟩

/-- Whether the knockback is to be replayed by a player's client. -/
def isReplayTarget (s : Snapshot) : Bool :=
  match s.category with
  | .player abilities _ => abilities.receivesKnockback
  | _ => false

def blastProtection (s : Snapshot) : Nat :=
  match s.category with
  | .living level | .player _ level => level
  | .physics | .primedExplosive => 0

end Snapshot

/-- A rule that turns the strength of knockback into the strength that an entity feels. -/
abbrev Knockback := Snapshot → Float → Float

namespace Knockback

def identity : Knockback := fun _ strength => strength

/-- Takes 15 percent of the strength per level of blast protection away, in whole units. -/
def blastProtection : Knockback := fun s strength =>
  let level := Double.ofNat s.blastProtection
  if level ≤ 0.0 then strength
  else Double.max (strength - Double.floor (strength * level * 0.15)) 0.0

end Knockback

/-- Who and what damaged an entity. -/
structure DamageSource where
  /-- A player is credited with the damage. -/
  playerCaused : Bool
  /-- Who is responsible in the end. -/
  causing : Option EntityId
  /-- What dealt the damage. -/
  direct : Option EntityId
  position : Option Vec3

namespace DamageSource

/-- Damage of an explosion with no player behind it. -/
def explosion (position : Vec3) : DamageSource := ⟨false, none, none, some position⟩

def playerExplosion (player : EntityId) (position : Vec3) : DamageSource :=
  ⟨true, some player, none, some position⟩

def withDirect (s : DamageSource) (entity : EntityId) : DamageSource := { s with direct := some entity }

end DamageSource

end Crater
