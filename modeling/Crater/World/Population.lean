import Crater.Entity
/-!
# Population

The entities of a world, listed in the order in which they were spawned. Numbers are given out once,
in rising order, so the list is sorted by number and no number occurs twice; the type says so, and
every operation keeps it.
-/

namespace Crater

/-- An entity of a world. -/
structure Entity where
  id : EntityId
  category : Category
  /-- Where the feet are. -/
  position : Vec3
  width : Float
  height : Float
  velocity : Vec3 := Vec3.zero
  health : Float32 := 20.0
  /-- Never affected by explosions. -/
  immune : Bool := false
  /-- The hits taken, the oldest first. -/
  damageLog : List (DamageSource × Float32) := []

namespace Entity

def bounds (e : Entity) : Box := Box.ofFeet e.position e.width e.height

/-- The entity as an explosion sees it. Spectators are passed over. -/
def snapshot (e : Entity) : Snapshot :=
  { Snapshot.ofBody e.id e.position e.width e.height e.category with
    immune := e.immune
    ignores :=
      match e.category with
      | .player abilities _ => abilities.spectator
      | _ => false }

def struck (e : Entity) (source : DamageSource) (damage : Float32) (impulse : Vec3) : Entity :=
  { e with
    health := e.health - damage
    velocity := e.velocity + impulse
    damageLog := e.damageLog ++ [(source, damage)] }

end Entity

structure Population where
  members : List Entity := []
  /-- The number that the next entity gets. -/
  next : Nat := 1
  sorted : members.Pairwise (fun a b => a.id.index < b.id.index) := by simp
  fresh : ∀ e ∈ members, e.id.index < next := by simp

namespace Population

/-- Adds an entity at rest in full health. -/
def spawn (p : Population) (category : Category) (position : Vec3) (width height : Float) :
    EntityId × Population :=
  let id : EntityId := ⟨p.next⟩
  (id, {
    members := p.members ++ [{ id, category, position, width, height }]
    next := p.next + 1
    sorted := by
      refine List.pairwise_append.2 ⟨p.sorted, by simp, ?_⟩
      intro a ha b hb
      cases List.mem_singleton.1 hb
      exact p.fresh a ha
    fresh := by
      intro e he
      rcases List.mem_append.1 he with he | he
      · exact Nat.lt_succ_of_lt (p.fresh e he)
      · cases List.mem_singleton.1 he
        exact Nat.lt_succ_self _ })

def find? (p : Population) (id : EntityId) : Option Entity := p.members.find? (·.id == id)

def erase (p : Population) (id : EntityId) : Population where
  members := p.members.filter (·.id != id)
  next := p.next
  sorted := p.sorted.filter _
  fresh e he := p.fresh e (List.mem_filter.1 he).1

/-- Changes the entity with a number. A record that is lent out can have its number overwritten; here
it keeps the number whatever `f` makes of it, so that no two entities come to share one. -/
def modify (p : Population) (id : EntityId) (f : Entity → Entity) : Population where
  members := p.members.map fun e => if e.id = id then { f e with id := e.id } else e
  next := p.next
  sorted := by
    refine List.pairwise_map.2 (p.sorted.imp ?_)
    intro a b h
    split <;> split <;> exact h
  fresh := by
    intro e he
    obtain ⟨a, ha, rfl⟩ := List.mem_map.1 he
    split <;> exact p.fresh a ha

def snapshots (p : Population) : List Snapshot := p.members.map Entity.snapshot

/-- The snapshots of the entities whose bodies reach into a box. -/
def snapshotsIn (p : Population) (area : Box) : List Snapshot :=
  (p.members.filter fun e => e.bounds.intersects area).map Entity.snapshot

/-- Delivers a hit, and tells whether there is an entity to take it. -/
def strike (p : Population) (id : EntityId) (source : DamageSource) (damage : Float32)
    (impulse : Vec3) : Bool × Population :=
  ((p.find? id).isSome, p.modify id fun e => e.struck source damage impulse)

end Population

end Crater
