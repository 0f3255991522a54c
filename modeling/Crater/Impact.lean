import Crater.Explosion
import Crater.Exposure
/-!
# Impacts

What a blast does to the entities around it. An entity is reached if its feet are closer to the centre
than twice the radius. How hard it is hit depends on its proximity, one minus the share of that
distance, and on its exposure, the share of its body in sight of the centre.

A report lists impacts by the numbers of the entities and has at most one for each number.
-/

namespace Crater

/-- What a blast does to one entity. -/
structure EntityImpact where
  entity : EntityId
  /-- Added to the velocity. -/
  impulse : Vec3
  damage : Float32
  /-- The share of the body in sight of the centre. -/
  exposure : Float
  /-- One minus the share of twice the radius that the entity is away. -/
  proximity : Float

structure ImpactReport where
  /-- The impacts, by number of the entity. -/
  impacts : List EntityImpact := []
  /-- Knockback that clients of players replay, by number of the player. -/
  playerKnockback : List (EntityId × Vec3) := []

/-- Puts `a` in front of the first element with a larger key. -/
def insertByKey {α : Type} (key : α → Nat) (a : α) : List α → List α
  | [] => [a]
  | b :: rest => if key a < key b then a :: b :: rest else b :: insertByKey key a rest

namespace ImpactReport

def get? (r : ImpactReport) (id : EntityId) : Option EntityImpact :=
  r.impacts.find? (·.entity == id)

def size (r : ImpactReport) : Nat := r.impacts.length

def isEmpty (r : ImpactReport) : Bool := r.impacts.isEmpty

/-- Adds an impact on an entity that has none yet. -/
def insert (r : ImpactReport) (impact : EntityImpact) (replayed : Bool) : ImpactReport where
  impacts := insertByKey (·.entity.index) impact r.impacts
  playerKnockback :=
    if replayed then insertByKey (·.1.index) (impact.entity, impact.impulse) r.playerKnockback
    else r.playerKnockback

end ImpactReport

/-- The numbers that tune impacts. -/
structure ImpactRules where
  damageScale : Float
  searchMargin : Float

namespace ImpactRules

def ofConfig (config : Config) : ImpactRules := ⟨config.damageScale, config.entitySearchMargin⟩

/-- Twice the radius of a blast: from this distance on entities are not reached. -/
def diameter (explosion : Explosion) : Float := Single.widen explosion.radius * 2.0

/-- The box in which entities are looked for. Both corners are rounded down, so above the centre the
margin may shrink by up to one. -/
def searchBox (rules : ImpactRules) (explosion : Explosion) : Box :=
  let reach := diameter explosion + rules.searchMargin
  ⟨(explosion.center - Vec3.splat reach).floor, (explosion.center + Vec3.splat reach).floor⟩

/-- The damage of a blast to an entity whose proximity times exposure is `p`. -/
def damageFor (rules : ImpactRules) (p diameter : Float) : Float32 :=
  Single.narrow (Double.floor ((p * p + p) / 2.0 * rules.damageScale * diameter + 1.0))

/-- The distance of an entity's feet from the centre, as a share of twice the radius. -/
def distanceShare (explosion : Explosion) (s : Snapshot) : Float :=
  s.position.distance explosion.center / diameter explosion

/-- Whether a blast can hit an entity at all: not if the entity is immune or ignores explosions, and
not if it is what explodes. -/
def isSubject (explosion : Explosion) (s : Snapshot) : Bool :=
  !(s.immune || s.ignores) && explosion.source != some s.id

def reaches (explosion : Explosion) (s : Snapshot) : Bool :=
  isSubject explosion s && distanceShare explosion s < 1.0

def impactOn (rules : ImpactRules) (explosion : Explosion) (blocked : SightBlock) (s : Snapshot) :
    EntityImpact :=
  let direction := (s.referencePoint - explosion.center).normalizeOrZero
  let exposure := Exposure.fraction blocked explosion.center s.bounds
  let proximity := 1.0 - distanceShare explosion s
  let p := proximity * exposure
  { entity := s.id
    impulse := direction * explosion.knockback s p
    damage := rules.damageFor p (diameter explosion)
    exposure
    proximity }

/-- Adds what a blast does to one entity, unless an entity of the same number is already hit. -/
def record (rules : ImpactRules) (explosion : Explosion) (blocked : SightBlock)
    (report : ImpactReport) (s : Snapshot) : ImpactReport :=
  if reaches explosion s && (report.get? s.id).isNone then
    report.insert (rules.impactOn explosion blocked s) s.isReplayTarget
  else report

/-- What a blast does to the candidates; of candidates with the same number the first that is reached
counts. A radius of zero hits nobody. -/
def resolve (rules : ImpactRules) (explosion : Explosion) (blocked : SightBlock)
    (candidates : List Snapshot) : ImpactReport :=
  if diameter explosion ≤ 0.0 then {}
  else candidates.foldl (rules.record explosion blocked) {}

end ImpactRules

end Crater
