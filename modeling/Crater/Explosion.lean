import Crater.Resistance
import Crater.Event
import Crater.Failure
/-!
# Explosions

The description of one blast. A blast is built from a plan, and only plans with a valid radius and
centre give one.
-/

namespace Crater

structure ExplosionEffects where
  /-- Particle of small blasts, and of those that remove nothing. -/
  smallParticle : ParticleKind := .explosion
  /-- Particle of large blasts. -/
  largeParticle : ParticleKind := .explosionEmitter
  sound : String := explosionSound

def validRadius (radius : Float32) : Bool := radius.isFinite && !(radius < 0.0)

/-- One blast. -/
structure Explosion where
  center : Vec3
  radius : Float32
  /-- Whether fires are lit on the ground. -/
  fire : Bool
  interaction : Interaction
  /-- The entity that explodes, which its own blast does not touch. -/
  source : Option EntityId
  damageSource : DamageSource
  resistance : ResistanceStrategy
  knockback : Knockback
  effects : ExplosionEffects
  validRadius_radius : validRadius radius = true
  isFinite_center : center.isFinite = true

/-- What can be chosen about a blast. -/
structure ExplosionPlan where
  center : Vec3
  radius : Float32
  fire : Bool := false
  interaction : Interaction := .destroy
  source : Option EntityId := none
  /-- By default the damage of an explosion at the centre, dealt by the source. -/
  damageSource : Option DamageSource := none
  resistance : ResistanceStrategy := .registry
  knockback : Knockback := Knockback.identity
  effects : ExplosionEffects := {}

namespace ExplosionPlan

def defaultDamageSource (plan : ExplosionPlan) : DamageSource :=
  let damage := DamageSource.explosion plan.center
  match plan.source with
  | some entity => damage.withDirect entity
  | none => damage

def build (plan : ExplosionPlan) : Except Failure Explosion :=
  if hr : validRadius plan.radius = true then
    if hc : plan.center.isFinite = true then
      .ok {
        center := plan.center
        radius := plan.radius
        fire := plan.fire
        interaction := plan.interaction
        source := plan.source
        damageSource := plan.damageSource.getD plan.defaultDamageSource
        resistance := plan.resistance
        knockback := plan.knockback
        effects := plan.effects
        validRadius_radius := hr
        isFinite_center := hc }
    else .error (.invalidOrigin plan.center)
  else .error (.invalidRadius plan.radius)

end ExplosionPlan

end Crater
