import Crater.Commit
import Crater.Impact
import Crater.Ray.Fan
/-!
# Detonations

One explosion on its way through its life. It is created, then detonated or called off, and a
detonated one is finalized. Detonation traces the rays and hits the entities but leaves the voxels
alone; finalizing plays the effects and commits the voxels. In between the voxels can still be spared.

Calls out of turn are refused and change nothing.
-/

namespace Crater

/-- An explosion and how far it has come. -/
structure Detonation where
  explosion : Explosion
  config : Config
  validate_config : config.validate = .ok ()
  phase : Phase := .created
  /-- The voxels that are going to be destroyed. -/
  affected : AffectedSet := .empty
  /-- What was done to entities. -/
  report : ImpactReport := {}

/-- A detonation and its world after a call, and the call's result. -/
structure DetonationOutcome (α : Type) where
  detonation : Detonation
  world : World
  result : Except Failure α

def CommitFault.failure (fault : CommitFault) : Failure := .blockHandler fault.position fault.cause

namespace Detonation

/-- Prepares an explosion. The configuration has to make sense. -/
def create (explosion : Explosion) (config : Config) : Except Failure Detonation :=
  match h : config.validate with
  | .ok () => .ok { explosion, config, validate_config := h }
  | .error fault => .error (.invalidConfig fault)

def impacts (d : Detonation) (world : World) : ImpactReport :=
  let rules := ImpactRules.ofConfig d.config
  rules.resolve d.explosion world.blocksSight
    (world.population.snapshotsIn (rules.searchBox d.explosion))

/-- Delivers the impacts of a report, by number of the entity. -/
def deliver (source : DamageSource) (report : ImpactReport) (world : World) : World :=
  report.impacts.foldl
    (fun world impact => (world.strike impact.entity source impact.damage impact.impulse).2) world

/-- Traces the rays and hits the entities. -/
def blast (d : Detonation) (world : World) : Draw (DetonationOutcome Unit) := do
  match ← (RayFan.ofConfig d.config).trace d.explosion world.terrain with
  | none => pure ⟨d, world, .error .endlessRay⟩
  | some affected =>
    let report := d.impacts world
    pure ⟨{ d with phase := .detonated, affected, report },
      deliver d.explosion.damageSource report world, .ok ()⟩

def detonate (d : Detonation) (world : World) : Draw (DetonationOutcome Unit) :=
  if d.phase = .created then d.blast world
  else pure ⟨d, world, .error (.invalidState .detonate d.phase)⟩

/-- Detonates an explosion that was just created unless there is a veto against it, which calls it off
for good. Tells whether it was detonated. -/
def detonateUnless (veto : Explosion → Bool) (d : Detonation) (world : World) :
    Draw (DetonationOutcome Bool) :=
  if d.phase = .created then
    if veto d.explosion then pure ⟨{ d with phase := .cancelled }, world, .ok false⟩
    else do
      let outcome ← d.blast world
      pure ⟨outcome.detonation, outcome.world, outcome.result.map fun _ => true⟩
  else pure ⟨d, world, .error (.invalidState .detonate d.phase)⟩

def spareVoxels (d : Detonation) : Except Failure Detonation :=
  if d.phase = .detonated then .ok { d with affected := .empty }
  else .error (.invalidState .clear d.phase)

/-- The pitch of the sound for two fractions drawn. -/
def pitch (first second : Float32) : Float32 := (1.0 + (first - second) * 0.2) * 0.7

/-- The particle that the explosion shows: the large one if the radius is large enough and voxels are
removed. -/
def particle (d : Detonation) : ParticleKind :=
  let effects := d.explosion.effects
  if d.explosion.radius ≥ d.config.largeParticleMinRadius && d.explosion.interaction.isDestructive then
    effects.largeParticle
  else effects.smallParticle

/-- Plays the sound and, if wanted, the particle. -/
def present (d : Detonation) (particles : Bool) (pitch : Float32) (world : World) : World :=
  let center := d.explosion.center
  let world := world.play (.sound d.explosion.effects.sound center d.config.soundVolume pitch)
  if particles then world.play (.particle d.particle center ⟨1.0, 0.0, 0.0⟩) else world

/-- Plays the effects of a detonated explosion and commits its voxels. It is finalized even if the
commit fails. -/
def finalize (d : Detonation) (particles : Bool) (world : World) :
    Draw (DetonationOutcome CommitSummary) :=
  if d.phase = .detonated then do
    let first ← Draw.fraction
    let second ← Draw.fraction
    let world := d.present particles (pitch first second) world
    let outcome ← (CommitRules.ofConfig d.config).commit d.explosion d.affected world
    pure ⟨{ d with phase := .finalized }, outcome.world,
      outcome.result.mapError CommitFault.failure⟩
  else pure ⟨d, world, .error (.invalidState .finalize d.phase)⟩

/-- Sends the knockback of players to the bus, by number of the player, and tells for each whether the
bus took it. -/
def replayKnockback (d : Detonation) (world : World) : List (EntityId × Bool) × World :=
  d.report.playerKnockback.foldl
    (fun (sent, world) (entity, knockback) =>
      let (taken, world) := world.send (.playerKnockback entity knockback)
      (sent ++ [(entity, taken)], world))
    ([], world)

/-- Creates, detonates and finalizes an explosion at one go. -/
def run (explosion : Explosion) (config : Config) (particles : Bool) (world : World) :
    Draw (World × Except Failure (Detonation × CommitSummary)) :=
  match create explosion config with
  | .error failure => pure (world, .error failure)
  | .ok d => do
    let outcome ← d.detonate world
    match outcome.result with
    | .error failure => pure (outcome.world, .error failure)
    | .ok () => do
      let outcome ← outcome.detonation.finalize particles outcome.world
      pure (outcome.world, outcome.result.map fun summary => (outcome.detonation, summary))

end Detonation

end Crater
