import Crater.Toml.Document
/-!
# Configuration

The numbers that tune the engine. Any field can be set to anything; `validate` says whether the
numbers make sense together, and an engine is only built from a configuration that passes.
-/

namespace Crater

/-- The numbers that tune the engine. -/
structure Config where
  /-- Cells along one side of the cube through whose shell the rays go. -/
  rayGrid : Nat := 16
  /-- How far a ray moves in one step. -/
  rayStep : Float := 0.3
  /-- The least share of the radius that a ray starts with. -/
  powerJitterMin : Float32 := 0.7
  /-- How much larger the share can be. -/
  powerJitterSpan : Float32 := 0.6
  /-- Added to every resistance. -/
  resistanceBias : Float32 := 0.3
  /-- Power that a ray loses in each step. -/
  stepAttenuation : Float32 := 0.225
  /-- The most items that merging puts on one stack. -/
  mergeCap : Nat := 16
  /-- One cleared voxel in this many catches fire. -/
  ignitionChance : Nat := 3
  /-- Factor of the damage curve. -/
  damageScale : Float := 7.0
  /-- How far beyond the reach of a blast entities are looked for. -/
  entitySearchMargin : Float := 1.0
  /-- The radius from which on a blast shows the large particle. -/
  largeParticleMinRadius : Float32 := 2.0
  soundVolume : Float32 := 4.0

/-- The rule that a configuration breaks, with the key it is about. -/
inductive ConfigFault where
  /-- The number must be at least `least`. -/
  | tooSmall (key : String) (least : Nat)
  /-- The number must be finite and above zero. -/
  | notPositive (key : String)
  /-- The number must be finite and not below zero. -/
  | negative (key : String)
  deriving DecidableEq

def ConfigFault.message : ConfigFault → String
  | tooSmall key least => s!"{key} must be at least {least}"
  | notPositive key => s!"{key} must be positive"
  | negative key => s!"{key} must be non-negative"

namespace Config

instance : Inhabited Config := ⟨{}⟩

/-- Checks the fields in the order in which they are declared; the first fault counts. The two numbers
that only shape effects may be anything. -/
def validate (c : Config) : Except ConfigFault Unit := do
  if c.rayGrid < 2 then throw (.tooSmall "ray_grid" 2)
  if !(c.rayStep.isFinite && c.rayStep > 0.0) then throw (.notPositive "ray_step")
  if !(c.powerJitterMin.isFinite && c.powerJitterMin ≥ 0.0) then throw (.negative "power_jitter_min")
  if !(c.powerJitterSpan.isFinite && c.powerJitterSpan ≥ 0.0) then
    throw (.negative "power_jitter_span")
  if !(c.resistanceBias.isFinite && c.resistanceBias ≥ 0.0) then throw (.negative "resistance_bias")
  if !(c.stepAttenuation.isFinite && c.stepAttenuation > 0.0) then
    throw (.notPositive "step_attenuation")
  if c.mergeCap == 0 then throw (.tooSmall "merge_cap" 1)
  if c.ignitionChance == 0 then throw (.tooSmall "ignition_chance" 1)
  if !(c.damageScale.isFinite && c.damageScale ≥ 0.0) then throw (.negative "damage_scale")
  if !(c.entitySearchMargin.isFinite && c.entitySearchMargin ≥ 0.0) then
    throw (.negative "entity_search_margin")

def keys : List String :=
  [ "ray_grid", "ray_step", "power_jitter_min", "power_jitter_span", "resistance_bias",
    "step_attenuation", "merge_cap", "ignition_chance", "damage_scale", "entity_search_margin",
    "large_particle_min_radius", "sound_volume" ]

open Toml in
/-- The configuration that a file describes. A missing key keeps its default, and a key that is not
known spoils the file. -/
def ofText? (text : String) : Option Config := do
  let entries ← (Value.table .header (← Toml.parse text)).fields? keys
  let d : Config := {}
  return {
    rayGrid := ← entries.optional "ray_grid" d.rayGrid Value.natural?
    rayStep := ← entries.optional "ray_step" d.rayStep Value.double?
    powerJitterMin := ← entries.optional "power_jitter_min" d.powerJitterMin Value.single?
    powerJitterSpan := ← entries.optional "power_jitter_span" d.powerJitterSpan Value.single?
    resistanceBias := ← entries.optional "resistance_bias" d.resistanceBias Value.single?
    stepAttenuation := ← entries.optional "step_attenuation" d.stepAttenuation Value.single?
    mergeCap := ← entries.optional "merge_cap" d.mergeCap Value.natural?
    ignitionChance := ← entries.optional "ignition_chance" d.ignitionChance Value.natural?
    damageScale := ← entries.optional "damage_scale" d.damageScale Value.double?
    entitySearchMargin := ← entries.optional "entity_search_margin" d.entitySearchMargin Value.double?
    largeParticleMinRadius :=
      ← entries.optional "large_particle_min_radius" d.largeParticleMinRadius Value.single?
    soundVolume := ← entries.optional "sound_volume" d.soundVolume Value.single?
  }

end Config

end Crater
