import Crater.Detonation
import Crater.Log.Record
/-!
# What the demo reports

One notice for each thing that the demo reports, with the values it reports, and the log record of
each.
-/

namespace Crater.Demo

/-- A thing to report. -/
inductive Notice where
  /-- Logging has begun; the filter to use when none is given. -/
  | ready (fallback : String)
  | arenaReady (seed : UInt64) (radius : Float32) (fire : Bool) (chunks : Nat)
  | raysTraced (center : Vec3) (radius : Float32) (rays voxels : Nat)
  | exploded (voxels entities : Nat)
  | detonated (voxels : Nat)
  | struck (impact : EntityImpact)
  | knockbackLost (entity : EntityId)
  | handlerFailed (position : Position) (cause : HandlerError)
  | fireUnknown
  | committed (voxels : Nat) (summary : CommitSummary)
  | finalized (summary : CommitSummary)
  | state (entity : Entity)
  | drained (events changes knockbacks drops : Nat)
  | aborted (position : Position) (cause : HandlerError)
  | failed (message : String)

def singleField (x : Float32) : String := Decimal.fieldDouble (Single.widen x)

def Notice.record : Notice → Log.Record
  | ready fallback =>
    ⟨.debug, "telemetry", "telemetry initialized", [("default_level", "\"" ++ fallback ++ "\"")]⟩
  | arenaReady seed radius fire chunks =>
    ⟨.info, "detonate", "arena ready",
      [("seed", toString seed), ("radius", singleField radius), ("fire", toString fire),
        ("chunks", toString chunks)]⟩
  | raysTraced center radius rays voxels =>
    ⟨.debug, "blastwave_core::ray", "ray fan traced",
      [("center", center.text), ("radius", singleField radius), ("rays", toString rays),
        ("voxels", toString voxels)]⟩
  | exploded voxels entities =>
    ⟨.debug, "blastwave_core::explosion", "explosion detonated",
      [("voxels", toString voxels), ("entities", toString entities)]⟩
  | detonated voxels => ⟨.info, "detonate", "detonated", [("voxels", toString voxels)]⟩
  | struck impact =>
    ⟨.info, "detonate", "entity hit",
      [("entity", impact.entity.text), ("damage", singleField impact.damage),
        ("exposure", Decimal.fieldDouble impact.exposure), ("impulse", impact.impulse.text)]⟩
  | knockbackLost entity =>
    ⟨.warn, "detonate", "event bus full, knockback not replayed", [("entity", entity.text)]⟩
  | handlerFailed position cause =>
    ⟨.warn, "blastwave_core::commit", "block handler failed",
      [("pos", position.text), ("error", cause.message)]⟩
  | fireUnknown =>
    ⟨.warn, "blastwave_core::commit", "registry has no fire block, skipping ignition", []⟩
  | committed voxels summary =>
    ⟨.debug, "blastwave_core::commit", "explosion committed",
      [("voxels", toString voxels), ("changed", toString summary.changed),
        ("rejected", toString summary.rejected), ("stacks", toString summary.dropped),
        ("fires", toString summary.fires)]⟩
  | finalized summary =>
    ⟨.info, "detonate", "finalized",
      [("changed", toString summary.changed), ("rejected", toString summary.rejected),
        ("stacks", toString summary.dropped), ("items", toString summary.items),
        ("fires", toString summary.fires)]⟩
  | state entity =>
    ⟨.info, "detonate", "entity state",
      [("entity", entity.id.text), ("health", singleField entity.health),
        ("velocity", entity.velocity.text)]⟩
  | drained events changes knockbacks drops =>
    ⟨.info, "detonate", "event bus drained",
      [("events", toString events), ("changes", toString changes),
        ("knockbacks", toString knockbacks), ("drops", toString drops)]⟩
  | aborted position cause =>
    ⟨.error, "detonate", "commit aborted", [("pos", position.text), ("source", cause.message)]⟩
  | failed message => ⟨.error, "detonate", message, []⟩

end Crater.Demo
