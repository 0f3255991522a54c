import Crater.Demo.Arena
import Crater.Demo.Notice
import Crater.Demo.Options
import Crater.Log.Filter
/-!
# The demo

One explosion in the arena, from the arguments to what is printed. The files that the arguments name
are given as a function from paths to their text, or to the reason why they cannot be read.
-/

namespace Crater.Demo

/-- Text of a file, or the reason why it cannot be read. -/
abbrev Files := String → Except String String

/-- Everything that the demo needs before the blast. -/
structure Scene where
  options : Options
  config : Config
  world : World
  explosion : Explosion

def busCapacity : Nat := 8192

def defaultRadius : Float32 := 4.0

def plan (options : Options) : ExplosionPlan where
  center := ⟨0.5, 0.0, 0.5⟩
  radius := options.radius.getD defaultRadius
  fire := options.fire
  interaction := .destroyWithDecay
  knockback := Knockback.blastProtection

def load {α : Type} (files : Files) (ofText : String → Except Failure α) (path : String) :
    Except Failure α :=
  match files path with
  | .ok text => ofText text
  | .error reason => .error (.unreadable reason)

/-- Reads the files, builds the arena and the explosion. -/
def prepare (options : Options) (files : Files) : Except Failure Scene := do
  let config ← match options.config with
    | some path => load files Config.ofText path
    | none => pure {}
  let registry ← match options.blocks with
    | some path => load files Registry.ofText path
    | none => pure Registry.builtin
  let world ← buildArena registry { capacity := busCapacity }
  let explosion ← (plan options).build
  return { options, config, world, explosion }

namespace Scene

def opening (scene : Scene) : Notice :=
  .arenaReady scene.options.seed scene.explosion.radius scene.options.fire
    scene.world.grid.chunks.size

def blastNotices (d : Detonation) : List Notice :=
  let voxels := d.affected.size
  let traced : List Notice :=
    if d.explosion.radius > 0.0 then
      [.raysTraced d.explosion.center d.explosion.radius
        (RayFan.ofConfig d.config).directions.length voxels]
    else []
  traced ++ [.exploded voxels d.report.size, .detonated voxels] ++ d.report.impacts.map .struck

/-- What is reported about knockback that the bus did not take. -/
def lostNotices (sent : List (EntityId × Bool)) : List Notice :=
  (sent.filter fun (_, taken) => !taken).map fun (entity, _) => .knockbackLost entity

/-- What is reported about the bus and the items on the ground. -/
def drainNotice (world : World) : Notice :=
  let events := match world.bus with
    | some bus => bus.drain.1
    | none => []
  let isChange : Event → Bool
    | .voxelChanged .. => true
    | _ => false
  let isKnockback : Event → Bool
    | .playerKnockback .. => true
    | _ => false
  .drained events.length (events.countP isChange) (events.countP isKnockback) world.drops.size

/-- What is reported about a commit that went well, and about the world after it. -/
def commitNotices (d : Detonation) (world : World) (summary : CommitSummary) : List Notice :=
  let unlit : List Notice :=
    if d.explosion.fire && world.registry.fireBlock?.isNone then [.fireUnknown] else []
  unlit ++ [.committed d.affected.size summary, .finalized summary] ++
    world.population.members.map .state ++ [drainNotice world]

/-- Lets the explosion happen. Gives what is reported and what went wrong. -/
def play (scene : Scene) : List Notice × Option Failure :=
  match Detonation.create scene.explosion scene.config with
  | .error failure => ([scene.opening], some failure)
  | .ok d =>
    let (outcome, generator) := (d.detonate scene.world).run (.ofSeed scene.options.seed)
    match outcome.result with
    | .error failure => ([scene.opening], some failure)
    | .ok () =>
      let d := outcome.detonation
      let (sent, world) := d.replayKnockback outcome.world
      let before := scene.opening :: blastNotices d ++ lostNotices sent
      let (outcome, _) := (d.finalize true world).run generator
      match outcome.result with
      | .error (.blockHandler position cause) =>
        (before ++ [.handlerFailed position cause], some (.blockHandler position cause))
      | .error failure => (before, some failure)
      | .ok summary => (before ++ commitNotices d outcome.world summary, none)

end Scene

def closing : Failure → Notice
  | .blockHandler position cause => .aborted position cause
  | failure => .failed failure.message

/-- What a run of the demo leaves behind. -/
structure Printout where
  exitCode : UInt8
  notices : List Notice
  /-- Lines on the error stream. -/
  complaints : List String := []

/-- The filter of the log if none is given that can be read. -/
def fallbackFilter : String := "info"

def usage : String :=
  "usage: detonate [--config FILE] [--blocks FILE] [--seed N] [--radius R] [--fire]"

/-- Runs the demo. Arguments that do not fit end it before any file is read. -/
def run (arguments : List String) (files : Files) : Printout :=
  let ready := Notice.ready fallbackFilter
  match Options.read arguments with
  | .error fault => ⟨2, [ready, .failed fault.message], [usage]⟩
  | .ok options =>
    match prepare options files with
    | .error failure => ⟨1, [ready, closing failure], []⟩
    | .ok scene =>
      match scene.play with
      | (notices, none) => ⟨0, ready :: notices, []⟩
      | (notices, some failure) => ⟨1, ready :: notices ++ [closing failure], []⟩

/-- The filter of a log for a text that may be missing or unreadable. -/
def filterOf (text : Option String) : Log.Filter :=
  ((text.bind Log.Filter.ofText?).orElse fun _ => Log.Filter.ofText? fallbackFilter).getD
    (.ofVerbosity Log.Level.info.verbosity)

def Printout.lines (printout : Printout) (filter : Log.Filter) : List String :=
  ((printout.notices.map Notice.record).filter filter.shows).map Log.Record.line

end Crater.Demo
