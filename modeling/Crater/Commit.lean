import Crater.Drops
import Crater.Explosion
import Crater.Ray.Affected
import Crater.World.Basic
/-!
# Commit

The second half of an explosion: affected voxels become drops and replacements, and fires are lit.

The voxels are converted in a shuffled order, so that merging drops favours no corner of the blast.
Drops fall when the last voxel is converted, or as soon as a handler fails, so that nothing of what was
already removed is lost. A handler that fails leaves its own voxel and all later ones as they were.
-/

namespace Crater

/-- What a commit did to the world. -/
structure CommitSummary where
  /-- Voxels that their handlers replaced. -/
  changed : Nat := 0
  /-- Writes that the world refused. -/
  rejected : Nat := 0
  dropped : Nat := 0
  items : Nat := 0
  fires : Nat := 0
  deriving DecidableEq

structure CommitRules where
  /-- The most items that merging puts on one stack. -/
  mergeCap : Nat
  /-- One cleared voxel in this many catches fire. -/
  ignitionChance : Nat

/-- The numbers of a configuration; neither is below one. -/
def CommitRules.ofConfig (config : Config) : CommitRules :=
  ⟨max config.mergeCap 1, max config.ignitionChance 1⟩

/-- A commit on its way. -/
structure CommitProgress where
  world : World
  /-- The drops of the voxels converted so far. -/
  pile : DropPile
  summary : CommitSummary := {}

structure CommitFault where
  position : Position
  cause : HandlerError

/-- The world after a commit, and what was done or what went wrong. -/
structure CommitOutcome where
  world : World
  result : Except CommitFault CommitSummary

namespace CommitProgress

/-- Carries out what a handler wants done at a position. Drops count only if the voxel was replaced or
nothing was to replace it. -/
def apply (progress : CommitProgress) (p : Position) (wanted : HitResult) : CommitProgress :=
  match wanted.replacement with
  | none => { progress with pile := progress.pile.addAll wanted.drops p }
  | some state =>
    let (accepted, world) := progress.world.setVoxel p state .standard
    if accepted then
      { world
        pile := progress.pile.addAll wanted.drops p
        summary := { progress.summary with changed := progress.summary.changed + 1 } }
    else
      { progress with
        world
        summary := { progress.summary with rejected := progress.summary.rejected + 1 } }

/-- Lets the gathered drops fall in the middle of the voxels where their stacks were started. -/
def settle (progress : CommitProgress) : World × CommitSummary :=
  progress.pile.entries.foldl
    (fun (world, summary) (stack, p) =>
      (world.dropItem stack p.center,
        { summary with dropped := summary.dropped + 1, items := summary.items + stack.count }))
    (progress.world, progress.summary)

end CommitProgress

namespace CommitRules

/-- What is to be done at a position: nothing if the voxel is empty, and what the handler says if it
holds a block. Where it holds only a fluid, a destructive blast clears it. -/
def reaction (explosion : Explosion) (world : World) (p : Position) :
    Draw (Except HandlerError HitResult) :=
  let voxel := world.voxel p
  if world.registry.isEmptyVoxel voxel then pure (.ok .untouched)
  else
    let block := world.registry.block voxel.block.block
    if block.isAir then
      pure (.ok (if explosion.interaction.isDestructive then .removed [] else .untouched))
    else
      block.handler.react {
        position := p
        state := voxel.block
        traits := block.toBlockTraits
        interaction := explosion.interaction
        radius := explosion.radius }

/-- Converts the voxels at some positions one after the other, and stops at the first whose handler
fails. -/
def convert (explosion : Explosion) :
    List Position → CommitProgress → Draw (CommitProgress × Option CommitFault)
  | [], progress => pure (progress, none)
  | p :: rest, progress => do
    match ← reaction explosion progress.world p with
    | .error cause => pure (progress, some ⟨p, cause⟩)
    | .ok wanted => convert explosion rest (progress.apply p wanted)

/-- Whether a fire can burn at a position: there is neither block nor fluid, and the block below fills
its cube. -/
def canBurn (world : World) (p : Position) : Bool :=
  (world.blockAt p).isAir && (world.voxel p).fluid.isEmpty && (world.blockAt p.below).solidRender

def light (fire : BlockId) (p : Position) (world : World) (summary : CommitSummary) :
    World × CommitSummary :=
  if canBurn world p then
    let (accepted, world) := world.setVoxel p ⟨fire, 0⟩ .standard
    (world,
      if accepted then { summary with fires := summary.fires + 1 }
      else { summary with rejected := summary.rejected + 1 })
  else (world, summary)

/-- Draws for each position whether it catches fire. -/
def ignite (rules : CommitRules) (fire : BlockId) :
    List Position → World × CommitSummary → Draw (World × CommitSummary)
  | [], state => pure state
  | p :: rest, (world, summary) => do
    let drawn ← Draw.below rules.ignitionChance
    ignite rules fire rest (if drawn = 0 then light fire p world summary else (world, summary))

/-- Converts the voxels of a set in a shuffled order, lets the drops fall and lights fires. Without
fires there is nothing to draw for them, and neither if the world knows no fire. -/
def commit (rules : CommitRules) (explosion : Explosion) (affected : AffectedSet) (world : World) :
    Draw CommitOutcome :=
  if explosion.interaction = .keep then pure ⟨world, .ok {}⟩
  else do
    let order := (← Draw.shuffle affected.toList.toArray).toList
    let (progress, fault) ← convert explosion order { world, pile := { cap := rules.mergeCap } }
    let (world, summary) := progress.settle
    match fault with
    | some fault => pure ⟨world, .error fault⟩
    | none =>
      match if explosion.fire then world.registry.fireBlock? else none with
      | none => pure ⟨world, .ok summary⟩
      | some fire => do
        let (world, summary) ← ignite rules fire order (world, summary)
        pure ⟨world, .ok summary⟩

end CommitRules

end Crater
