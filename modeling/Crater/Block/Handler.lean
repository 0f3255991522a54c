import Crater.Block.State
import Crater.Geometry.Position
import Crater.Item
import Crater.Random.Generator
/-!
# Reactions of blocks

When a blast reaches a block, the block's handler says what it drops and what takes its place. Three
handlers are built in; any other reaction, failing ones included, is a function on the hit.
-/

namespace Crater

/-- How an explosion treats the voxels it reaches. -/
inductive Interaction where
  /-- Leaves every voxel alone. -/
  | keep
  /-- Removes voxels and drops everything. -/
  | destroy
  /-- Removes voxels; a drop survives with probability one over the radius. -/
  | destroyWithDecay
  /-- Only sets off blocks that react, such as buttons. -/
  | triggerOnly
  deriving DecidableEq, Inhabited

def Interaction.isDestructive : Interaction → Bool
  | destroy | destroyWithDecay => true
  | keep | triggerOnly => false

/-- What the engine knows about a kind of block. -/
structure BlockTraits where
  name : String
  /-- How much ray power the block takes. -/
  resistance : Float32
  /-- Counts as empty space. -/
  isAir : Bool := false
  /-- Fills its cube, so that fire can stand on it. -/
  solidRender : Bool := true
  /-- Blocks lines of sight. -/
  collision : Bool := true
  dropItem : Option ItemId := none
  dropMaxStack : Nat := ItemStack.defaultMaxStack

/-- One block in the reach of one explosion. -/
structure Hit where
  position : Position
  state : BlockState
  traits : BlockTraits
  interaction : Interaction
  radius : Float32

/-- What a handler wants done with its voxel. -/
structure HitResult where
  drops : List ItemStack := []
  /-- The new block; `none` leaves the voxel untouched. -/
  replacement : Option BlockState := none
  deriving DecidableEq

namespace HitResult

def untouched : HitResult := {}

def removed (drops : List ItemStack) : HitResult := ⟨drops, some .air⟩

end HitResult

/-- Why a handler gave up. -/
inductive HandlerError where
  /-- The handler cannot make sense of the metadata. -/
  | unsupportedState (block : String) (metadata : Nat)
  | other (text : String)
  deriving DecidableEq

def HandlerError.message : HandlerError → String
  | unsupportedState block metadata => s!"block {block} has unsupported state meta {metadata}"
  | other text => text

/-- How a block reacts to being hit. -/
inductive Handler where
  | dropSelf
  | noDrops
  /-- Flips the low bit of the metadata if only triggered, and else drops the block's item. -/
  | trigger
  /-- Any other reaction. -/
  | custom (react : Hit → Draw (Except HandlerError HitResult))

/-- The item that a removed block leaves. Where drops decay a fraction is drawn, and the item is lost
if it exceeds one over the radius. -/
def Hit.ownDrop (hit : Hit) : Draw (Option ItemStack) :=
  match hit.traits.dropItem with
  | none => pure none
  | some item =>
    let stack : ItemStack := ⟨item, 1, hit.traits.dropMaxStack, 0⟩
    if hit.interaction == .destroyWithDecay && hit.radius > 0.0 then do
      let drawn ← Draw.fraction
      return if drawn > 1.0 / hit.radius then none else some stack
    else pure (some stack)

namespace Handler

def react : Handler → Hit → Draw (Except HandlerError HitResult)
  | dropSelf, hit =>
    if hit.interaction.isDestructive then do
      return .ok (.removed (← hit.ownDrop).toList)
    else pure (.ok .untouched)
  | noDrops, hit =>
    pure (.ok (if hit.interaction.isDestructive then .removed [] else .untouched))
  | trigger, hit =>
    match hit.interaction with
    | .keep => pure (.ok .untouched)
    | .triggerOnly =>
      if hit.state.metadata > 1 then
        pure (.error (.unsupportedState hit.traits.name hit.state.metadata))
      else
        pure (.ok ⟨[], some ⟨hit.state.block, 1 - hit.state.metadata⟩⟩)
    | .destroy | .destroyWithDecay => do
      return .ok (.removed (← hit.ownDrop).toList)
  | custom react, hit => react hit

end Handler

end Crater
