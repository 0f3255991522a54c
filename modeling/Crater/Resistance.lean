import Crater.Block.Registry
import Crater.Entity
/-!
# Resistance

How much power a voxel takes from a ray, and whether a ray with power left destroys it. By default the
registry decides; an exploding entity may bring rules of its own that reshape the resistances or spare
voxels.
-/

namespace Crater

/-- What a ray can see of a world. -/
structure Terrain where
  registry : Registry
  voxel : Position → Voxel
  /-- Whether a position lies above or below the buildable range. -/
  isOutside : Position → Bool

/-- Rules that an exploding entity brings. -/
structure EntityRules where
  /-- Adjusts the larger of block and fluid resistance. -/
  resistance : Position → Voxel → BlockType → Float32 → Float32 := fun _ _ _ base => base
  /-- Whether a ray with this power may destroy the voxel. -/
  shouldDestroy : Position → Voxel → BlockType → Float32 → Bool := fun _ _ _ _ => true

namespace EntityRules

/-- No resistance above `cap`, except for the blocks listed. -/
def resistanceCap (cap : Float32) (immune : List BlockId) : EntityRules where
  resistance _ voxel _ base := if immune.contains voxel.block.block then base else Single.min base cap

/-- Spares the blocks listed; rays still pay their resistance. -/
def protectedBlocks (blocks : List BlockId) : EntityRules where
  shouldDestroy _ voxel _ _ := !blocks.contains voxel.block.block

end EntityRules

/-- Which rules an explosion uses. -/
inductive ResistanceStrategy where
  /-- Resistances of the registry; every voxel that is not empty can be destroyed. -/
  | registry
  | entityDerived (entity : EntityId) (rules : EntityRules)

/-- The rules of one explosion in one world. -/
structure RayRules where
  /-- The resistance at a position; none if the voxel is empty. -/
  resistance : Position → Option Float32
  /-- Whether a ray with this power destroys the voxel at a position. -/
  destroys : Float32 → Position → Bool

namespace ResistanceStrategy

/-- The larger of the resistances of a voxel's block and fluid. -/
def base (registry : Registry) (voxel : Voxel) : Float32 :=
  let block := registry.block voxel.block.block
  let blockPart := if block.isAir then 0.0 else block.resistance
  let fluidPart :=
    if voxel.fluid.isEmpty then 0.0
    else ((registry.fluid? voxel.fluid.fluid).map FluidType.resistance).getD 0.0
  Single.max blockPart fluidPart

/-- The rules of a strategy in a world. A negative resistance counts as zero, since it would let a
ray gain power. -/
def rules (strategy : ResistanceStrategy) (terrain : Terrain) : RayRules where
  resistance p :=
    let voxel := terrain.voxel p
    if terrain.registry.isEmptyVoxel voxel then none
    else
      let base := base terrain.registry voxel
      let adjusted :=
        match strategy with
        | registry => base
        | entityDerived _ r => r.resistance p voxel (terrain.registry.block voxel.block.block) base
      some (Single.max adjusted 0.0)
  destroys power p :=
    let voxel := terrain.voxel p
    if terrain.registry.isEmptyVoxel voxel then false
    else
      match strategy with
      | registry => true
      | entityDerived _ r =>
        r.shouldDestroy p voxel (terrain.registry.block voxel.block.block) power

end ResistanceStrategy

end Crater
