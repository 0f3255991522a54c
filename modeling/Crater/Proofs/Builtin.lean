import Crater.Commit
import Crater.Proofs.Draws
import Crater.Proofs.Tally

/-!
# Built-in handlers

What is to be done at a position depends on what it holds. Where it holds a block that is not
air, the block's handler is asked.

The built-in handlers do one of two things. A destructive blast has them remove
their block, and what they drop is the block's leavings, less what decays. Any
other blast leaves the kind of block as it is and drops nothing.
-/

namespace Crater

open CommitRules (reaction)

/-! ## Asking a handler -/

/-- What the handler at a position is told of an explosion. -/
def Explosion.hitAt (explosion : Explosion) (w : World) (p : Position) : Hit where
  position := p
  state := (w.voxel p).block
  traits := (w.blockAt p).toBlockTraits
  interaction := explosion.interaction
  radius := explosion.radius

theorem World.isEmptyVoxel_voxel (w : World) (p : Position) :
    w.registry.isEmptyVoxel (w.voxel p) = ((w.blockAt p).isAir && (w.voxel p).fluid.isEmpty) := rfl

namespace CommitRules

variable (explosion : Explosion) {w : World} {p : Position}

theorem reaction_of_isEmptyVoxel (hempty : w.registry.isEmptyVoxel (w.voxel p) = true) :
    reaction explosion w p = pure (.ok .untouched) := by
  rw [reaction, if_pos hempty]

/-- A fluid on its own has no handler. -/
theorem reaction_of_isAir (hair : (w.blockAt p).isAir = true)
    (hwet : (w.voxel p).fluid.isEmpty = false) : reaction explosion w p =
      pure (.ok (if explosion.interaction.isDestructive then .removed [] else .untouched)) := by
  have hused : ¬ w.registry.isEmptyVoxel (w.voxel p) = true := by
    rw [w.isEmptyVoxel_voxel, hwet, Bool.and_false]
    exact Bool.false_ne_true
  rw [reaction, if_neg hused]
  exact if_pos hair

/-- **A block that is not air** has its handler decide. -/
theorem reaction_of_not_isAir (hsolid : (w.blockAt p).isAir = false) :
    reaction explosion w p = (w.blockAt p).handler.react (explosion.hitAt w p) := by
  have hused : ¬ w.registry.isEmptyVoxel (w.voxel p) = true := by
    rw [w.isEmptyVoxel_voxel, hsolid, Bool.false_and]
    exact Bool.false_ne_true
  rw [reaction, if_neg hused]
  exact if_neg (Bool.eq_false_iff.mp hsolid)

theorem reaction_cases (w : World) (p : Position) :
    (w.registry.isEmptyVoxel (w.voxel p) = true ∧
      reaction explosion w p = pure (.ok .untouched)) ∨
    (w.registry.isEmptyVoxel (w.voxel p) = false ∧ (w.blockAt p).isAir = true ∧
      reaction explosion w p =
        pure (.ok (if explosion.interaction.isDestructive then .removed [] else .untouched))) ∨
    (w.registry.isEmptyVoxel (w.voxel p) = false ∧ (w.blockAt p).isAir = false ∧
      reaction explosion w p = (w.blockAt p).handler.react (explosion.hitAt w p)) := by
  rw [w.isEmptyVoxel_voxel]
  cases hair : (w.blockAt p).isAir with
  | false => exact .inr (.inr ⟨rfl, rfl, reaction_of_not_isAir explosion hair⟩)
  | true =>
      cases hwet : (w.voxel p).fluid.isEmpty with
      | false => exact .inr (.inl ⟨rfl, rfl, reaction_of_isAir explosion hair hwet⟩)
      | true =>
          refine .inl ⟨rfl, reaction_of_isEmptyVoxel explosion ?_⟩
          rw [w.isEmptyVoxel_voxel, hair, hwet, Bool.and_true]

end CommitRules

/-! ## Handlers that are built in -/

def Handler.isBuiltin : Handler → Bool
  | dropSelf | noDrops | trigger => true
  | custom _ => false

def Registry.UsesBuiltin (r : Registry) : Prop :=
  ∀ block ∈ r.blocks, block.handler.isBuiltin = true

instance (r : Registry) : Decidable r.UsesBuiltin :=
  inferInstanceAs (Decidable (∀ block ∈ r.blocks, block.handler.isBuiltin = true))

theorem Registry.UsesBuiltin.block {r : Registry} (h : r.UsesBuiltin) (id : BlockId) :
    (r.block id).handler.isBuiltin = true := by
  rw [Registry.block, Registry.get?]
  cases hblock : r.blocks[id.index]? with
  | none => rfl
  | some block => exact h block (Array.mem_of_getElem? hblock)

theorem Registry.usesBuiltin_builtin : builtin.UsesBuiltin := by decide

/-! ## Leavings -/

/-- The one item that a block stands for: it must not be air and must have a handler
that drops it. -/
def BlockType.yield (block : BlockType) : Option ItemId :=
  if block.isAir then none
  else
    match block.handler with
    | .dropSelf | .trigger => block.dropItem
    | .noDrops | .custom _ => none

/-- Whether an item stands for a fire can be told from the names of the blocks. -/
theorem Registry.yield_fireBlock (r : Registry)
    (h : ∀ block ∈ r.blocks, block.name = "fire" → block.yield = none) :
    ∀ fire, r.fireBlock? = some fire → (r.block fire).yield = none := by
  intro fire hfire
  obtain ⟨block, hblock, hname⟩ := Option.map_eq_some_iff.mp (r.named hfire)
  rw [Registry.block, Registry.get?, hblock]
  exact h block (Array.mem_of_getElem? hblock) hname

/-- What a removed block leaves behind if nothing decays. -/
def BlockType.leavings (block : BlockType) : List ItemStack :=
  (block.yield.map fun item => ⟨item, 1, block.dropMaxStack, 0⟩).toList

theorem BlockType.tally_leavings (block : BlockType) (item : ItemId) :
    tally (.item item) block.leavings = if block.yield = some item then 1 else 0 := by
  unfold leavings
  cases block.yield with
  | none => rfl
  | some own => simp [tally, Selection.item]

theorem Hit.ownDrop_cases (hit : Hit) (g : Generator) :
    (hit.ownDrop g).1 = hit.traits.dropItem.map (⟨·, 1, hit.traits.dropMaxStack, 0⟩) ∨
      hit.interaction = .destroyWithDecay ∧ (hit.ownDrop g).1 = none := by
  unfold ownDrop
  cases hit.traits.dropItem with
  | none => exact .inl rfl
  | some item =>
      simp only [Bool.and_eq_true, beq_iff_eq]
      split
      · next hdecay =>
        rw [Draw.bind_apply]
        split
        · exact .inr ⟨hdecay.1, rfl⟩
        · exact .inl rfl
      · exact .inl rfl

/-! ## What handlers want -/

/-- What a built-in handler can want of `block` in the voxel state `state`. -/
inductive Handler.Usual (interaction : Interaction) (block : BlockType) (state : BlockState) :
    Except HandlerError HitResult → Prop
  | removed {drops : List ItemStack} (destructive : interaction.isDestructive = true)
      (own : drops = block.leavings ∨ interaction = .destroyWithDecay ∧ drops = []) :
      Usual interaction block state (.ok (.removed drops))
  | untouched (gentle : interaction.isDestructive = false) :
      Usual interaction block state (.ok .untouched)
  | turned (gentle : interaction.isDestructive = false) (metadata : Nat) :
      Usual interaction block state (.ok ⟨[], some ⟨state.block, metadata⟩⟩)
  | failed (gentle : interaction.isDestructive = false) (cause : HandlerError) :
      Usual interaction block state (.error cause)

namespace Handler

/-- Dropping the own item is removing a block with a handler that drops it. -/
theorem usual_ownDrop {block : BlockType} {hit : Hit} (hsolid : block.isAir = false)
    (hdrops : block.handler = .dropSelf ∨ block.handler = .trigger)
    (htraits : hit.traits = block.toBlockTraits) (hmode : hit.interaction.isDestructive = true)
    (state : BlockState) (g : Generator) :
    Usual hit.interaction block state (.ok (.removed (hit.ownDrop g).1.toList)) := by
  have hyield : block.yield = block.dropItem := by
    rcases hdrops with h | h <;> simp [BlockType.yield, hsolid, h]
  refine .removed hmode ?_
  rcases hit.ownDrop_cases g with hown | ⟨hdecay, hown⟩
  · rw [hown, htraits, BlockType.leavings, hyield]
    exact .inl rfl
  · rw [hown]
    exact .inr ⟨hdecay, rfl⟩

theorem usual_react {block : BlockType} (hsolid : block.isAir = false)
    (hbuiltin : block.handler.isBuiltin = true) (hit : Hit)
    (htraits : hit.traits = block.toBlockTraits) (g : Generator) :
    Usual hit.interaction block hit.state (block.handler.react hit g).1 := by
  cases hhandler : block.handler with
  | dropSelf =>
      rw [react]
      split
      · next hmode => exact usual_ownDrop hsolid (.inl hhandler) htraits hmode _ g
      · next hmode => exact .untouched (by simpa using hmode)
  | noDrops =>
      rw [react]
      cases hmode : hit.interaction.isDestructive with
      | true =>
          refine .removed hmode (.inl ?_)
          simp [BlockType.leavings, BlockType.yield, hhandler]
      | false => exact .untouched hmode
  | trigger =>
      obtain ⟨position, state, traits, interaction, radius⟩ := hit
      cases interaction with
      | keep => exact .untouched rfl
      | triggerOnly =>
          simp only [react]
          split
          · exact .failed rfl _
          · exact .turned rfl _
      | destroy => exact usual_ownDrop hsolid (.inr hhandler) htraits rfl _ g
      | destroyWithDecay => exact usual_ownDrop hsolid (.inr hhandler) htraits rfl _ g
  | custom own =>
      rw [hhandler] at hbuiltin
      cases hbuiltin

end Handler

/-- **All that a commit can want at a position** where only built-in handlers are in
use. -/
theorem CommitRules.reaction_usual {w : World} (hbuiltin : w.registry.UsesBuiltin)
    (explosion : Explosion) (p : Position) (g : Generator) :
    (w.registry.isEmptyVoxel (w.voxel p) = true ∧
      (reaction explosion w p g).1 = .ok .untouched) ∨
    (w.registry.isEmptyVoxel (w.voxel p) = false ∧
      Handler.Usual explosion.interaction (w.blockAt p) (w.voxel p).block
        (reaction explosion w p g).1) := by
  obtain ⟨hempty, hwanted⟩ | ⟨hused, hair, hwanted⟩ | ⟨hused, hsolid, hwanted⟩ :=
    reaction_cases explosion w p <;> rw [hwanted]
  · exact .inl ⟨hempty, rfl⟩
  · have hnothing : (w.blockAt p).leavings = [] := by
      simp [BlockType.leavings, BlockType.yield, hair]
    refine .inr ⟨hused, ?_⟩
    cases hmode : explosion.interaction.isDestructive with
    | true => exact .removed hmode (.inl hnothing.symm)
    | false => exact .untouched hmode
  · exact .inr ⟨hused, Handler.usual_react hsolid (hbuiltin.block _) (explosion.hitAt w p) rfl g⟩

/-- A destructive blast removes whatever is not nothing. -/
theorem CommitRules.reaction_destructive {explosion : Explosion} {w : World} {p : Position}
    (hbuiltin : w.registry.UsesBuiltin) (hmode : explosion.interaction.isDestructive = true)
    (hused : w.registry.isEmptyVoxel (w.voxel p) = false) (g : Generator) :
    ∃ drops, (reaction explosion w p g).1 = .ok (.removed drops) := by
  rcases reaction_usual hbuiltin explosion p g with ⟨hempty, -⟩ | ⟨-, husual⟩
  · rw [hused] at hempty
    cases hempty
  · generalize (reaction explosion w p g).1 = wanted at husual ⊢
    cases husual with
    | @removed drops => exact ⟨drops, rfl⟩
    | untouched gentle | turned gentle | failed gentle =>
        rw [hmode] at gentle
        cases gentle

end Crater
