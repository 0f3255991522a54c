import Crater.Proofs.FullStacks
import Crater.Proofs.PaletteLoading
import Crater.Proofs.Settings
import Crater.Proofs.Switches

/-!
# Stack limits

A stack on the ground started as what one block left behind, a single item, and any
more items came onto it by merging, which stays within the limit of the stack and the
cap. So it exceeds neither, unless its limit does not even allow the single item: a
palette may give a block a limit of zero, and the item falls all the same.
-/

namespace Crater

/-! ## Stacks of a pile -/

/-- Where a stack of a pile comes from: it is of the kind of a stack that was added, with its
limit, and holds no more items than that one, or no more than merging could put on it. -/
structure ItemStack.StemsFrom (cap : ℕ) (added s : ItemStack) : Prop where
  item : s.item = added.item
  tag : s.tag = added.tag
  maxStack : s.maxStack = added.maxStack
  notEmpty : s.count ≠ 0
  count : s.count ≤ added.count ∨ s.count ≤ s.limit cap

namespace DropPile

/-- **Every stack of a pile** stems from one of those that were added. -/
theorem exists_stemsFrom_of_mem_gather (cap : ℕ) (adds : List (ItemStack × Position)) :
    ∀ e ∈ (gather cap adds).entries, ∃ add ∈ adds, add.1.StemsFrom cap e.1 := by
  induction adds using List.reverseRecOn with
  | nil =>
      intro e he
      cases he
  | append_singleton adds add ih =>
      obtain ⟨stack, position⟩ := add
      rw [gather_append_singleton]
      intro e he
      rcases (grows_add (gather cap adds) stack position).mem_cases he with
        ⟨e₀, he₀, hkept⟩ | ⟨hnew, hsome, hle⟩
      · obtain ⟨add, hadd, hstems⟩ := ih e₀ he₀
        rw [cap_gather] at hkept
        refine ⟨add, List.mem_append_left _ hadd, hkept.item.trans hstems.item,
          hkept.tag.trans hstems.tag, hkept.maxStack.trans hstems.maxStack, ?_, ?_⟩
        · have hsome := hstems.notEmpty
          have hle := hkept.le
          omega
        · rw [hkept.limit_eq]
          rcases hkept.le.eq_or_lt with hsame | hlt
          · rw [← hsame]
            exact hstems.count
          · exact .inr (hkept.within hlt)
      · refine ⟨(stack, position), by simp, ?_⟩
        rw [hnew]
        exact ⟨rfl, rfl, rfl, hsome, .inl hle⟩

end DropPile

/-! ## Stacks of a commit -/

/-- What built-in handlers drop at a position are the leavings of its block. -/
theorem CommitRules.mem_leavings_of_reaction {w : World} {explosion : Explosion} {p : Position}
    {g : Generator} {wanted : HitResult} (hbuiltin : w.registry.UsesBuiltin)
    (hwanted : (reaction explosion w p g).1 = .ok wanted) {s : ItemStack} (hs : s ∈ wanted.drops) :
    s ∈ (w.blockAt p).leavings := by
  rcases reaction_usual hbuiltin explosion p g with ⟨-, huntouched⟩ | ⟨-, husual⟩
  · rw [hwanted] at huntouched
    obtain rfl := Except.ok.inj huntouched
    cases hs
  · rw [hwanted] at husual
    cases husual with
    | removed destructive own =>
        rcases own with rfl | ⟨-, rfl⟩
        · exact hs
        · cases hs
    | untouched gentle => cases hs
    | turned gentle metadata => cases hs

/-- What is earned in the course of a log is left behind by blocks of the world. -/
theorem Converts.exists_mem_leavings {explosion : Explosion} {w w' : World} {g g' : Generator}
    {log : List Conversion} (h : Converts explosion w g log w' g')
    (hbuiltin : w.registry.UsesBuiltin) :
    ∀ add ∈ shed log, ∃ id, add.1 ∈ (w.registry.block id).leavings := by
  induction h with
  | nil w g =>
      intro add hadd
      cases hadd
  | @cons w w₁ w' g g₁ g' p wanted granted log handled fulfilled later ih =>
      have hregistry := (World.SameSetting.of_fulfil fulfilled).registry
      rw [hregistry] at ih
      intro add hadd
      rw [shed, List.flatMap_cons, List.mem_append] at hadd
      rcases hadd with hfirst | hrest
      · obtain ⟨s, hs, rfl⟩ := List.mem_map.mp hfirst
        have hdrop : s ∈ wanted.drops := by
          cases granted with
          | true => exact hs
          | false => cases hs
        exact ⟨_, CommitRules.mem_leavings_of_reaction hbuiltin (congrArg Prod.fst handled) hdrop⟩
      · exact ih hbuiltin add hrest

/-- **Every stack that a commit lets fall** stems from what some block leaves behind. -/
theorem CommitRules.exists_emitted (rules : CommitRules) (explosion : Explosion)
    (affected : AffectedSet) {w : World} (g : Generator) (hbuiltin : w.registry.UsesBuiltin) :
    ∃ emitted : List (ItemStack × Vec3),
      (rules.commit explosion affected w g).1.world.drops.toList = w.drops.toList ++ emitted ∧
      ∀ e ∈ emitted, ∃ id, ∃ added ∈ (w.registry.block id).leavings,
        added.StemsFrom rules.mergeCap e.1 := by
  refine rules.commit_induction affected w g (P := fun after => ∃ emitted : List (ItemStack × Vec3),
    after.drops.toList = w.drops.toList ++ emitted ∧
    ∀ e ∈ emitted, ∃ id, ∃ added ∈ (w.registry.block id).leavings,
      added.StemsFrom rules.mergeCap e.1) ?_ ?_ ?_
  · exact ⟨[], (List.append_nil _).symm, by simp⟩
  · intro log w' g₁ g₂ _ hconv
    refine ⟨(DropPile.gather rules.mergeCap (shed log)).fallen, ?_, ?_⟩
    · rw [drops_settled, hconv.drops_eq, Array.toList_appendList]
    · intro e he
      obtain ⟨entry, hentry, rfl⟩ := List.mem_map.mp he
      obtain ⟨add, hadd, hstems⟩ :=
        DropPile.exists_stemsFrom_of_mem_gather rules.mergeCap (shed log) entry hentry
      obtain ⟨id, hid⟩ := hconv.exists_mem_leavings hbuiltin add hadd
      exact ⟨id, add.1, hid, hstems⟩
  · rintro ps before after - - hburnt ⟨emitted, hdrops, hemitted⟩
    exact ⟨emitted, by rw [hburnt.drops, hdrops], hemitted⟩

/-! ## Stacks of a palette -/

/-- A block leaves something behind if its table says that it drops something and names a handler
that does so, and this is the item of its number. -/
theorem BlockSpec.Describes.yield {spec : BlockSpec} {id : BlockId} {block : BlockType}
    (h : spec.Describes id block) :
    block.yield = if spec.drops = true ∧ spec.handler ≠ .noDrops then some ⟨id.index⟩ else none := by
  rw [BlockType.yield, h.notAir, h.handler, h.dropItem]
  cases spec.handler <;> cases spec.drops <;> rfl

theorem Palette.IsLoaded.exists_of_mem_leavings {palette : Palette} {r : Registry}
    (h : palette.IsLoaded r) {id : BlockId} {s : ItemStack} (hs : s ∈ (r.block id).leavings) :
    ∃ i spec, palette.blocks[i]? = some spec ∧ spec.drops = true ∧ spec.handler ≠ .noDrops ∧
      s = ⟨⟨i + 1⟩, 1, spec.maxStack, 0⟩ := by
  obtain ⟨n⟩ := id
  obtain ⟨item, hitem, rfl⟩ := Option.map_eq_some_iff.mp (Option.mem_toList.mp hs)
  cases n with
  | zero =>
      -- air leaves nothing
      rw [show r.block ⟨0⟩ = .air from r.block_air] at hitem
      cases hitem
  | succ i =>
      cases hspec : palette.blocks[i]? with
      | none =>
          -- a number without a table stands for a block that leaves nothing
          have hnone : r.get? ⟨i + 1⟩ = none := by
            have hlength := List.getElem?_eq_none_iff.mp hspec
            have hsize := h.blocks
            exact Array.getElem?_eq_none (hsize.trans_le (Nat.succ_le_succ hlength))
          rw [Registry.block, hnone] at hitem
          cases hitem
      | some spec =>
          obtain ⟨block, hblock, hdescribes⟩ := h.block i spec hspec
          have hfound : r.block ⟨i + 1⟩ = block := by rw [Registry.block, hblock, Option.getD_some]
          rw [hfound, hdescribes.yield] at hitem
          split at hitem
          · next hdrops =>
            obtain rfl := Option.some.inj hitem
            rw [hfound, hdescribes.dropMaxStack]
            exact ⟨i, spec, hspec, hdrops.1, hdrops.2, rfl⟩
          · cases hitem

/-- A stack that fell from a block of a palette, merged under a cap. -/
structure Palette.Sheds (palette : Palette) (cap : ℕ) (s : ItemStack) : Prop where
  /-- It is of the item of one of the tables, and has its limit. -/
  table : ∃ i spec, palette.blocks[i]? = some spec ∧ spec.drops = true ∧ spec.handler ≠ .noDrops ∧
    s.item = ⟨i + 1⟩ ∧ s.maxStack = spec.maxStack
  tag : s.tag = 0
  one_le : 1 ≤ s.count
  /-- It keeps to its limit and to the cap unless the limit is zero. -/
  within : s.maxStack ≠ 0 → s.count ≤ min s.maxStack cap
  /-- If the limit is zero a single item falls, and so the stack exceeds it. -/
  single : s.maxStack = 0 → s.count = 1

theorem Palette.IsLoaded.sheds {palette : Palette} {r : Registry} (h : palette.IsLoaded r)
    {cap : ℕ} (hcap : cap ≠ 0) {id : BlockId} {added s : ItemStack}
    (hadded : added ∈ (r.block id).leavings) (hstems : added.StemsFrom cap s) :
    palette.Sheds cap s := by
  obtain ⟨i, spec, hspec, hdrops, hhandler, rfl⟩ := h.exists_of_mem_leavings hadded
  have hsome := hstems.notEmpty
  have hcount := hstems.count
  rw [ItemStack.limit] at hcount
  dsimp only at hcount
  refine ⟨⟨i, spec, hspec, hdrops, hhandler, hstems.item, hstems.maxStack⟩, hstems.tag, ?_, ?_, ?_⟩
  · omega
  · intro hlimit
    omega
  · intro hlimit
    omega

/-- **Stacks keep to their limits**, if these allow a stack at all: whatever falls in a commit over
a world of a palette file is at least one item, and no more than its limit and the cap of the
configuration allow, but for items whose table has a limit of zero. These fall one by one. -/
theorem CommitRules.exists_sheds {text : String} {r : Registry} {config : Config} {w : World}
    (hload : Registry.ofText text = .ok r) (hconfig : config.validate = .ok ())
    (hworld : w.registry = r) (explosion : Explosion) (affected : AffectedSet) (g : Generator) :
    ∃ (palette : Palette) (emitted : List (ItemStack × Vec3)),
      Palette.ofText? text = some palette ∧
      ((ofConfig config).commit explosion affected w g).1.world.drops.toList =
        w.drops.toList ++ emitted ∧
      (∀ e ∈ emitted, palette.Sheds config.mergeCap e.1) ∧
      ((∀ spec ∈ palette.blocks, spec.drops = true → spec.maxStack ≠ 0) →
        ∀ e ∈ emitted, 1 ≤ e.1.count ∧ e.1.count ≤ min e.1.maxStack config.mergeCap) := by
  subst hworld
  have hcap := (Config.isValid_of_validate hconfig).mergeCap
  have hmergeCap : (ofConfig config).mergeCap = config.mergeCap :=
    Nat.max_eq_left (Nat.one_le_iff_ne_zero.mpr hcap)
  have hbuiltin := Registry.usesBuiltin_of_ofText hload
  obtain ⟨palette, htext, hpalette⟩ := Registry.exists_palette_of_ofText hload
  have hloaded : palette.IsLoaded w.registry := palette.loadsFaithfully.loaded _ hpalette
  obtain ⟨emitted, hdrops, hemitted⟩ :=
    (ofConfig config).exists_emitted explosion affected g hbuiltin
  have hsheds : ∀ e ∈ emitted, palette.Sheds config.mergeCap e.1 := by
    intro e he
    obtain ⟨id, added, hadded, hstems⟩ := hemitted e he
    exact hloaded.sheds hcap hadded (hmergeCap ▸ hstems)
  refine ⟨palette, emitted, htext, hdrops, hsheds, ?_⟩
  intro hlimits e he
  obtain ⟨⟨i, spec, hspec, hdrop, -, -, hlimit⟩, -, hone, hwithin, -⟩ := hsheds e he
  have hspec := hlimits spec (List.mem_of_getElem? hspec) hdrop
  exact ⟨hone, hwithin (hlimit ▸ hspec)⟩

/-! ## A limit of zero -/

def Palette.sweepingsText : String :=
  "[[block]]\nname = \"dust\"\nresistance = 0\ndrops = true\nmax_stack = 0\n" ++
    "[[block]]\nname = \"grit\"\nresistance = 1\ndrops = true\nmax_stack = 8\n"

/-- What this text describes: items of the first block do not stack at all. -/
def Palette.sweepings : Palette where
  blocks := [{ name := "dust", resistance := 0.0, drops := true, maxStack := 0 },
    { name := "grit", resistance := 1.0, drops := true, maxStack := 8 }]
  fluids := []

theorem Palette.ofText?_sweepingsText : ofText? sweepingsText = some sweepings := by
  decide +kernel

theorem Registry.ofText_sweepingsText :
    ofText Palette.sweepingsText = .ok (filled .sweepings) := by
  have hwell : Palette.sweepings.IsWellFormed := by
    refine ⟨?_, ?_, ?_, ?_, ?_, ?_, ?_, ?_⟩ <;> decide
  rw [ofText, Palette.ofText?_sweepingsText]
  exact mapError_eq_ok_iff.mpr (ofPalette_eq_ok_iff.mpr ⟨hwell, rfl⟩)

/-- A world of this palette with a single block of dust. -/
def World.dust : World := (World.place (.empty (.filled .sweepings) {}) ⟨0, 0, 0⟩ ⟨⟨1⟩, 0⟩).2

/-- A destructive blast at the origin that lights no fire. -/
def Explosion.puff : Explosion := { Explosion.pulse with interaction := .destroy, fire := false }

namespace CommitRules

theorem exists_sheds_sweepings : Registry.ofText Palette.sweepingsText = .ok (.filled .sweepings) ∧
    Config.validate {} = .ok () ∧ World.dust.registry = .filled .sweepings ∧
    ∃ (palette : Palette) (emitted : List (ItemStack × Vec3)),
      Palette.ofText? Palette.sweepingsText = some palette ∧
      ((ofConfig {}).commit .puff .origin .dust (.ofSeed 0)).1.world.drops.toList =
        World.dust.drops.toList ++ emitted ∧
      (∀ e ∈ emitted, palette.Sheds 16 e.1) ∧
      ((∀ spec ∈ palette.blocks, spec.drops = true → spec.maxStack ≠ 0) →
        ∀ e ∈ emitted, 1 ≤ e.1.count ∧ e.1.count ≤ min e.1.maxStack 16) :=
  ⟨Registry.ofText_sweepingsText, rfl, rfl,
    exists_sheds Registry.ofText_sweepingsText rfl rfl .puff .origin (.ofSeed 0)⟩

theorem reaction_dust (g : Generator) :
    reaction .puff .dust ⟨0, 0, 0⟩ g = (.ok (.removed [⟨⟨1⟩, 1, 0, 0⟩]), g) := by
  have hvoxel : World.dust.voxel ⟨0, 0, 0⟩ = .ofBlock ⟨⟨1⟩, 0⟩ := World.voxel_place_self rfl _
  have hblock : World.dust.blockAt ⟨0, 0, 0⟩ = World.dust.registry.block ⟨1⟩ := by
    rw [World.blockAt, hvoxel]
    rfl
  rw [reaction_of_not_isAir .puff (by rw [hblock]; rfl), Explosion.hitAt, hblock]
  rfl

theorem isWritable_dust : World.dust.isWritable ⟨0, 0, 0⟩ = true := by
  have hfree : World.dust.isGuarded ⟨0, 0, 0⟩ = false := Std.HashSet.contains_empty
  have haccepts : World.dust.grid.range.accepts ⟨0, 0, 0⟩ = true := by decide
  rw [World.isWritable, hfree, haccepts]
  rfl

/-- **A stack may exceed its limit**: an item of which no stack may hold any falls all the same. -/
theorem limit_lt_count_dust : Registry.ofText Palette.sweepingsText = .ok (.filled .sweepings) ∧
    Config.validate {} = .ok () ∧ World.dust.registry = .filled .sweepings ∧
    World.dust.drops = #[] ∧
    ∃ e ∈ ((ofConfig {}).commit .puff .origin .dust (.ofSeed 0)).1.world.drops,
      ¬ e.1.count ≤ min e.1.maxStack 16 := by
  refine ⟨Registry.ofText_sweepingsText, rfl, rfl, rfl, ?_⟩
  have hshuffle : Draw.shuffle AffectedSet.origin.toList.toArray (.ofSeed 0) =
      (#[⟨0, 0, 0⟩], .ofSeed 0) := by
    rw [show AffectedSet.origin.toList = [⟨0, 0, 0⟩] by decide +kernel]
    rfl
  have hfulfil : World.dust.fulfil ⟨0, 0, 0⟩ (some .air) =
      (true, (World.dust.setVoxel ⟨0, 0, 0⟩ .air .standard).2) :=
    Prod.ext ((World.dust.setVoxel_fst _ _ _).trans isWritable_dust) rfl
  have hconv := Converts.cons (reaction_dust (.ofSeed 0)) hfulfil (.nil _ _)
  have hdrops : ((ofConfig {}).commit .puff .origin .dust (.ofSeed 0)).1.world.drops =
      #[(⟨⟨1⟩, 1, 0, 0⟩, Position.center ⟨0, 0, 0⟩)] := by
    rw [(ofConfig {}).commit_of_converts (by decide) hshuffle hconv rfl,
      (ofConfig {}).finish_of_fire_eq_false rfl, drops_settled, hconv.drops_eq]
    rfl
  rw [hdrops]
  exact ⟨_, Array.mem_singleton.mpr rfl, by decide⟩

end CommitRules

end Crater
