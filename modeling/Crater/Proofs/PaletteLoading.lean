import Crater.Failure
import Crater.Proofs.Builtin
import Crater.Proofs.Registrations

/-!
# Loading palettes

Loading looks at one table after the other, and checks each against what has been loaded
before it. Still whether a palette can be loaded is a matter of the palette alone: names
must differ from each other and from those that are taken from the start, resistances
must be valid, and there must be numbers for all. Then every table has the number of its
place, and is found under its name.
-/

namespace Crater

theorem exists_of_bind_eq_ok {ε α β : Type} {x : Except ε α} {f : α → Except ε β} {b : β}
    (h : x >>= f = .ok b) : ∃ a, x = .ok a ∧ f a = .ok b := by
  cases x with
  | error fault => cases h
  | ok a => exact ⟨a, rfl, h⟩

theorem mapError_eq_ok_iff {ε ε' α : Type} {f : ε → ε'} {x : Except ε α} {a : α} :
    x.mapError f = .ok a ↔ x = .ok a := by
  cases x <;> simp [Except.mapError]

theorem mapError_eq_error_iff {ε ε' α : Type} {f : ε → ε'} {x : Except ε α} {e : ε'} :
    x.mapError f = .error e ↔ ∃ fault, x = .error fault ∧ f fault = e := by
  cases x <;> simp [Except.mapError]

/-- Two checks and what comes after them. -/
theorem checks_eq_ok_iff {ε α : Type} {bad bad' : Bool} {fault fault' : ε} {x : Except ε α} {a : α} :
    (do
      if bad then throw fault
      if bad' then throw fault'
      x) = .ok a ↔ bad = false ∧ bad' = false ∧ x = .ok a := by
  cases bad with
  | true =>
      constructor
      · intro h
        cases h
      · rintro ⟨h, -⟩
        cases h
  | false =>
      cases bad' with
      | true =>
          constructor
          · intro h
            cases h
          · rintro ⟨-, h, -⟩
            cases h
      | false =>
          rw [and_iff_right rfl, and_iff_right rfl]
          rfl

/-- What goes on only under a condition. -/
theorem guarded_eq_ok_iff {ε α β : Type} {c : Prop} [Decidable c] {a : α} {fault : ε}
    {f : α → Except ε β} {b : β} :
    ((if c then .ok a else .error fault) >>= f) = .ok b ↔ c ∧ f a = .ok b := by
  by_cases hc : c
  · rw [if_pos hc, and_iff_right hc]
    rfl
  · rw [if_neg hc]
    constructor
    · intro h
      cases h
    · rintro ⟨h, -⟩
      exact absurd h hc

/-! ## Tables taken one by one -/

/-- How a step takes a table: the table must be valid, its name must not be taken, and there must be
room. Then it takes its name and some of the room. -/
structure Intake {σ β ε : Type} (step : σ → β → Except ε σ) where
  name : β → String
  valid : β → Bool
  taken : σ → String → Bool
  room : σ → Nat
  add : σ → β → σ
  step_eq_ok_iff : ∀ s b s', step s b = .ok s' ↔
    (taken s (name b) = false ∧ valid b = true ∧ 0 < room s) ∧ add s b = s'
  taken_add : ∀ s b n, taken (add s b) n = (name b == n || taken s n)
  room_add : ∀ s b, room (add s b) = room s - 1

namespace Intake

variable {σ β ε : Type} {step : σ → β → Except ε σ} (intake : Intake step)

/-- Whether all tables of a list can be taken, told without taking any. -/
structure Accepts (s : σ) (tables : List β) : Prop where
  nodup : (tables.map intake.name).Nodup
  free : ∀ b ∈ tables, intake.taken s (intake.name b) = false
  valid : ∀ b ∈ tables, intake.valid b = true
  fits : tables.length ≤ intake.room s

theorem accepts_nil (s : σ) : intake.Accepts s [] :=
  ⟨List.nodup_nil, by simp, by simp, Nat.zero_le _⟩

theorem accepts_cons_iff {s : σ} {b : β} {rest : List β} :
    intake.Accepts s (b :: rest) ↔
      (intake.taken s (intake.name b) = false ∧ intake.valid b = true ∧ 0 < intake.room s) ∧
        intake.Accepts (intake.add s b) rest := by
  constructor
  · rintro ⟨hnodup, hfree, hvalid, hfits⟩
    rw [List.map_cons, List.nodup_cons] at hnodup
    rw [List.length_cons] at hfits
    refine ⟨⟨hfree b List.mem_cons_self, hvalid b List.mem_cons_self, by omega⟩,
      hnodup.2, ?_, fun c hc => hvalid c (List.mem_cons_of_mem b hc), ?_⟩
    · intro c hc
      rw [intake.taken_add, hfree c (List.mem_cons_of_mem b hc), Bool.or_false,
        beq_eq_false_iff_ne]
      intro hsame
      exact hnodup.1 (hsame ▸ List.mem_map_of_mem hc)
    · rw [intake.room_add]
      omega
  · rintro ⟨⟨hb, hvalid, hroom⟩, hrest⟩
    -- a name that is free after `b` is not that of `b`
    have hapart : ∀ c ∈ rest,
        intake.name b ≠ intake.name c ∧ intake.taken s (intake.name c) = false := by
      intro c hc
      have hfree := hrest.free c hc
      rwa [intake.taken_add, Bool.or_eq_false_iff, beq_eq_false_iff_ne] at hfree
    have hfits := hrest.fits
    rw [intake.room_add] at hfits
    refine ⟨?_, ?_, ?_, ?_⟩
    · rw [List.map_cons, List.nodup_cons]
      refine ⟨?_, hrest.nodup⟩
      intro hmem
      obtain ⟨c, hc, hsame⟩ := List.mem_map.mp hmem
      exact (hapart c hc).1 hsame.symm
    · intro c hc
      rcases List.mem_cons.mp hc with rfl | hc
      · exact hb
      · exact (hapart c hc).2
    · intro c hc
      rcases List.mem_cons.mp hc with rfl | hc
      · exact hvalid
      · exact hrest.valid c hc
    · rw [List.length_cons]
      omega

/-- Steps take a list if it can be taken, and then they add all of it. -/
theorem foldlM_eq_ok_iff {s s' : σ} {tables : List β} :
    tables.foldlM step s = .ok s' ↔ intake.Accepts s tables ∧ tables.foldl intake.add s = s' := by
  induction tables generalizing s with
  | nil =>
      rw [List.foldlM_nil, List.foldl_nil, and_iff_right (intake.accepts_nil s)]
      exact ⟨Except.ok.inj, congrArg Except.ok⟩
  | cons b rest ih =>
      rw [List.foldlM_cons, List.foldl_cons, intake.accepts_cons_iff, and_assoc, ← ih]
      constructor
      · intro h
        obtain ⟨s₁, hb, hrest⟩ := exists_of_bind_eq_ok h
        obtain ⟨hok, rfl⟩ := (intake.step_eq_ok_iff _ _ _).mp hb
        exact ⟨hok, hrest⟩
      · rintro ⟨hok, hrest⟩
        rw [(intake.step_eq_ok_iff s b _).mpr ⟨hok, rfl⟩]
        exact hrest

/-- Whether a list can be taken, where a single name is taken before. -/
theorem accepts_iff {s : σ} {tables : List β} {first : String}
    (h : ∀ name, intake.taken s name = false ↔ name ≠ first) :
    intake.Accepts s tables ↔ (tables.map intake.name).Nodup ∧
      (∀ b ∈ tables, intake.name b ≠ first) ∧ (∀ b ∈ tables, intake.valid b = true) ∧
      tables.length ≤ intake.room s := by
  constructor
  · rintro ⟨hnodup, hfree, hvalid, hfits⟩
    exact ⟨hnodup, fun b hb => (h _).mp (hfree b hb), hvalid, hfits⟩
  · rintro ⟨hnodup, hapart, hvalid, hfits⟩
    exact ⟨hnodup, fun b hb => (h _).mpr (hapart b hb), hvalid, hfits⟩

end Intake

namespace Registry

def addSpec (r : Registry) (spec : BlockSpec) : Registry := r.add (spec.toType ⟨r.size⟩)

def addFluidSpec (r : Registry) (spec : FluidSpec) : Registry :=
  r.addFluid ⟨spec.name, spec.resistance⟩

theorem isSome_byName?_add (r : Registry) (block : BlockType) (name : String) :
    ((r.add block).byName? name).isSome = (block.name == name || (r.byName? name).isSome) := by
  rw [byName?_add]
  by_cases hname : block.name = name <;> simp [hname]

theorem isSome_fluidByName? (r : Registry) (name : String) :
    (r.fluidByName? name).isSome = r.fluids.any (·.name == name) := by
  rw [fluidByName?, Option.isSome_map, Array.findIdx?_isSome]

def blockIntake : Intake load where
  name := BlockSpec.name
  valid spec := validResistance spec.resistance
  taken r name := (r.byName? name).isSome
  room r := maxBlocks - r.size
  add := addSpec
  step_eq_ok_iff := by
    intro r spec r'
    rw [load, checks_eq_ok_iff, and_assoc, and_assoc, Bool.not_eq_false']
    refine and_congr_right fun _ => and_congr_right fun _ => ?_
    rw [nextId, guarded_eq_ok_iff, Nat.sub_pos_iff_lt]
    exact and_congr_right fun _ => ⟨Except.ok.inj, congrArg Except.ok⟩
  taken_add r spec name := r.isSome_byName?_add _ name
  room_add r spec := by
    rw [addSpec, size, add, Array.size_push]
    exact Nat.sub_add_eq _ _ _

def fluidIntake : Intake loadFluid where
  name := FluidSpec.name
  valid spec := validResistance spec.resistance
  taken r name := (r.fluidByName? name).isSome
  room r := maxFluids - r.fluids.size
  add := addFluidSpec
  step_eq_ok_iff := by
    intro r spec r'
    rw [loadFluid, checks_eq_ok_iff, and_assoc, and_assoc, Bool.not_eq_false']
    refine and_congr_right fun _ => and_congr_right fun _ => ?_
    rw [nextFluidId, guarded_eq_ok_iff, Nat.sub_pos_iff_lt]
    exact and_congr_right fun _ => ⟨Except.ok.inj, congrArg Except.ok⟩
  taken_add r spec name := by
    rw [isSome_fluidByName?, isSome_fluidByName?, addFluidSpec, addFluid, Array.any_push,
      Bool.or_comm]
  room_add r spec := by
    rw [addFluidSpec, addFluid, Array.size_push]
    exact Nat.sub_add_eq _ _ _

/-! ## What is loaded -/

theorem toList_blocks_foldl_addSpec (specs : List BlockSpec) (r : Registry) :
    (specs.foldl addSpec r).blocks.toList =
      r.blocks.toList ++ (specs.zipIdx r.size).map fun entry => entry.1.toType ⟨entry.2⟩ := by
  induction specs generalizing r with
  | nil => simp
  | cons spec rest ih =>
      rw [List.foldl_cons, ih, List.zipIdx_cons, List.map_cons]
      simp [addSpec, add, size]

theorem fluids_foldl_addSpec (specs : List BlockSpec) (r : Registry) :
    (specs.foldl addSpec r).fluids = r.fluids := by
  induction specs generalizing r with
  | nil => rfl
  | cons spec rest ih =>
      rw [List.foldl_cons, ih]
      rfl

theorem blocks_foldl_addFluidSpec (specs : List FluidSpec) (r : Registry) :
    (specs.foldl addFluidSpec r).blocks = r.blocks := by
  induction specs generalizing r with
  | nil => rfl
  | cons spec rest ih =>
      rw [List.foldl_cons, ih]
      rfl

theorem toList_fluids_foldl_addFluidSpec (specs : List FluidSpec) (r : Registry) :
    (specs.foldl addFluidSpec r).fluids.toList =
      r.fluids.toList ++ specs.map fun spec => ⟨spec.name, spec.resistance⟩ := by
  induction specs generalizing r with
  | nil => simp
  | cons spec rest ih =>
      rw [List.foldl_cons, ih]
      simp [addFluidSpec, addFluid]

theorem FindsLast.foldl_addSpec {r : Registry} (h : r.FindsLast) (specs : List BlockSpec) :
    (specs.foldl addSpec r).FindsLast :=
  List.foldlRecOn specs addSpec h fun _ hr _ _ => hr.add _

theorem FindsLast.foldl_addFluidSpec {r : Registry} (h : r.FindsLast) (specs : List FluidSpec) :
    (specs.foldl addFluidSpec r).FindsLast :=
  List.foldlRecOn specs addFluidSpec h fun _ hr _ _ => hr

/-- The registry of a palette, if it has one. -/
def filled (palette : Palette) : Registry :=
  palette.fluids.foldl addFluidSpec (palette.blocks.foldl addSpec empty)

variable (palette : Palette)

theorem toList_blocks_filled : (filled palette).blocks.toList =
    .air :: (palette.blocks.zipIdx 1).map fun entry => entry.1.toType ⟨entry.2⟩ := by
  rw [filled, blocks_foldl_addFluidSpec, toList_blocks_foldl_addSpec]
  rfl

theorem toList_fluids_filled : (filled palette).fluids.toList =
    ⟨"empty", 0.0⟩ :: palette.fluids.map fun spec => ⟨spec.name, spec.resistance⟩ := by
  rw [filled, toList_fluids_foldl_addFluidSpec, fluids_foldl_addSpec]
  rfl

theorem findsLast_filled : (filled palette).FindsLast :=
  (findsLast_empty.foldl_addSpec palette.blocks).foldl_addFluidSpec palette.fluids

theorem bears_filled_iff {id : BlockId} {name : String} :
    (filled palette).Bears id name ↔
      ("air" :: palette.blocks.map BlockSpec.name)[id.index]? = some name := by
  have hnames : (filled palette).blocks.toList.map (fun block => block.name) =
      "air" :: palette.blocks.map BlockSpec.name := by
    rw [toList_blocks_filled, List.map_cons, List.map_map]
    congr 1
    rw [← List.zipIdx_map_fst 1 palette.blocks, List.map_map]
    simp [Function.comp_def, BlockSpec.toType]
  rw [← hnames, List.getElem?_map, Option.map_eq_some_iff, Array.getElem?_toList]
  rfl

theorem bearsFluid_filled_iff {id : FluidId} {name : String} :
    (filled palette).BearsFluid id name ↔
      ("empty" :: palette.fluids.map FluidSpec.name)[id.index]? = some name := by
  have hnames : (filled palette).fluids.toList.map FluidType.name =
      "empty" :: palette.fluids.map FluidSpec.name := by
    rw [toList_fluids_filled, List.map_cons, List.map_map]
    rfl
  rw [← hnames, List.getElem?_map, Option.map_eq_some_iff, Array.getElem?_toList]
  rfl

end Registry

/-! ## Palettes that can be loaded -/

/-- Whether a palette can be loaded. Number zero and its name are taken from the start. -/
structure Palette.IsWellFormed (palette : Palette) : Prop where
  blocks : (palette.blocks.map BlockSpec.name).Nodup
  notAir : ∀ spec ∈ palette.blocks, spec.name ≠ "air"
  fluids : (palette.fluids.map FluidSpec.name).Nodup
  notEmpty : ∀ spec ∈ palette.fluids, spec.name ≠ "empty"
  blockResistance : ∀ spec ∈ palette.blocks,
    spec.resistance.isNaN = false ∧ ¬ spec.resistance < 0.0
  fluidResistance : ∀ spec ∈ palette.fluids,
    spec.resistance.isNaN = false ∧ ¬ spec.resistance < 0.0
  fewBlocks : palette.blocks.length ≤ 65535
  fewFluids : palette.fluids.length ≤ 255

theorem validResistance_iff {x : Float32} :
    validResistance x = true ↔ x.isNaN = false ∧ ¬ x < 0.0 := by
  simp [validResistance]

namespace Registry

theorem taken_empty_iff (name : String) :
    blockIntake.taken empty name = false ↔ name ≠ "air" := by
  show (empty.byName? name).isSome = false ↔ name ≠ "air"
  rw [byName?_empty, ne_comm]
  by_cases hair : "air" = name <;> simp [hair]

theorem taken_fluids_iff {r : Registry} (h : r.fluids = empty.fluids) (name : String) :
    fluidIntake.taken r name = false ↔ name ≠ "empty" := by
  show (r.fluidByName? name).isSome = false ↔ name ≠ "empty"
  rw [isSome_fluidByName?, h, ne_comm]
  simp [empty]

theorem room_fluids {r : Registry} (h : r.fluids = empty.fluids) : fluidIntake.room r = 255 := by
  show maxFluids - r.fluids.size = 255
  rw [h]
  rfl

theorem ofPalette_eq_ok_iff_accepts {palette : Palette} {r : Registry} :
    ofPalette palette = .ok r ↔
      blockIntake.Accepts empty palette.blocks ∧
        fluidIntake.Accepts (palette.blocks.foldl addSpec empty) palette.fluids ∧
        filled palette = r := by
  rw [ofPalette]
  constructor
  · intro h
    obtain ⟨r₁, hblocks, hfluids⟩ := exists_of_bind_eq_ok h
    obtain ⟨haccepts, rfl⟩ := blockIntake.foldlM_eq_ok_iff.mp hblocks
    exact ⟨haccepts, fluidIntake.foldlM_eq_ok_iff.mp hfluids⟩
  · rintro ⟨hblocks, hfluids⟩
    rw [blockIntake.foldlM_eq_ok_iff.mpr ⟨hblocks, rfl⟩]
    exact fluidIntake.foldlM_eq_ok_iff.mpr hfluids

/-- Loading a palette comes down to whether it is well-formed. -/
theorem ofPalette_eq_ok_iff {palette : Palette} {r : Registry} :
    ofPalette palette = .ok r ↔ palette.IsWellFormed ∧ filled palette = r := by
  -- no block that is loaded gets in the way of a fluid
  have hfluids := fluids_foldl_addSpec palette.blocks empty
  rw [ofPalette_eq_ok_iff_accepts, blockIntake.accepts_iff taken_empty_iff,
    fluidIntake.accepts_iff (taken_fluids_iff hfluids), room_fluids hfluids]
  simp only [blockIntake, fluidIntake, validResistance_iff]
  constructor
  · rintro ⟨⟨hnodup, hair, hvalid, hfew⟩, ⟨hnodup', hempty, hvalid', hfew'⟩, hr⟩
    exact ⟨⟨hnodup, hair, hnodup', hempty, hvalid, hvalid', hfew, hfew'⟩, hr⟩
  · rintro ⟨⟨hnodup, hair, hnodup', hempty, hvalid, hvalid', hfew, hfew'⟩, hr⟩
    exact ⟨⟨hnodup, hair, hvalid, hfew⟩, ⟨hnodup', hempty, hvalid', hfew'⟩, hr⟩

/-- The blocks of a palette react in ways that are built in. -/
theorem usesBuiltin_of_ofPalette {palette : Palette} {r : Registry}
    (h : ofPalette palette = .ok r) : r.UsesBuiltin := by
  obtain ⟨-, rfl⟩ := ofPalette_eq_ok_iff.mp h
  intro block hblock
  rw [← Array.mem_toList_iff, toList_blocks_filled] at hblock
  rcases List.mem_cons.mp hblock with rfl | hloaded
  · rfl
  · obtain ⟨⟨spec, n⟩, -, rfl⟩ := List.mem_map.mp hloaded
    show spec.handler.handler.isBuiltin = true
    cases spec.handler <;> rfl

/-- A file is loaded as the palette that it describes. -/
theorem exists_palette_of_ofText {text : String} {r : Registry} (h : ofText text = .ok r) :
    ∃ palette, Palette.ofText? text = some palette ∧ ofPalette palette = .ok r := by
  unfold ofText at h
  split at h
  · cases h
  · next palette htext => exact ⟨palette, htext, mapError_eq_ok_iff.mp h⟩

theorem usesBuiltin_of_ofText {text : String} {r : Registry} (h : ofText text = .ok r) :
    r.UsesBuiltin := by
  obtain ⟨palette, -, hpalette⟩ := exists_palette_of_ofText h
  exact usesBuiltin_of_ofPalette hpalette

end Registry

/-! ## Faithful loading -/

/-- Whether a block is as its table says, under the number of its place. -/
structure BlockSpec.Describes (spec : BlockSpec) (id : BlockId) (block : BlockType) : Prop where
  name : block.name = spec.name
  resistance : block.resistance = spec.resistance
  notAir : block.isAir = false
  solidRender : block.solidRender = spec.solid
  collision : block.collision = spec.collision
  /-- A block that drops something drops the item of its own number. -/
  dropItem : block.dropItem = if spec.drops then some ⟨id.index⟩ else none
  dropMaxStack : block.dropMaxStack = spec.maxStack
  handler : block.handler = spec.handler.handler

/-- A registry that holds what a palette lists, in its order, and nothing else but air and no
fluid. -/
structure Palette.IsLoaded (palette : Palette) (r : Registry) : Prop where
  blocks : r.size = palette.blocks.length + 1
  fluids : r.fluids.size = palette.fluids.length + 1
  air : r.get? .air = some .air
  empty : r.fluid? .empty = some ⟨"empty", 0.0⟩
  block : ∀ i spec, palette.blocks[i]? = some spec →
    ∃ block, r.get? ⟨i + 1⟩ = some block ∧ spec.Describes ⟨i + 1⟩ block
  fluid : ∀ i spec, palette.fluids[i]? = some spec →
    r.fluid? ⟨i + 1⟩ = some ⟨spec.name, spec.resistance⟩
  byName? : ∀ name id, r.byName? name = some id ↔ name = "air" ∧ id = .air ∨
    ∃ i spec, palette.blocks[i]? = some spec ∧ spec.name = name ∧ id = ⟨i + 1⟩
  fluidByName? : ∀ name id, r.fluidByName? name = some id ↔ name = "empty" ∧ id = .empty ∨
    ∃ i spec, palette.fluids[i]? = some spec ∧ spec.name = name ∧ id = ⟨i + 1⟩

theorem index_eq_of_nodup {names : List String} (hnodup : names.Nodup) {i j : Nat} {name : String}
    (hi : names[i]? = some name) (hj : names[j]? = some name) : i = j :=
  (List.getElem?_inj (List.getElem?_eq_some_iff.mp hi).choose hnodup).mp (hi.trans hj.symm)

section

variable {α : Type} {f : α → String} {xs : List α} {first : String}

theorem nodup_cons_map (hnodup : (xs.map f).Nodup) (hfirst : ∀ x ∈ xs, f x ≠ first) :
    (first :: xs.map f).Nodup := by
  rw [List.nodup_cons]
  refine ⟨?_, hnodup⟩
  intro hmem
  obtain ⟨x, hx, hsame⟩ := List.mem_map.mp hmem
  exact hfirst x hx hsame

theorem getElem?_cons_map_iff {name : String} {n : Nat} :
    (first :: xs.map f)[n]? = some name ↔ name = first ∧ n = 0 ∨
      ∃ i x, xs[i]? = some x ∧ f x = name ∧ n = i + 1 := by
  cases n with
  | zero => simp [eq_comm]
  | succ n => simp [Option.map_eq_some_iff]

end

namespace Registry

/-- Where no two blocks share a name, a name leads to the block that bears it. -/
theorem FindsLast.byName?_iff {r : Registry} (h : r.FindsLast) {names : List String}
    (hbears : ∀ id name, r.Bears id name ↔ names[id.index]? = some name) (hnodup : names.Nodup)
    {name : String} {id : BlockId} : r.byName? name = some id ↔ r.Bears id name := by
  rw [h name id, and_iff_left_of_imp]
  intro hid later hlater hother
  exact hlater.ne (index_eq_of_nodup hnodup ((hbears _ _).mp hid) ((hbears _ _).mp hother))

theorem FindsFirst.fluidByName?_iff {r : Registry} (h : r.FindsFirst) {names : List String}
    (hbears : ∀ id name, r.BearsFluid id name ↔ names[id.index]? = some name)
    (hnodup : names.Nodup) {name : String} {id : FluidId} :
    r.fluidByName? name = some id ↔ r.BearsFluid id name := by
  rw [h name id, and_iff_left_of_imp]
  intro hid earlier hearlier hother
  exact hearlier.ne' (index_eq_of_nodup hnodup ((hbears _ _).mp hid) ((hbears _ _).mp hother))

theorem isLoaded_filled {palette : Palette} (h : palette.IsWellFormed) :
    palette.IsLoaded (filled palette) where
  blocks := by
    rw [size, ← Array.length_toList, toList_blocks_filled]
    simp
  fluids := by
    rw [← Array.length_toList, toList_fluids_filled]
    simp
  air := get?_air _
  empty := by
    rw [fluid?, ← Array.getElem?_toList, toList_fluids_filled]
    rfl
  block := by
    intro i spec hspec
    refine ⟨spec.toType ⟨i + 1⟩, ?_, ⟨rfl, rfl, rfl, rfl, rfl, rfl, rfl, rfl⟩⟩
    rw [get?, ← Array.getElem?_toList, toList_blocks_filled]
    simp [hspec, Nat.add_comm]
  fluid := by
    intro i spec hspec
    rw [fluid?, ← Array.getElem?_toList, toList_fluids_filled]
    simp [hspec]
  byName? := by
    intro name id
    rw [(findsLast_filled palette).byName?_iff (fun _ _ => bears_filled_iff palette)
      (nodup_cons_map h.blocks h.notAir), bears_filled_iff, getElem?_cons_map_iff]
    obtain ⟨n⟩ := id
    simp only [BlockId.air, BlockId.mk.injEq]
  fluidByName? := by
    intro name id
    rw [(filled palette).findsFirst.fluidByName?_iff (fun _ _ => bearsFluid_filled_iff palette)
      (nodup_cons_map h.fluids h.notEmpty), bearsFluid_filled_iff, getElem?_cons_map_iff]
    obtain ⟨n⟩ := id
    simp only [FluidId.empty, FluidId.mk.injEq]

end Registry

/-- What loading a palette comes to, from the palette itself or from a file that describes it. -/
structure Palette.LoadsFaithfully (palette : Palette) : Prop where
  ok_iff : (∃ r, Registry.ofPalette palette = .ok r) ↔ palette.IsWellFormed
  loaded : ∀ r, Registry.ofPalette palette = .ok r → palette.IsLoaded r
  refused : ¬ palette.IsWellFormed → ∃ fault, Registry.ofPalette palette = .error fault
  ofText_ok : ∀ text, Palette.ofText? text = some palette → ∀ r,
    Registry.ofText text = .ok r ↔ Registry.ofPalette palette = .ok r
  ofText_error : ∀ text, Palette.ofText? text = some palette → ∀ failure,
    Registry.ofText text = .error failure ↔
      ∃ fault, Registry.ofPalette palette = .error fault ∧ .invalidPalette fault = failure

/-- **A palette is loaded if it is well-formed**, and then as it is written. -/
theorem Palette.loadsFaithfully (palette : Palette) : palette.LoadsFaithfully where
  ok_iff := by
    constructor
    · rintro ⟨r, hr⟩
      exact (Registry.ofPalette_eq_ok_iff.mp hr).1
    · intro h
      exact ⟨_, Registry.ofPalette_eq_ok_iff.mpr ⟨h, rfl⟩⟩
  loaded := by
    intro r hr
    obtain ⟨h, rfl⟩ := Registry.ofPalette_eq_ok_iff.mp hr
    exact Registry.isLoaded_filled h
  refused := by
    intro h
    cases hload : Registry.ofPalette palette with
    | error fault => exact ⟨fault, rfl⟩
    | ok r => exact absurd (Registry.ofPalette_eq_ok_iff.mp hload).1 h
  ofText_ok := by
    intro text htext r
    rw [Registry.ofText, htext]
    exact mapError_eq_ok_iff
  ofText_error := by
    intro text htext failure
    rw [Registry.ofText, htext]
    exact mapError_eq_error_iff

end Crater
