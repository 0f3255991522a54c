import Mathlib.Data.List.Nodup
import Mathlib.Data.Nat.Basic
import Mathlib.Order.Basic
import Crater.Block.Registry

/-!
# Registrations

A registry keeps its blocks and its fluids in the order in which they came, and a map from
names to blocks beside them. Whatever is registered in whichever order, numbers are given
one after the other, what has a number keeps it, and a name leads to the last block that
bears it and to the first fluid. A registration fails only where numbers have run out, and
then nothing happens.
-/

namespace Crater

namespace Registry

variable (r : Registry)

/-! ## What one registration does -/

theorem isEmptyVoxel_air : r.isEmptyVoxel .air = true := by
  rw [isEmptyVoxel, show Voxel.air.block.block = .air from rfl, block_air]
  rfl

theorem get?_air : r.get? .air = some .air := r.air_first

theorem get?_add (block : BlockType) (id : BlockId) :
    (r.add block).get? id = if id.index = r.size then some block else r.get? id :=
  Array.getElem?_push

theorem byName?_add (block : BlockType) (name : String) :
    (r.add block).byName? name = if block.name = name then some ⟨r.size⟩ else r.byName? name := by
  simp [byName?, add, size, Std.HashMap.getElem?_insert]

theorem get?_eq_none_iff {id : BlockId} : r.get? id = none ↔ r.size ≤ id.index :=
  Array.getElem?_eq_none_iff

theorem register_of_lt {r : Registry} (h : r.size < maxBlocks) (block : BlockType) :
    r.register block = (.ok ⟨r.size⟩, r.add block) := by
  rw [register, nextId, if_pos (show r.blocks.size < maxBlocks from h)]
  rfl

theorem register_of_le {r : Registry} (h : maxBlocks ≤ r.size) (block : BlockType) :
    r.register block = (.error (.blocksFull r.size), r) := by
  rw [register, nextId, if_neg (show ¬ r.blocks.size < maxBlocks from not_lt.mpr h)]
  rfl

theorem registerFluid_of_lt {r : Registry} (h : r.fluids.size < maxFluids) (fluid : FluidType) :
    r.registerFluid fluid = (.ok ⟨r.fluids.size⟩, r.addFluid fluid) := by
  rw [registerFluid, nextFluidId, if_pos h]

theorem registerFluid_of_le {r : Registry} (h : maxFluids ≤ r.fluids.size) (fluid : FluidType) :
    r.registerFluid fluid = (.error (.fluidsFull r.fluids.size), r) := by
  rw [registerFluid, nextFluidId, if_neg (not_lt.mpr h)]

variable {r}

/-- A number that is given stands for what was registered. -/
theorem get?_of_register {block : BlockType} {id : BlockId}
    (h : (r.register block).1 = .ok id) : (r.register block).2.get? id = some block := by
  rcases Nat.lt_or_ge r.size maxBlocks with hroom | hfull
  · rw [register_of_lt hroom] at h ⊢
    cases h
    rw [get?_add, if_pos rfl]
  · rw [register_of_le hfull] at h
    cases h

theorem fluid?_of_registerFluid {fluid : FluidType} {id : FluidId}
    (h : (r.registerFluid fluid).1 = .ok id) :
    (r.registerFluid fluid).2.fluid? id = some fluid := by
  rcases Nat.lt_or_ge r.fluids.size maxFluids with hroom | hfull
  · rw [registerFluid_of_lt hroom] at h ⊢
    cases h
    exact Array.getElem?_push_size
  · rw [registerFluid_of_le hfull] at h
    cases h

/-- Registering fails if all numbers are taken, and then it changes nothing. -/
theorem register_error_iff {block : BlockType} :
    (∃ fault, (r.register block).1 = .error fault) ↔ maxBlocks ≤ r.size := by
  rcases Nat.lt_or_ge r.size maxBlocks with hroom | hfull
  · rw [register_of_lt hroom]
    simp [hroom]
  · rw [register_of_le hfull]
    simp [hfull]

theorem registerFluid_error_iff {fluid : FluidType} :
    (∃ fault, (r.registerFluid fluid).1 = .error fault) ↔ maxFluids ≤ r.fluids.size := by
  rcases Nat.lt_or_ge r.fluids.size maxFluids with hroom | hfull
  · rw [registerFluid_of_lt hroom]
    simp [hroom]
  · rw [registerFluid_of_le hfull]
    simp [hfull]

theorem eq_of_register_error {block : BlockType} {fault : PaletteFault}
    (h : (r.register block).1 = .error fault) : (r.register block).2 = r := by
  rw [register_of_le (register_error_iff.mp ⟨fault, h⟩)]

theorem eq_of_registerFluid_error {fluid : FluidType} {fault : PaletteFault}
    (h : (r.registerFluid fluid).1 = .error fault) : (r.registerFluid fluid).2 = r := by
  rw [registerFluid_of_le (registerFluid_error_iff.mp ⟨fault, h⟩)]

/-! ## Names -/

variable (r)

/-- Whether a number stands for a block of some name. -/
def Bears (id : BlockId) (name : String) : Prop :=
  ∃ block, r.get? id = some block ∧ block.name = name

def BearsFluid (id : FluidId) (name : String) : Prop :=
  ∃ fluid, r.fluid? id = some fluid ∧ fluid.name = name

/-- Whether names lead to the last blocks that bear them. -/
def FindsLast : Prop :=
  ∀ name id, r.byName? name = some id ↔
    r.Bears id name ∧ ∀ later : BlockId, id.index < later.index → ¬ r.Bears later name

def FindsFirst : Prop :=
  ∀ name id, r.fluidByName? name = some id ↔
    r.BearsFluid id name ∧ ∀ earlier : FluidId, earlier.index < id.index →
      ¬ r.BearsFluid earlier name

variable {r}

theorem Bears.lt_size {id : BlockId} {name : String} (h : r.Bears id name) : id.index < r.size := by
  obtain ⟨block, hblock, -⟩ := h
  by_contra hle
  rw [r.get?_eq_none_iff.mpr (not_lt.mp hle)] at hblock
  cases hblock

theorem bears_add_iff {block : BlockType} {id : BlockId} {name : String} :
    (r.add block).Bears id name ↔ id.index = r.size ∧ block.name = name ∨ r.Bears id name := by
  unfold Bears
  rw [get?_add]
  by_cases hid : id.index = r.size
  · have hnone : r.get? id = none := r.get?_eq_none_iff.mpr hid.ge
    simp [hid, hnone]
  · simp [hid]

theorem bears_empty_iff {id : BlockId} {name : String} :
    empty.Bears id name ↔ id = .air ∧ name = "air" := by
  constructor
  · intro h
    have hzero : id = .air := by
      have hlt : id.index < 1 := h.lt_size
      obtain ⟨i⟩ := id
      exact congrArg BlockId.mk (Nat.lt_one_iff.mp hlt)
    obtain ⟨block, hblock, rfl⟩ := h
    rw [hzero, get?_air] at hblock
    cases hblock
    exact ⟨hzero, rfl⟩
  · rintro ⟨rfl, rfl⟩
    exact ⟨.air, get?_air _, rfl⟩

theorem byName?_empty (name : String) :
    empty.byName? name = if "air" = name then some .air else none := by
  simp [byName?, empty, Std.HashMap.getElem?_insert]

theorem findsLast_empty : empty.FindsLast := by
  intro name id
  rw [byName?_empty, bears_empty_iff]
  constructor
  · intro h
    split at h
    · next hair =>
      cases h
      refine ⟨⟨rfl, hair.symm⟩, ?_⟩
      intro later hlater hbears
      rw [(bears_empty_iff.mp hbears).1] at hlater
      exact absurd hlater (lt_irrefl _)
    · cases h
  · rintro ⟨⟨rfl, rfl⟩, -⟩
    rfl

/-- A block that is added takes over its name, and no other. -/
theorem FindsLast.add (h : r.FindsLast) (block : BlockType) : (r.add block).FindsLast := by
  intro name id
  rw [byName?_add]
  by_cases hname : block.name = name
  · rw [if_pos hname]
    constructor
    · intro heq
      cases heq
      refine ⟨bears_add_iff.mpr (.inl ⟨rfl, hname⟩), ?_⟩
      intro later hlater hbears
      rcases bears_add_iff.mp hbears with ⟨hlast, -⟩ | hold
      · exact absurd hlast hlater.ne'
      · exact absurd hold.lt_size (not_lt.mpr hlater.le)
    · rintro ⟨hbears, hlast⟩
      rcases bears_add_iff.mp hbears with ⟨hid, -⟩ | hold
      · rw [← hid]
      · exact absurd (bears_add_iff.mpr (.inl ⟨rfl, hname⟩)) (hlast ⟨r.size⟩ hold.lt_size)
  · have hbears : ∀ id, (r.add block).Bears id name ↔ r.Bears id name := by
      intro id
      rw [bears_add_iff, or_iff_right]
      exact fun hnew => hname hnew.2
    rw [if_neg hname, h name id, hbears]
    simp only [hbears]

theorem bearsFluid_iff {id : FluidId} {name : String} :
    r.BearsFluid id name ↔
      ∃ h : id.index < r.fluids.size, (r.fluids[id.index].name == name) = true := by
  constructor
  · rintro ⟨fluid, hfluid, rfl⟩
    obtain ⟨hlt, hget⟩ := Array.getElem?_eq_some_iff.mp hfluid
    exact ⟨hlt, by rw [hget, beq_self_eq_true]⟩
  · rintro ⟨hlt, hname⟩
    exact ⟨_, Array.getElem?_eq_getElem hlt, eq_of_beq hname⟩

theorem findsFirst (r : Registry) : r.FindsFirst := by
  intro name id
  have hindex : r.fluidByName? name = some id ↔
      r.fluids.findIdx? (·.name == name) = some id.index := by
    rw [fluidByName?, Option.map_eq_some_iff]
    constructor
    · rintro ⟨i, hi, rfl⟩
      exact hi
    · intro hi
      exact ⟨id.index, hi, rfl⟩
  rw [hindex, Array.findIdx?_eq_some_iff_getElem, bearsFluid_iff]
  constructor
  · rintro ⟨hlt, hname, hfirst⟩
    refine ⟨⟨hlt, hname⟩, ?_⟩
    intro earlier hearlier hbefore
    obtain ⟨_, hsame⟩ := bearsFluid_iff.mp hbefore
    exact hfirst earlier.index hearlier hsame
  · rintro ⟨⟨hlt, hname⟩, hfirst⟩
    refine ⟨hlt, hname, ?_⟩
    intro j hj hsame
    exact hfirst ⟨j⟩ hj (bearsFluid_iff.mpr ⟨hj.trans hlt, hsame⟩)

end Registry

/-! ## Sequences of registrations -/

/-- A call that adds a kind of block or of fluid. -/
inductive Registration where
  | block (b : BlockType)
  | fluid (f : FluidType)

def Registration.block? : Registration → Option BlockType
  | block b => some b
  | fluid _ => none

def Registration.fluid? : Registration → Option FluidType
  | block _ => none
  | fluid f => some f

/-- What a call is answered: the number that it gives, or why there is none. -/
inductive Ticket where
  | block (answer : Except PaletteFault BlockId)
  | fluid (answer : Except PaletteFault FluidId)

def Ticket.blockNumber? : Ticket → Option Nat
  | block (.ok id) => some id.index
  | _ => none

def Ticket.fluidNumber? : Ticket → Option Nat
  | fluid (.ok id) => some id.index
  | _ => none

namespace Registry

def enroll (r : Registry) : Registration → Ticket × Registry
  | .block b => (.block (r.register b).1, (r.register b).2)
  | .fluid f => (.fluid (r.registerFluid f).1, (r.registerFluid f).2)

def enrollAll (r : Registry) : List Registration → List Ticket × Registry
  | [] => ([], r)
  | call :: rest =>
    let (ticket, r) := r.enroll call
    let (tickets, r) := r.enrollAll rest
    (ticket :: tickets, r)

theorem FindsLast.enroll {r : Registry} (h : r.FindsLast) (call : Registration) :
    (r.enroll call).2.FindsLast := by
  cases call with
  | block b =>
      show (r.register b).2.FindsLast
      rcases Nat.lt_or_ge r.size maxBlocks with hroom | hfull
      · rw [register_of_lt hroom]
        exact h.add b
      · rwa [register_of_le hfull]
  | fluid f =>
      show (r.registerFluid f).2.FindsLast
      rcases Nat.lt_or_ge r.fluids.size maxFluids with hroom | hfull
      · rw [registerFluid_of_lt hroom]
        exact h
      · rwa [registerFluid_of_le hfull]

theorem FindsLast.enrollAll {r : Registry} (h : r.FindsLast) (calls : List Registration) :
    (r.enrollAll calls).2.FindsLast := by
  induction calls generalizing r with
  | nil => exact h
  | cons call rest ih => exact ih (h.enroll call)

end Registry

/-- One of the two lists of a registry, and what calls do to it: what a call brings is put at the
end and gets its place for a number, unless the list is full. -/
structure Shelf (α : Type) where
  items : Registry → List α
  limit : Nat
  item? : Registration → Option α
  number? : Ticket → Option Nat
  skips : ∀ r call, item? call = none →
    number? (r.enroll call).1 = none ∧ items (r.enroll call).2 = items r
  grants : ∀ r call a, item? call = some a → (items r).length < limit →
    number? (r.enroll call).1 = some (items r).length ∧ items (r.enroll call).2 = items r ++ [a]
  refuses : ∀ r call a, item? call = some a → limit ≤ (items r).length →
    number? (r.enroll call).1 = none ∧ items (r.enroll call).2 = items r

def blockShelf : Shelf BlockType where
  items r := r.blocks.toList
  limit := Registry.maxBlocks
  item? := Registration.block?
  number? := Ticket.blockNumber?
  skips := by
    intro r call hcall
    cases call with
    | block b => cases hcall
    | fluid f =>
        simp only [Registry.enroll, Registry.registerFluid]
        split <;> exact ⟨rfl, rfl⟩
  grants := by
    intro r call b hcall hroom
    cases call with
    | block b' =>
        cases hcall
        rw [Registry.enroll, Registry.register_of_lt hroom]
        exact ⟨rfl, Array.toList_push⟩
    | fluid f => cases hcall
  refuses := by
    intro r call b hcall hfull
    cases call with
    | block b' =>
        cases hcall
        rw [Registry.enroll, Registry.register_of_le hfull]
        exact ⟨rfl, rfl⟩
    | fluid f => cases hcall

def fluidShelf : Shelf FluidType where
  items r := r.fluids.toList
  limit := Registry.maxFluids
  item? := Registration.fluid?
  number? := Ticket.fluidNumber?
  skips := by
    intro r call hcall
    cases call with
    | fluid f => cases hcall
    | block b =>
        simp only [Registry.enroll, Registry.register]
        split <;> exact ⟨rfl, rfl⟩
  grants := by
    intro r call f hcall hroom
    cases call with
    | fluid f' =>
        cases hcall
        rw [Registry.enroll, Registry.registerFluid_of_lt hroom]
        exact ⟨rfl, Array.toList_push⟩
    | block b => cases hcall
  refuses := by
    intro r call f hcall hfull
    cases call with
    | fluid f' =>
        cases hcall
        rw [Registry.enroll, Registry.registerFluid_of_le hfull]
        exact ⟨rfl, rfl⟩
    | block b => cases hcall

namespace Shelf

variable {α : Type} (shelf : Shelf α) (r : Registry)

/-- What the calls bring is put on the shelf until it is full, and gets its places for numbers. -/
theorem enrollAll_eq (calls : List Registration) :
    shelf.items (r.enrollAll calls).2 = shelf.items r ++
        (calls.filterMap shelf.item?).take (shelf.limit - (shelf.items r).length) ∧
      (r.enrollAll calls).1.filterMap shelf.number? =
        List.range' (shelf.items r).length
          ((calls.filterMap shelf.item?).take (shelf.limit - (shelf.items r).length)).length := by
  induction calls generalizing r with
  | nil => simp [Registry.enrollAll]
  | cons call rest ih =>
      obtain ⟨hitems, hnumbers⟩ := ih (r.enroll call).2
      simp only [Registry.enrollAll]
      cases hitem : shelf.item? call with
      | none =>
          obtain ⟨hnumber, hsame⟩ := shelf.skips r call hitem
          rw [hsame] at hitems hnumbers
          rw [List.filterMap_cons_none hitem, List.filterMap_cons_none hnumber]
          exact ⟨hitems, hnumbers⟩
      | some a =>
          rw [List.filterMap_cons_some hitem]
          rcases Nat.lt_or_ge (shelf.items r).length shelf.limit with hroom | hfull
          · obtain ⟨hnumber, hput⟩ := shelf.grants r call a hitem hroom
            obtain ⟨left, hleft⟩ : ∃ left, shelf.limit = (shelf.items r).length + 1 + left :=
              ⟨_, (Nat.add_sub_of_le hroom).symm⟩
            have hbefore : shelf.limit - (shelf.items r).length = left + 1 := by omega
            have hafter : shelf.limit - ((shelf.items r).length + 1) = left := by omega
            rw [hput, List.length_append, List.length_singleton, hafter] at hitems hnumbers
            rw [hbefore, List.take_succ_cons, List.filterMap_cons_some hnumber]
            constructor
            · rw [hitems, List.append_assoc, List.singleton_append]
            · rw [hnumbers, List.length_cons, List.range'_succ]
          · obtain ⟨hnumber, hsame⟩ := shelf.refuses r call a hitem hfull
            rw [hsame] at hitems hnumbers
            rw [List.filterMap_cons_none hnumber]
            rw [Nat.sub_eq_zero_of_le hfull] at hitems hnumbers ⊢
            exact ⟨hitems, hnumbers⟩

theorem length_le_limit {r : Registry} (h : (shelf.items r).length ≤ shelf.limit)
    (calls : List Registration) : (shelf.items (r.enrollAll calls).2).length ≤ shelf.limit := by
  rw [(shelf.enrollAll_eq r calls).1, List.length_append, List.length_take]
  omega

/-- What is on a shelf stays in its place. -/
theorem getElem?_enrollAll {r : Registry} {i : Nat} {a : α} (h : (shelf.items r)[i]? = some a)
    (calls : List Registration) : (shelf.items (r.enrollAll calls).2)[i]? = some a := by
  obtain ⟨hlt, -⟩ := List.getElem?_eq_some_iff.mp h
  rwa [(shelf.enrollAll_eq r calls).1, List.getElem?_append_left hlt]

/-- A shelf that starts with one item. -/
theorem enrollAll_of_items_eq {r : Registry} {a : α} (h : shelf.items r = [a])
    (calls : List Registration) :
    shelf.items (r.enrollAll calls).2 =
        a :: (calls.filterMap shelf.item?).take (shelf.limit - 1) ∧
      (r.enrollAll calls).1.filterMap shelf.number? =
        List.range' 1 ((shelf.items (r.enrollAll calls).2).length - 1) := by
  obtain ⟨hitems, hnumbers⟩ := shelf.enrollAll_eq r calls
  rw [h, List.length_singleton] at hitems hnumbers
  rw [List.singleton_append] at hitems
  rw [hitems, hnumbers, List.length_cons, Nat.add_sub_cancel]
  exact ⟨rfl, rfl⟩

end Shelf

namespace Registry

/-- What a registry is like after some calls to an empty one, and what the next call will do. -/
structure Enrolled (calls : List Registration) (tickets : List Ticket) (r : Registry) : Prop where
  /-- Numbers are given one after the other, from one upward. -/
  blockNumbers : tickets.filterMap Ticket.blockNumber? = List.range' 1 (r.size - 1)
  fluidNumbers : tickets.filterMap Ticket.fluidNumber? = List.range' 1 (r.fluids.size - 1)
  /-- Number zero is taken from the start. What the calls bring comes after it, in their order and
  as far as there are numbers. -/
  get? : ∀ id, r.get? id =
    (.air :: (calls.filterMap Registration.block?).take 65535)[id.index]?
  fluid? : ∀ id, r.fluid? id =
    (⟨"empty", 0.0⟩ :: (calls.filterMap Registration.fluid?).take 255)[id.index]?
  unknownBlock : ∀ id, r.get? id = none ↔ r.size ≤ id.index
  unknownFluid : ∀ id, r.fluid? id = none ↔ r.fluids.size ≤ id.index
  findsLast : r.FindsLast
  findsFirst : r.FindsFirst
  air : r.get? .air = some .air ∧ r.isEmptyVoxel .air = true
  /-- Whatever is called later, a number keeps what it stands for. -/
  lastingBlock : ∀ more id b, r.get? id = some b → (r.enrollAll more).2.get? id = some b
  lastingFluid : ∀ more id f, r.fluid? id = some f → (r.enrollAll more).2.fluid? id = some f
  /-- A number that is given stands for what was registered. -/
  givenBlock : ∀ b id, (r.register b).1 = .ok id → (r.register b).2.get? id = some b
  givenFluid : ∀ f id, (r.registerFluid f).1 = .ok id → (r.registerFluid f).2.fluid? id = some f
  /-- A call fails if all numbers are taken, and then it leaves the registry as it was. -/
  blocksFull : ∀ b, (∃ fault, (r.register b).1 = .error fault) ↔ r.size = 65536
  fluidsFull : ∀ f, (∃ fault, (r.registerFluid f).1 = .error fault) ↔ r.fluids.size = 256
  refusedBlock : ∀ b fault, (r.register b).1 = .error fault → (r.register b).2 = r
  refusedFluid : ∀ f fault, (r.registerFluid f).1 = .error fault → (r.registerFluid f).2 = r

/-- **Every history of registrations** leaves a registry whose lists and names agree. -/
theorem enrolled_enrollAll (calls : List Registration) :
    Enrolled calls (empty.enrollAll calls).1 (empty.enrollAll calls).2 := by
  obtain ⟨hblocks, hblockNumbers⟩ := blockShelf.enrollAll_of_items_eq (r := empty) rfl calls
  obtain ⟨hfluids, hfluidNumbers⟩ := fluidShelf.enrollAll_of_items_eq (r := empty) rfl calls
  have hlast : (empty.enrollAll calls).2.FindsLast := findsLast_empty.enrollAll calls
  have hsize : (empty.enrollAll calls).2.size ≤ maxBlocks :=
    blockShelf.length_le_limit (r := empty) (by decide) calls
  have hcount : (empty.enrollAll calls).2.fluids.size ≤ maxFluids :=
    fluidShelf.length_le_limit (r := empty) (by decide) calls
  generalize (empty.enrollAll calls).1 = tickets, (empty.enrollAll calls).2 = r at *
  exact {
    blockNumbers := hblockNumbers
    fluidNumbers := hfluidNumbers
    get? := by
      intro id
      rw [Registry.get?, ← Array.getElem?_toList]
      exact congrArg (·[id.index]?) hblocks
    fluid? := by
      intro id
      rw [Registry.fluid?, ← Array.getElem?_toList]
      exact congrArg (·[id.index]?) hfluids
    unknownBlock := fun _ => r.get?_eq_none_iff
    unknownFluid := fun _ => Array.getElem?_eq_none_iff
    findsLast := hlast
    findsFirst := r.findsFirst
    air := ⟨r.get?_air, r.isEmptyVoxel_air⟩
    lastingBlock := by
      intro more id b hb
      rw [Registry.get?, ← Array.getElem?_toList] at hb ⊢
      exact blockShelf.getElem?_enrollAll hb more
    lastingFluid := by
      intro more id f hf
      rw [Registry.fluid?, ← Array.getElem?_toList] at hf ⊢
      exact fluidShelf.getElem?_enrollAll hf more
    givenBlock := fun _ _ => get?_of_register
    givenFluid := fun _ _ => fluid?_of_registerFluid
    blocksFull := fun _ => register_error_iff.trans ⟨hsize.antisymm, Eq.ge⟩
    fluidsFull := fun _ => registerFluid_error_iff.trans ⟨hcount.antisymm, Eq.ge⟩
    refusedBlock := fun _ _ => eq_of_register_error
    refusedFluid := fun _ _ => eq_of_registerFluid_error }

end Registry

end Crater
