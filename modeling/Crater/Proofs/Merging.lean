import Crater.Proofs.Tally

/-!
# Merging

A pile grows in two ways. A stack that is already there takes items of a new one,
up to the smaller of its own limit and the cap of the pile, and what is left of
the new one becomes one more stack at the end. So no stack is ever removed or
moved, and a stack that holds more than merging could have put on it has not been
touched since it fell.

Stacks are counted in 32-bit words. `gather?` does what `gather` does, with every
sum and every difference checked, and never stops at one.
-/

namespace Crater

/-! ## One stack and another -/

namespace ItemStack

variable {s source : ItemStack} {cap : Nat}

/-- The most items that merging under a cap leaves on a stack. -/
def limit (s : ItemStack) (cap : Nat) : Nat := min s.maxStack cap

/-- Merging under the cap puts nothing more onto the stack. -/
def IsFull (s : ItemStack) (cap : Nat) : Prop := s.limit cap ≤ s.count

def SameKind (s t : ItemStack) : Prop := s.item = t.item ∧ s.tag = t.tag

theorem room_eq : s.room source cap = min (s.limit cap - s.count) source.count := rfl

theorem room_le_count : s.room source cap ≤ source.count := Nat.min_le_right _ _

theorem add_room_le_limit (h : s.room source cap ≠ 0) :
    s.count + s.room source cap ≤ s.limit cap := by
  rw [room_eq] at h ⊢
  omega

theorem isMergeableWith_iff : s.isMergeableWith source = true ↔
    s.SameKind source ∧ s.count < s.maxStack ∧ source.count < source.maxStack ∧
      source.isEmpty = false := by
  simp [isMergeableWith, SameKind, and_assoc]

theorem isFull_of_maxStack_le (cap : Nat) (h : s.maxStack ≤ s.count) : s.IsFull cap :=
  (Nat.min_le_left _ _).trans h

end ItemStack

/-! ## A stack and the entries of a pile -/

namespace DropEntries

variable {cap : Nat} {stack existing : ItemStack} {position : Position} {rest : DropEntries}

theorem absorb_of_isEmpty (h : stack.isEmpty = true) (entries : DropEntries) :
    absorb cap stack entries = (entries, stack) := by
  cases entries with
  | nil => rfl
  | cons e rest => simp [absorb, h]

theorem absorb_cons_of_mergeable (h : existing.isMergeableWith stack = true) :
    absorb cap stack ((existing, position) :: rest) =
      (((existing.mergeFrom stack cap).1, position) ::
        (absorb cap (existing.mergeFrom stack cap).2 rest).1,
        (absorb cap (existing.mergeFrom stack cap).2 rest).2) := by
  have hsome := (ItemStack.isMergeableWith_iff.mp h).2.2.2
  simp [absorb, h, hsome]

theorem absorb_cons_of_not_mergeable (h : existing.isMergeableWith stack = false) :
    absorb cap stack ((existing, position) :: rest) =
      ((existing, position) :: (absorb cap stack rest).1, (absorb cap stack rest).2) := by
  cases hempty : stack.isEmpty with
  | true => rw [absorb_of_isEmpty hempty, absorb_of_isEmpty hempty]
  | false => simp [absorb, h, hempty]

/-- An entry of a pile before and after stacks were merged under a cap. -/
structure Kept (cap : Nat) (e e' : ItemStack × Position) : Prop where
  item : e'.1.item = e.1.item
  tag : e'.1.tag = e.1.tag
  maxStack : e'.1.maxStack = e.1.maxStack
  position : e'.2 = e.2
  le : e.1.count ≤ e'.1.count
  /-- Merging raises no entry above its limit. -/
  within : e.1.count < e'.1.count → e'.1.count ≤ e.1.limit cap

namespace Kept

variable {e e' e'' : ItemStack × Position}

theorem refl (cap : Nat) (e : ItemStack × Position) : Kept cap e e :=
  ⟨rfl, rfl, rfl, rfl, Nat.le_refl _, fun h => absurd h (Nat.lt_irrefl _)⟩

theorem limit_eq (h : Kept cap e e') : e'.1.limit cap = e.1.limit cap := by
  rw [ItemStack.limit, ItemStack.limit, h.maxStack]

theorem trans (h : Kept cap e e') (h' : Kept cap e' e'') : Kept cap e e'' := by
  refine ⟨h'.item.trans h.item, h'.tag.trans h.tag, h'.maxStack.trans h.maxStack,
    h'.position.trans h.position, h.le.trans h'.le, ?_⟩
  intro hlt
  rcases h'.le.lt_or_eq with hlater | hsame
  · rw [← h.limit_eq]
    exact h'.within hlater
  · rw [← hsame] at hlt ⊢
    exact h.within hlt

theorem eq_of_limit_lt (h : Kept cap e e') (hover : e'.1.limit cap < e'.1.count) : e' = e := by
  have hcount : e'.1.count = e.1.count := by
    refine Nat.le_antisymm (not_lt.mp ?_) h.le
    intro hlt
    rw [h.limit_eq] at hover
    exact absurd (h.within hlt) (not_le.mpr hover)
  obtain ⟨⟨item, count, maxStack, tag⟩, p⟩ := e
  obtain ⟨⟨item', count', maxStack', tag'⟩, p'⟩ := e'
  obtain ⟨rfl, rfl, rfl, rfl, -, -⟩ := h
  cases hcount
  rfl

theorem mergeFrom (existing stack : ItemStack) (cap : Nat) (position : Position) :
    Kept cap (existing, position) ((existing.mergeFrom stack cap).1, position) := by
  refine ⟨rfl, rfl, rfl, rfl, Nat.le_add_right _ _, ?_⟩
  intro hlt
  apply ItemStack.add_room_le_limit
  intro hzero
  simp [ItemStack.mergeFrom, hzero] at hlt

end Kept

/-- **Absorbing a stack** keeps all entries, in their order. -/
theorem forall₂_kept_absorb (cap : Nat) (entries : DropEntries) (stack : ItemStack) :
    List.Forall₂ (Kept cap) entries (absorb cap stack entries).1 := by
  induction entries generalizing stack with
  | nil => exact .nil
  | cons e rest ih =>
      obtain ⟨existing, position⟩ := e
      cases h : existing.isMergeableWith stack with
      | true =>
          rw [absorb_cons_of_mergeable h]
          exact .cons (.mergeFrom existing stack cap position) (ih _)
      | false =>
          rw [absorb_cons_of_not_mergeable h]
          exact .cons (.refl cap _) (ih stack)

/-- What is left of a stack differs from it by its count alone, which is no larger. -/
theorem absorb_snd (cap : Nat) (entries : DropEntries) (stack : ItemStack) :
    ∃ left ≤ stack.count, (absorb cap stack entries).2 = { stack with count := left } := by
  induction entries generalizing stack with
  | nil => exact ⟨stack.count, Nat.le_refl _, rfl⟩
  | cons e rest ih =>
      obtain ⟨existing, position⟩ := e
      cases h : existing.isMergeableWith stack with
      | true =>
          obtain ⟨left, hle, hleft⟩ := ih (existing.mergeFrom stack cap).2
          rw [absorb_cons_of_mergeable h]
          exact ⟨left, hle.trans (Nat.sub_le _ _), hleft⟩
      | false =>
          rw [absorb_cons_of_not_mergeable h]
          exact ih stack

theorem count_absorb_le (cap : Nat) (entries : DropEntries) (stack : ItemStack) :
    (absorb cap stack entries).2.count ≤ stack.count := by
  obtain ⟨left, hle, hleft⟩ := absorb_snd cap entries stack
  rwa [hleft]

/-- A stack that has reached its own limit goes onto no other. -/
theorem absorb_of_maxStack_le (h : stack.maxStack ≤ stack.count) (entries : DropEntries) :
    absorb cap stack entries = (entries, stack) := by
  induction entries with
  | nil => rfl
  | cons e rest ih =>
      obtain ⟨existing, position⟩ := e
      have hmerge : existing.isMergeableWith stack = false := by
        rw [Bool.eq_false_iff, Ne, ItemStack.isMergeableWith_iff]
        intro hall
        exact absurd hall.2.2.1 (not_lt.mpr h)
      rw [absorb_cons_of_not_mergeable hmerge, ih]

/-- **What is left of a stack** found no room on the others of its kind. -/
theorem isFull_of_mem_absorb (cap : Nat) (entries : DropEntries) {stack : ItemStack}
    (hroom : stack.count < stack.maxStack) (hleft : (absorb cap stack entries).2.count ≠ 0) :
    ∀ e ∈ (absorb cap stack entries).1, e.1.SameKind stack → e.1.IsFull cap := by
  induction entries generalizing stack with
  | nil =>
      intro e he
      cases he
  | cons e rest ih =>
      obtain ⟨existing, position⟩ := e
      cases h : existing.isMergeableWith stack with
      | true =>
          rw [absorb_cons_of_mergeable h] at hleft ⊢
          dsimp only at hleft ⊢
          have hless : (existing.mergeFrom stack cap).2.count ≤ stack.count := Nat.sub_le _ _
          intro e he hkind
          rcases List.mem_cons.mp he with rfl | he
          · have hsome : (existing.mergeFrom stack cap).2.count ≠ 0 := by
              have hle := count_absorb_le cap rest (existing.mergeFrom stack cap).2
              omega
            simp only [ItemStack.mergeFrom, ItemStack.room_eq] at hsome
            simp only [ItemStack.IsFull, ItemStack.mergeFrom, ItemStack.room_eq]
            change existing.limit cap ≤ _
            omega
          · exact ih (hless.trans_lt hroom) hleft e he hkind
      | false =>
          rw [absorb_cons_of_not_mergeable h] at hleft ⊢
          dsimp only at hleft ⊢
          intro e he hkind
          rcases List.mem_cons.mp he with rfl | he
          · -- of the reasons not to merge, only that the entry has reached its limit is left
            have hle := count_absorb_le cap rest stack
            have hsome : stack.isEmpty = false := by
              rw [ItemStack.isEmpty, beq_eq_false_iff_ne]
              omega
            rw [Bool.eq_false_iff, Ne, ItemStack.isMergeableWith_iff] at h
            apply ItemStack.isFull_of_maxStack_le
            exact not_lt.mp fun hlt => h ⟨hkind, hlt, hroom, hsome⟩
          · exact ih hroom hleft e he hkind

/-- The entries `kept` and the number `left` are what absorbing a stack leaves of some
entries and of the stack. -/
structure Absorbed (cap : Nat) (stack : ItemStack) (entries kept : DropEntries) (left : Nat) :
    Prop where
  forall₂ : List.Forall₂ (Kept cap) entries kept
  le : left ≤ stack.count
  full : left ≠ 0 → stack.maxStack ≤ stack.count ∧ left = stack.count ∨
    ∀ e ∈ kept, e.1.SameKind stack → e.1.IsFull cap

theorem absorbed_absorb (cap : Nat) (entries : DropEntries) (stack : ItemStack) :
    Absorbed cap stack entries (absorb cap stack entries).1 (absorb cap stack entries).2.count where
  forall₂ := forall₂_kept_absorb cap entries stack
  le := count_absorb_le cap entries stack
  full := by
    intro hleft
    rcases lt_or_ge stack.count stack.maxStack with hroom | hover
    · exact .inr (isFull_of_mem_absorb cap entries hroom hleft)
    · refine .inl ⟨hover, ?_⟩
      rw [absorb_of_maxStack_le hover]

/-- Every entry is kept at its place. -/
def Keeps (cap : Nat) (entries entries' : DropEntries) : Prop :=
  ∀ (k : Nat) (e : ItemStack × Position), entries[k]? = some e →
    ∃ e', entries'[k]? = some e' ∧ Kept cap e e'

theorem Keeps.refl (cap : Nat) (entries : DropEntries) : Keeps cap entries entries :=
  fun _ e he => ⟨e, he, .refl cap e⟩

theorem Keeps.trans {a b c : DropEntries} (h : Keeps cap a b) (h' : Keeps cap b c) :
    Keeps cap a c := by
  intro k e he
  obtain ⟨e', he', hkept⟩ := h k e he
  obtain ⟨e'', he'', hkept'⟩ := h' k e' he'
  exact ⟨e'', he'', hkept.trans hkept'⟩

theorem exists_getElem?_of_forall₂ {α : Type} {R : α → α → Prop} {xs ys : List α}
    (h : List.Forall₂ R xs ys) {k : Nat} {x : α} (hx : xs[k]? = some x) :
    ∃ y, ys[k]? = some y ∧ R x y := by
  induction h generalizing k with
  | nil => cases hx
  | cons hfirst hrest ih =>
      cases k with
      | zero =>
          obtain rfl := Option.some.inj hx
          exact ⟨_, rfl, hfirst⟩
      | succ k => exact ih hx

end DropEntries

/-! ## A stack and a pile -/

namespace DropPile

open DropEntries (Kept Keeps Absorbed)

/-- What one more stack makes of a pile: all entries are kept in their order, and at
most one is added at the end, with what is left of the stack. -/
structure Grows (before : DropPile) (stack : ItemStack) (position : Position)
    (after : DropPile) : Prop where
  cap : after.cap = before.cap
  entries : ∃ kept left, Absorbed before.cap stack before.entries kept left ∧
    after.entries = kept ++ if left = 0 then [] else [({ stack with count := left }, position)]
  tally : ∀ item tag, tally (.kind item tag) after.contents =
    tally (.kind item tag) before.contents + tally (.kind item tag) [stack]

theorem grows_add (pile : DropPile) (stack : ItemStack) (position : Position) :
    Grows pile stack position (pile.add stack position) := by
  obtain ⟨left, -, hleft⟩ := pile.entries.absorb_snd pile.cap stack
  refine ⟨rfl, ⟨_, _, pile.entries.absorbed_absorb pile.cap stack, ?_⟩,
    fun item tag => tally_add _ pile stack position⟩
  simp only [add, hleft, ItemStack.isEmpty, beq_iff_eq]
  split
  · rw [List.append_nil]
  · rfl

namespace Grows

variable {before after : DropPile} {stack : ItemStack} {position : Position}

theorem keeps (h : Grows before stack position after) :
    Keeps before.cap before.entries after.entries := by
  obtain ⟨kept, left, habsorbed, hentries⟩ := h.entries
  intro k e he
  obtain ⟨e', he', hgrown⟩ := DropEntries.exists_getElem?_of_forall₂ habsorbed.forall₂ he
  have hk : k < kept.length := (List.getElem?_eq_some_iff.mp he').1
  refine ⟨e', ?_, hgrown⟩
  rwa [hentries, List.getElem?_append_left hk]

/-- An entry was there before, or it is the new one. -/
theorem entry_cases (h : Grows before stack position after) {k : Nat}
    {e : ItemStack × Position} (he : after.entries[k]? = some e) :
    (∃ e₀, before.entries[k]? = some e₀ ∧ Kept before.cap e₀ e) ∨
    (k = before.entries.length ∧ e = ({ stack with count := e.1.count }, position) ∧
      e.1.count ≠ 0 ∧ e.1.count ≤ stack.count) := by
  obtain ⟨kept, left, ⟨hkept, hle, -⟩, hentries⟩ := h.entries
  rw [hentries] at he
  rcases lt_or_ge k kept.length with hk | hk
  · rw [List.getElem?_append_left hk] at he
    exact .inl (DropEntries.exists_getElem?_of_forall₂ hkept.flip he)
  · rw [List.getElem?_append_right hk] at he
    split at he
    · cases he
    · next hleft =>
      obtain ⟨hlt, rfl⟩ := List.getElem?_eq_some_iff.mp he
      rw [List.length_singleton] at hlt
      right
      refine ⟨?_, by simp, by simpa using hleft, by simpa using hle⟩
      rw [hkept.length_eq]
      omega

theorem mem_cases (h : Grows before stack position after) {e : ItemStack × Position}
    (he : e ∈ after.entries) :
    (∃ e₀ ∈ before.entries, Kept before.cap e₀ e) ∨
    (e = ({ stack with count := e.1.count }, position) ∧
      e.1.count ≠ 0 ∧ e.1.count ≤ stack.count) := by
  obtain ⟨k, hk⟩ := List.mem_iff_getElem?.mp he
  rcases h.entry_cases hk with ⟨e₀, he₀, hkept⟩ | ⟨-, hnew⟩
  · exact .inl ⟨e₀, List.mem_of_getElem? he₀, hkept⟩
  · exact .inr hnew

end Grows

/-! ## Many stacks -/

/-- The pile that some stacks make, merged one after the other. -/
def gather (cap : Nat) (adds : List (ItemStack × Position)) : DropPile :=
  adds.foldl (fun pile (stack, position) => pile.add stack position) { cap }

theorem gather_append_singleton (cap : Nat) (adds : List (ItemStack × Position))
    (stack : ItemStack) (position : Position) :
    gather cap (adds ++ [(stack, position)]) = (gather cap adds).add stack position := by
  unfold gather
  rw [List.foldl_append]
  rfl

theorem cap_gather (cap : Nat) (adds : List (ItemStack × Position)) :
    (gather cap adds).cap = cap := by
  induction adds using List.reverseRecOn with
  | nil => rfl
  | append_singleton adds add ih =>
      obtain ⟨stack, position⟩ := add
      rw [gather_append_singleton]
      exact ih

theorem tally_gather (select : Selection) (cap : Nat) (adds : List (ItemStack × Position)) :
    tally select (gather cap adds).contents = tally select (adds.map Prod.fst) := by
  induction adds using List.reverseRecOn with
  | nil => rfl
  | append_singleton adds add ih =>
      obtain ⟨stack, position⟩ := add
      rw [gather_append_singleton, tally_add, ih, List.map_append, tally_append]
      rfl

/-- More stacks keep the entries that are there. -/
theorem keeps_gather (cap : Nat) (earlier later : List (ItemStack × Position)) :
    Keeps cap (gather cap earlier).entries (gather cap (earlier ++ later)).entries := by
  induction later using List.reverseRecOn with
  | nil =>
      rw [List.append_nil]
      exact .refl cap _
  | append_singleton later add ih =>
      obtain ⟨stack, position⟩ := add
      have hstep := (grows_add (gather cap (earlier ++ later)) stack position).keeps
      rw [cap_gather] at hstep
      rw [← List.append_assoc, gather_append_singleton]
      exact ih.trans hstep

theorem isEmpty_of_mem_gather (cap : Nat) (adds : List (ItemStack × Position)) :
    ∀ e ∈ (gather cap adds).entries, e.1.isEmpty = false := by
  induction adds using List.reverseRecOn with
  | nil =>
      intro e he
      cases he
  | append_singleton adds add ih =>
      obtain ⟨stack, position⟩ := add
      rw [gather_append_singleton]
      intro e he
      rw [ItemStack.isEmpty, beq_eq_false_iff_ne]
      rcases (grows_add (gather cap adds) stack position).mem_cases he with
        ⟨e₀, he₀, hkept⟩ | ⟨-, hsome, -⟩
      · have hsome := ih e₀ he₀
        rw [ItemStack.isEmpty, beq_eq_false_iff_ne] at hsome
        have hle := hkept.le
        omega
      · exact hsome

/-- The entry is what a single one of the added stacks left when it fell. -/
def IsUntouched (cap : Nat) (adds : List (ItemStack × Position)) (k : Nat)
    (e : ItemStack × Position) : Prop :=
  ∃ earlier stack later, adds = earlier ++ (stack, e.2) :: later ∧
    (gather cap earlier).entries.length = k ∧
    (gather cap (earlier ++ [(stack, e.2)])).entries[k]? = some e ∧
    e.1 = { stack with count := e.1.count } ∧ e.1.count ≤ stack.count

/-- **An entry above its limit** has not been touched since it fell. -/
theorem isUntouched_of_limit_lt (cap : Nat) (adds : List (ItemStack × Position)) {k : Nat}
    {e : ItemStack × Position} (he : (gather cap adds).entries[k]? = some e)
    (hover : e.1.limit cap < e.1.count) : IsUntouched cap adds k e := by
  induction adds using List.reverseRecOn with
  | nil => cases he
  | append_singleton adds add ih =>
      obtain ⟨stack, position⟩ := add
      rw [gather_append_singleton] at he
      rcases (grows_add (gather cap adds) stack position).entry_cases he with
        ⟨e₀, he₀, hkept⟩ | ⟨hk, hnew, -, hle⟩
      · -- nothing was merged onto it now, so it was there before and above its limit
        rw [cap_gather] at hkept
        obtain rfl := hkept.eq_of_limit_lt hover
        obtain ⟨earlier, stack', later, rfl, hfirst⟩ := ih he₀
        exact ⟨earlier, stack', later ++ [(stack, position)], by simp, hfirst⟩
      · obtain rfl : e.2 = position := congrArg Prod.snd hnew
        refine ⟨adds, stack, [], rfl, hk.symm, ?_, congrArg Prod.fst hnew, hle⟩
        rwa [gather_append_singleton]

end DropPile

/-! ## Words -/

namespace Word

/-- The sum of two 32-bit words; none if it overflows. -/
def add? (a b : Nat) : Option Nat := if a + b < UInt32.size then some (a + b) else none

def sub? (a b : Nat) : Option Nat := if b ≤ a then some (a - b) else none

end Word

namespace ItemStack

def IsWord (s : ItemStack) : Prop := s.count < UInt32.size ∧ s.maxStack < UInt32.size

/-- `mergeFrom` with checked arithmetic. -/
def mergeFrom? (s source : ItemStack) (cap : Nat) : Option (ItemStack × ItemStack) := do
  let moved := s.room source cap
  let count ← Word.add? s.count moved
  let left ← Word.sub? source.count moved
  return ({ s with count }, { source with count := left })

/-- What goes onto a stack fits below its limit, and what leaves the other was there. -/
theorem mergeFrom?_eq {s : ItemStack} (hs : s.IsWord) (source : ItemStack) (cap : Nat) :
    s.mergeFrom? source cap = some (s.mergeFrom source cap) := by
  have hsum : s.count + s.room source cap < UInt32.size := by
    obtain ⟨hcount, hmax⟩ := hs
    rw [room_eq, limit]
    omega
  have hleft : s.room source cap ≤ source.count := room_le_count
  simp [mergeFrom?, mergeFrom, Word.add?, Word.sub?, hsum, hleft]

end ItemStack

namespace DropEntries

def absorb? (cap : Nat) (stack : ItemStack) : DropEntries → Option (DropEntries × ItemStack)
  | [] => some ([], stack)
  | (existing, position) :: rest =>
    if stack.isEmpty then some ((existing, position) :: rest, stack)
    else do
      let (existing, stack) ←
        if existing.isMergeableWith stack then existing.mergeFrom? stack cap
        else some (existing, stack)
      let (rest, stack) ← absorb? cap stack rest
      return ((existing, position) :: rest, stack)

theorem absorb?_eq (cap : Nat) (entries : DropEntries) (stack : ItemStack)
    (hentries : ∀ e ∈ entries, e.1.IsWord) :
    absorb? cap stack entries = some (absorb cap stack entries) := by
  induction entries generalizing stack with
  | nil => rfl
  | cons e rest ih =>
      obtain ⟨existing, position⟩ := e
      have hexisting : existing.IsWord := hentries _ List.mem_cons_self
      have hrest := fun stack => ih stack fun e he => hentries e (List.mem_cons_of_mem _ he)
      unfold absorb? absorb
      split
      · rfl
      · split
        · simp [existing.mergeFrom?_eq hexisting, hrest]
        · simp [hrest]

end DropEntries

namespace DropPile

def add? (pile : DropPile) (stack : ItemStack) (position : Position) : Option DropPile := do
  let (entries, rest) ← pile.entries.absorb? pile.cap stack
  return { pile with entries := if rest.isEmpty then entries else entries ++ [(rest, position)] }

def gather? (cap : Nat) (adds : List (ItemStack × Position)) : Option DropPile :=
  adds.foldlM (fun pile (stack, position) => pile.add? stack position) { cap }

theorem isWord_of_mem_gather {cap : Nat} {adds : List (ItemStack × Position)}
    (hadds : ∀ add ∈ adds, add.1.IsWord) : ∀ e ∈ (gather cap adds).entries, e.1.IsWord := by
  induction adds using List.reverseRecOn with
  | nil =>
      intro e he
      cases he
  | append_singleton adds add ih =>
      obtain ⟨stack, position⟩ := add
      have hstack : stack.IsWord := hadds (stack, position) (by simp)
      rw [gather_append_singleton]
      intro e he
      rcases (grows_add (gather cap adds) stack position).mem_cases he with
        ⟨e₀, he₀, hkept⟩ | ⟨hnew, -, hle⟩
      · obtain ⟨hcount, hmax⟩ :=
          ih (fun add hadd => hadds add (List.mem_append_left _ hadd)) e₀ he₀
        have hwithin := hkept.within
        have hle := hkept.le
        rw [ItemStack.limit] at hwithin
        rw [ItemStack.IsWord, hkept.maxStack]
        omega
      · rw [hnew]
        exact ⟨hle.trans_lt hstack.1, hstack.2⟩

/-- **Nothing overflows**, and nothing underflows. -/
theorem gather?_eq {cap : Nat} {adds : List (ItemStack × Position)}
    (hadds : ∀ add ∈ adds, add.1.IsWord) : gather? cap adds = some (gather cap adds) := by
  induction adds using List.reverseRecOn with
  | nil => rfl
  | append_singleton adds add ih =>
      obtain ⟨stack, position⟩ := add
      have hearlier : ∀ add ∈ adds, add.1.IsWord :=
        fun add hadd => hadds add (List.mem_append_left _ hadd)
      have hwords : ∀ e ∈ (gather cap adds).entries, e.1.IsWord := isWord_of_mem_gather hearlier
      have hearlier' := ih hearlier
      unfold gather? at hearlier' ⊢
      rw [List.foldlM_append, hearlier', gather_append_singleton]
      simp [add?, add, DropEntries.absorb?_eq _ _ _ hwords]

/-! ## The accounts of a pile -/

/-- What a pile has to do with the stacks that were merged into it. -/
structure Accounts (cap : Nat) (adds : List (ItemStack × Position)) (pile : DropPile) : Prop where
  tally : ∀ item tag,
    tally (.kind item tag) pile.contents = tally (.kind item tag) (adds.map Prod.fst)
  notEmpty : ∀ e ∈ pile.entries, e.1.isEmpty = false
  keeps : ∀ earlier later, adds = earlier ++ later →
    DropEntries.Keeps cap (gather cap earlier).entries pile.entries
  grows : ∀ earlier stack position later, adds = earlier ++ (stack, position) :: later →
    Grows (gather cap earlier) stack position (gather cap (earlier ++ [(stack, position)]))
  untouched : ∀ (k : Nat) (e : ItemStack × Position), pile.entries[k]? = some e →
    e.1.limit cap < e.1.count → IsUntouched cap adds k e
  words : (∀ add ∈ adds, add.1.IsWord) → gather? cap adds = some pile

/-- **Merging loses, invents and overfills nothing**, whatever stacks are merged: also if they are
empty, above their limits, or of one kind with different limits. -/
theorem accounts_gather (cap : Nat) (adds : List (ItemStack × Position)) :
    Accounts cap adds (gather cap adds) where
  tally item tag := tally_gather _ cap adds
  notEmpty := isEmpty_of_mem_gather cap adds
  keeps := by
    rintro earlier later rfl
    exact keeps_gather cap earlier later
  grows := by
    rintro earlier stack position later rfl
    rw [gather_append_singleton]
    exact grows_add _ stack position
  untouched k e he hover := isUntouched_of_limit_lt cap adds he hover
  words := gather?_eq

end DropPile

end Crater
