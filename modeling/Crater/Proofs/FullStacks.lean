import Crater.Proofs.CommitRun
import Crater.Proofs.Merging

/-!
# Full stacks

If all stacks of a kind have one limit and none exceeds it, a pile never has two
stacks of that kind with room on them: what is left of a new stack either found the
others full or came full itself. So how many items of a kind were added determines
its stacks, and the order in which they were added does not matter.
-/

namespace Crater

/-! ## Stacks of one kind -/

def ofKind (item : ItemId) (tag : Nat) (xs : List ItemStack) : List ItemStack :=
  xs.filter fun s => Selection.kind item tag s.item s.tag

section
variable {item : ItemId} {tag : Nat}

theorem mem_ofKind {xs : List ItemStack} {s : ItemStack} :
    s ∈ ofKind item tag xs ↔ s ∈ xs ∧ s.item = item ∧ s.tag = tag := by
  simp [ofKind, Selection.kind]

theorem tally_eq_sum_ofKind (xs : List ItemStack) :
    tally (.kind item tag) xs = ((ofKind item tag xs).map ItemStack.count).sum := by
  induction xs with
  | nil => rfl
  | cons s xs ih =>
      rw [tally_cons, ih, ofKind, ofKind, List.filter_cons]
      cases h : Selection.kind item tag s.item s.tag <;> simp [tally, h]

theorem tally_perm {xs ys : List ItemStack} (select : Selection) (h : xs.Perm ys) :
    tally select xs = tally select ys :=
  (h.map _).sum_eq

end

/-- Stacks are permuted if those of each kind are. -/
theorem perm_of_perm_ofKind {xs ys : List ItemStack}
    (h : ∀ item tag, (ofKind item tag xs).Perm (ofKind item tag ys)) : xs.Perm ys := by
  rw [List.perm_iff_count]
  intro s
  have hcount := (h s.item s.tag).count_eq s
  have hkind : ∀ zs, (ofKind s.item s.tag zs).count s = zs.count s := by
    intro zs
    exact List.count_filter (by simp [Selection.kind])
  rwa [hkind, hkind] at hcount

/-! ## The fewest stacks -/

/-- Some full stacks of one kind, and one with the rest if there is one. -/
def stacksOf (item : ItemId) (tag maxStack limit full rest : Nat) : List ItemStack :=
  List.replicate full ⟨item, limit, maxStack, tag⟩ ++
    if rest = 0 then [] else [⟨item, rest, maxStack, tag⟩]

/-- So many items of one kind on as few stacks as a limit allows. -/
def packed (item : ItemId) (tag maxStack limit total : Nat) : List ItemStack :=
  stacksOf item tag maxStack limit (total / limit) (total % limit)

section
variable {item : ItemId} {tag maxStack limit : Nat}

theorem packed_eq_stacksOf {rest : Nat} (full : Nat) (hrest : rest < limit) :
    packed item tag maxStack limit (rest + full * limit) =
      stacksOf item tag maxStack limit full rest := by
  have hlimit : 0 < limit := by omega
  rw [packed, Nat.add_mul_div_right _ _ hlimit, Nat.add_mul_mod_self_right,
    Nat.mod_eq_of_lt hrest, Nat.div_eq_of_lt hrest, Nat.zero_add]

theorem sum_count_stacksOf (full rest : Nat) :
    ((stacksOf item tag maxStack limit full rest).map ItemStack.count).sum =
      rest + full * limit := by
  unfold stacksOf
  split
  · next h => simp [h]
  · simp [Nat.add_comm]

section
variable {xs : List ItemStack}
  (hkind : ∀ s ∈ xs, s.item = item ∧ s.maxStack = maxStack ∧ s.tag = tag)
  (hcount : ∀ s ∈ xs, s.count ≠ 0 ∧ s.count ≤ limit)
  (hone : xs.countP (fun s => decide (s.count < limit)) ≤ 1)

include hkind hcount hone

/-- The stack that is not full, if there is one, may come last. -/
theorem exists_perm_stacksOf (hlimit : 0 < limit) :
    ∃ full, ∃ rest < limit, xs.Perm (stacksOf item tag maxStack limit full rest) := by
  have hform : ∀ s ∈ xs, s = ⟨item, s.count, maxStack, tag⟩ := by
    intro s hs
    obtain ⟨rfl, rfl, rfl⟩ := hkind s hs
    rfl
  have hfull : ∀ s ∈ xs.filter (fun s => !decide (s.count < limit)),
      s = ⟨item, limit, maxStack, tag⟩ := by
    intro s hs
    obtain ⟨hs, hge⟩ := List.mem_filter.mp hs
    have hle := (hcount s hs).2
    have hlimit : s.count = limit := by
      simp only [Bool.not_eq_true', decide_eq_false_iff_not] at hge
      omega
    rw [hform s hs, hlimit]
  have hperm := (List.perm_append_comm.trans
    (List.filter_append_perm (fun s : ItemStack => decide (s.count < limit)) xs)).symm
  rw [List.eq_replicate_of_mem hfull] at hperm
  rw [List.countP_eq_length_filter] at hone
  rcases hpart : xs.filter (fun s => decide (s.count < limit)) with _ | ⟨s, _ | ⟨t, rest⟩⟩
  · rw [hpart] at hperm
    exact ⟨_, 0, hlimit, by rwa [stacksOf, if_pos rfl]⟩
  · obtain ⟨hs, hlt⟩ := List.mem_filter.mp (hpart ▸ List.mem_singleton_self s)
    rw [hpart] at hperm
    exact ⟨_, s.count, of_decide_eq_true hlt,
      by rwa [stacksOf, if_neg (hcount s hs).1, ← hform s hs]⟩
  · rw [hpart] at hone
    simp at hone

/-- **Stacks with at most one that is not full** are as few as possible. -/
theorem perm_packed :
    xs.Perm (packed item tag maxStack limit (xs.map ItemStack.count).sum) := by
  rcases xs.eq_nil_or_concat with rfl | ⟨_, s, hxs⟩
  · simp [packed, stacksOf]
  · have hlimit : 0 < limit := by
      have hs := hcount s (by simp [hxs])
      omega
    obtain ⟨full, rest, hrest, hperm⟩ := exists_perm_stacksOf hkind hcount hone hlimit
    rw [(hperm.map ItemStack.count).sum_eq, sum_count_stacksOf, packed_eq_stacksOf full hrest]
    exact hperm

end

end

/-! ## Piles of regular stacks -/

/-- A stack has the limit of its kind and does not exceed what merging would leave on it. -/
structure ItemStack.IsRegular (maxStack : ItemId → Nat → Nat) (cap : Nat) (s : ItemStack) :
    Prop where
  maxStack_eq : s.maxStack = maxStack s.item s.tag
  le : s.count ≤ s.limit cap

theorem ItemStack.isRegular_iff {maxStack : ItemId → Nat → Nat} {cap : Nat} {s : ItemStack} :
    s.IsRegular maxStack cap ↔ s.maxStack = maxStack s.item s.tag ∧ s.count ≤ s.limit cap :=
  ⟨fun h => ⟨h.maxStack_eq, h.le⟩, fun h => ⟨h.1, h.2⟩⟩

instance (maxStack : ItemId → Nat → Nat) (cap : Nat) (s : ItemStack) :
    Decidable (s.IsRegular maxStack cap) :=
  decidable_of_iff _ ItemStack.isRegular_iff.symm

namespace DropPile

variable {maxStack : ItemId → Nat → Nat} {cap : Nat}

def takesMore (item : ItemId) (tag cap : Nat) (s : ItemStack) : Bool :=
  Selection.kind item tag s.item s.tag && decide (s.count < s.limit cap)

theorem takesMore_iff {item : ItemId} {tag : Nat} {s : ItemStack} :
    takesMore item tag cap s = true ↔
      (s.item = item ∧ s.tag = tag) ∧ s.count < s.limit cap := by
  simp [takesMore, Selection.kind]

/-- A pile of regular stacks of which at most one of each kind takes more items. -/
structure IsPacked (maxStack : ItemId → Nat → Nat) (cap : Nat) (pile : DropPile) : Prop where
  regular : ∀ e ∈ pile.entries, e.1.IsRegular maxStack cap
  notEmpty : ∀ e ∈ pile.entries, e.1.count ≠ 0
  one : ∀ item tag, pile.contents.countP (takesMore item tag cap) ≤ 1

theorem countP_takesMore_le {entries kept : DropEntries} (item : ItemId) (tag : Nat)
    (h : List.Forall₂ (DropEntries.Kept cap) entries kept) :
    kept.contents.countP (takesMore item tag cap) ≤
      entries.contents.countP (takesMore item tag cap) := by
  induction h with
  | nil => exact Nat.le_refl _
  | @cons e e' entries kept hfirst _ ih =>
      simp only [DropEntries.contents, List.map_cons, List.countP_cons] at ih ⊢
      have hmore : takesMore item tag cap e'.1 = true → takesMore item tag cap e.1 = true := by
        rw [takesMore_iff, takesMore_iff, hfirst.item, hfirst.tag, hfirst.limit_eq]
        rintro ⟨hkind, hlt⟩
        exact ⟨hkind, hfirst.le.trans_lt hlt⟩
      split
      · next he' =>
        rw [if_pos (hmore he')]
        omega
      · omega

/-- Of some stacks that are all full, none takes more items. -/
theorem countP_takesMore_eq_zero {entries : DropEntries} {stack : ItemStack}
    (hfull : ∀ e ∈ entries, e.1.SameKind stack → e.1.IsFull cap) :
    entries.contents.countP (takesMore stack.item stack.tag cap) = 0 := by
  rw [List.countP_eq_zero]
  intro s hs hmore
  obtain ⟨e, he, rfl⟩ := List.mem_map.mp hs
  obtain ⟨hkind, hlt⟩ := takesMore_iff.mp hmore
  exact absurd (hfull e he hkind) (not_le.mpr hlt)

theorem isPacked_add {pile : DropPile} (hpile : pile.IsPacked maxStack pile.cap)
    {stack : ItemStack} (hstack : stack.IsRegular maxStack pile.cap) (position : Position) :
    (pile.add stack position).IsPacked maxStack pile.cap where
  regular := by
    intro e he
    rcases (grows_add pile stack position).mem_cases he with ⟨e₀, he₀, hkept⟩ | ⟨hnew, -, hle⟩
    · have hregular := hpile.regular e₀ he₀
      refine ⟨by rw [hkept.maxStack, hkept.item, hkept.tag, hregular.maxStack_eq], ?_⟩
      rw [hkept.limit_eq]
      rcases hkept.le.eq_or_lt with hsame | hlt
      · rw [← hsame]
        exact hregular.le
      · exact hkept.within hlt
    · rw [hnew]
      exact ⟨hstack.maxStack_eq, hle.trans hstack.le⟩
  notEmpty := by
    intro e he
    rcases (grows_add pile stack position).mem_cases he with ⟨e₀, he₀, hkept⟩ | ⟨-, hsome, -⟩
    · have hsome := hpile.notEmpty e₀ he₀
      have hle := hkept.le
      omega
    · exact hsome
  one := by
    intro item tag
    obtain ⟨kept, left, habsorbed, hentries⟩ := (grows_add pile stack position).entries
    have hkept := (countP_takesMore_le item tag habsorbed.forall₂).trans (hpile.one item tag)
    rw [contents, hentries, DropEntries.contents, List.map_append, List.countP_append]
    by_cases hleft : left = 0
    · rw [if_pos hleft]
      exact hkept
    · rw [if_neg hleft, List.map_singleton, List.countP_singleton]
      by_cases hmore : takesMore item tag pile.cap { stack with count := left } = true
      · rw [if_pos hmore]
        obtain ⟨⟨rfl, rfl⟩, hlt⟩ := takesMore_iff.mp hmore
        -- what is left takes more items, so the stack did not come full and found no room
        rcases habsorbed.full hleft with ⟨hover, hsame⟩ | hfull
        · rw [ItemStack.limit] at hlt
          dsimp only at hlt
          omega
        · exact Nat.add_le_add_right (countP_takesMore_eq_zero hfull).le 1
      · rw [if_neg hmore]
        exact hkept

theorem isPacked_gather {adds : List (ItemStack × Position)}
    (hadds : ∀ add ∈ adds, add.1.IsRegular maxStack cap) :
    (gather cap adds).IsPacked maxStack cap := by
  induction adds using List.reverseRecOn with
  | nil =>
      refine ⟨?_, ?_, fun _ _ => Nat.zero_le _⟩
      all_goals
        intro e he
        cases he
  | append_singleton adds add ih =>
      obtain ⟨stack, position⟩ := add
      have hearlier := ih fun add hadd => hadds add (List.mem_append_left _ hadd)
      have hstack : stack.IsRegular maxStack cap := hadds (stack, position) (by simp)
      rw [gather_append_singleton]
      have hcap := cap_gather cap adds
      generalize gather cap adds = pile at hearlier hcap
      subst hcap
      exact isPacked_add hearlier hstack position

theorem IsPacked.perm {pile : DropPile} (h : pile.IsPacked maxStack cap) (item : ItemId)
    (tag : Nat) : (ofKind item tag pile.contents).Perm
      (packed item tag (maxStack item tag) (min (maxStack item tag) cap)
        (tally (.kind item tag) pile.contents)) := by
  have hmem : ∀ s ∈ ofKind item tag pile.contents, (s.item = item ∧ s.tag = tag) ∧
      s.IsRegular maxStack cap ∧ s.count ≠ 0 := by
    intro s hs
    obtain ⟨hs, hkind⟩ := mem_ofKind.mp hs
    obtain ⟨e, he, rfl⟩ := List.mem_map.mp hs
    exact ⟨hkind, h.regular e he, h.notEmpty e he⟩
  have hlimit : ∀ s ∈ ofKind item tag pile.contents,
      s.limit cap = min (maxStack item tag) cap := by
    intro s hs
    obtain ⟨⟨rfl, rfl⟩, hregular, -⟩ := hmem s hs
    rw [ItemStack.limit, hregular.maxStack_eq]
  rw [tally_eq_sum_ofKind]
  apply perm_packed
  · intro s hs
    obtain ⟨⟨rfl, rfl⟩, hregular, -⟩ := hmem s hs
    exact ⟨rfl, hregular.maxStack_eq, rfl⟩
  · intro s hs
    obtain ⟨-, hregular, hsome⟩ := hmem s hs
    rw [← hlimit s hs]
    exact ⟨hsome, hregular.le⟩
  · refine le_trans (le_of_eq ?_) (h.one item tag)
    rw [ofKind, List.countP_filter]
    apply List.countP_congr
    intro s hs
    cases hkind : Selection.kind item tag s.item s.tag with
    | false => simp [takesMore, hkind]
    | true =>
        rw [takesMore, hkind, hlimit s (List.mem_filter.mpr ⟨hs, hkind⟩)]
        simp

end DropPile

/-! ## Piles of a commit -/

/-- The stacks that a log earned, each with the position where it falls. -/
def shed (log : List Conversion) : List (ItemStack × Position) :=
  log.flatMap fun c => c.earned.map fun stack => (stack, c.position)

theorem pile_noteAll (cap : Nat) (w : World) (log : List Conversion) (w' : World) :
    (CommitProgress.noteAll { world := w, pile := { cap } } log w').pile =
      DropPile.gather cap (shed log) := by
  simp only [CommitProgress.noteAll, DropPile.gather, shed, DropPile.addAll, List.foldl_flatMap,
    List.foldl_map]

theorem drops_settled (rules : CommitRules) (w : World) (log : List Conversion) (w' : World) :
    (rules.settled w log w').1.drops =
      w'.drops ++ (DropPile.gather rules.mergeCap (shed log)).fallen := by
  rw [CommitRules.settled, CommitProgress.settle_eq, pile_noteAll]
  rfl

namespace DropPile

/-- The stacks of a pile depend on what was added through its totals alone. -/
structure IsClosedForm (maxStack : ItemId → Nat → Nat) (cap : Nat)
    (adds : List (ItemStack × Position)) : Prop where
  packed : ∀ item tag, (ofKind item tag (gather cap adds).contents).Perm
    (packed item tag (maxStack item tag) (min (maxStack item tag) cap)
      (tally (.kind item tag) (adds.map Prod.fst)))
  order : ∀ adds', adds.Perm adds' → (gather cap adds).contents.Perm (gather cap adds').contents
  /-- In whatever order voxels are converted, the same stacks fall. -/
  fallen : ∀ (rules : CommitRules) (log log' : List Conversion) (w w₁ w' w₁' : World),
    rules.mergeCap = cap → shed log = adds → log.Perm log' →
    ∃ fallen fallen' : List (ItemStack × Vec3),
      (rules.settled w log w₁).1.drops = w₁.drops ++ fallen ∧
      (rules.settled w' log' w₁').1.drops = w₁'.drops ++ fallen' ∧
      (fallen.map Prod.fst).Perm (fallen'.map Prod.fst)

theorem perm_packed_gather {maxStack : ItemId → Nat → Nat} {cap : Nat}
    {adds : List (ItemStack × Position)} (hadds : ∀ add ∈ adds, add.1.IsRegular maxStack cap)
    (item : ItemId) (tag : Nat) : (ofKind item tag (gather cap adds).contents).Perm
      (Crater.packed item tag (maxStack item tag) (min (maxStack item tag) cap)
        (tally (.kind item tag) (adds.map Prod.fst))) := by
  rw [← tally_gather _ cap]
  exact (isPacked_gather hadds).perm item tag

theorem perm_gather {maxStack : ItemId → Nat → Nat} {cap : Nat}
    {adds adds' : List (ItemStack × Position)}
    (hadds : ∀ add ∈ adds, add.1.IsRegular maxStack cap) (hperm : adds.Perm adds') :
    (gather cap adds).contents.Perm (gather cap adds').contents := by
  apply perm_of_perm_ofKind
  intro item tag
  have hpacked := perm_packed_gather hadds item tag
  have hpacked' := perm_packed_gather (fun add hadd => hadds add (hperm.mem_iff.mpr hadd)) item tag
  rw [tally_perm _ (hperm.map Prod.fst)] at hpacked
  exact hpacked.trans hpacked'.symm

/-- **Merging has a closed form**, and the order of what is merged does not show in it. -/
theorem isClosedForm_gather {maxStack : ItemId → Nat → Nat} {cap : Nat}
    {adds : List (ItemStack × Position)} (hadds : ∀ add ∈ adds, add.1.IsRegular maxStack cap) :
    IsClosedForm maxStack cap adds where
  packed := perm_packed_gather hadds
  order _ := perm_gather hadds
  fallen := by
    rintro rules log log' w w₁ w' w₁' rfl rfl hperm
    refine ⟨(gather rules.mergeCap (shed log)).fallen, (gather rules.mergeCap (shed log')).fallen,
      drops_settled rules w log w₁, drops_settled rules w' log' w₁', ?_⟩
    rw [map_fst_fallen, map_fst_fallen]
    exact perm_gather hadds (hperm.flatMap_right _)

/-- Two kinds in turn; a stack of the first comes full. -/
def mixedStacks : List (ItemStack × Position) :=
  [(⟨⟨3⟩, 10, 16, 0⟩, ⟨0, 0, 0⟩), (⟨⟨4⟩, 15, 64, 0⟩, ⟨1, 0, 0⟩), (⟨⟨3⟩, 16, 16, 0⟩, ⟨2, 0, 0⟩),
    (⟨⟨4⟩, 15, 64, 0⟩, ⟨3, 0, 0⟩), (⟨⟨3⟩, 9, 16, 0⟩, ⟨4, 0, 0⟩)]

def mixedLimit (item : ItemId) (_ : Nat) : Nat := if item = ⟨3⟩ then 16 else 64

theorem isClosedForm_mixedStacks :
    (∀ add ∈ mixedStacks, add.1.IsRegular mixedLimit 20) ∧
      IsClosedForm mixedLimit 20 mixedStacks ∧
      packed ⟨3⟩ 0 16 (min 16 20) (tally (.kind ⟨3⟩ 0) (mixedStacks.map Prod.fst)) =
        [⟨⟨3⟩, 16, 16, 0⟩, ⟨⟨3⟩, 16, 16, 0⟩, ⟨⟨3⟩, 3, 16, 0⟩] :=
  ⟨by decide, isClosedForm_gather (by decide), by decide⟩

end DropPile

end Crater
