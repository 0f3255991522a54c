import Mathlib
import Crater.Decimal.Read

/-!
# Texts of numbers

Which texts are read as numbers, and as which, is told by a grammar: a natural number
is digits behind a plus sign or none, and any other number is a decimal with its power
of ten, or a word, behind a sign or none. The readers accept what the grammar allows and
nothing else.
-/

namespace Crater.Decimal

/-! ## Digits -/

structure IsDigits (ds : List Char) : Prop where
  ne_nil : ds ≠ []
  isDigit : ∀ c ∈ ds, c.isDigit = true

theorem isDigits_iff {ds : List Char} :
    IsDigits ds ↔ (ds.isEmpty || !ds.all Char.isDigit) = false := by
  rw [Bool.or_eq_false_iff, List.isEmpty_eq_false_iff, Bool.not_eq_false', List.all_eq_true]
  exact ⟨fun h => ⟨h.ne_nil, h.isDigit⟩, fun h => ⟨h.1, h.2⟩⟩

/-- The value of digits that come behind a number. -/
def extend (n : ℕ) (ds : List Char) : ℕ := ds.foldl (fun n c => 10 * n + (c.toNat - '0'.toNat)) n

theorem le_extend (n : ℕ) (ds : List Char) : n ≤ extend n ds := by
  induction ds generalizing n with
  | nil => exact Nat.le_refl n
  | cons c rest ih =>
      have hrest := ih (10 * n + (c.toNat - '0'.toNat))
      exact le_trans (by omega) hrest

/-- Digits are read to their value if that is within the limit. No part of them has a larger
value than all of them, so it does not matter where the limit is first exceeded. -/
theorem readDigits_eq_ok_iff {limit n m : ℕ} {ds : List Char} :
    readDigits limit n ds = .ok m ↔
      (∀ c ∈ ds, c.isDigit = true) ∧ extend n ds = m ∧ (ds ≠ [] → m < limit) := by
  induction ds generalizing n with
  | nil => simp [readDigits, extend]
  | cons c rest ih =>
      rw [readDigits]
      by_cases hdigit : c.isDigit = true
      · rw [if_neg (by simp [hdigit])]
        dsimp only
        have hextend : extend n (c :: rest) = extend (10 * n + (c.toNat - '0'.toNat)) rest := rfl
        by_cases hlt : 10 * n + (c.toNat - '0'.toNat) < limit
        · rw [if_pos hlt, ih, hextend, List.forall_mem_cons, and_iff_right hdigit]
          refine and_congr_right fun _ => and_congr_right ?_
          rintro rfl
          cases rest with
          | nil => simpa [extend] using hlt
          | cons d rest => simp
        · rw [if_neg hlt]
          constructor
          · intro h
            cases h
          · rintro ⟨-, rfl, hfits⟩
            have hbelow := hfits (List.cons_ne_nil c rest)
            have hle := le_extend (10 * n + (c.toNat - '0'.toNat)) rest
            rw [hextend] at hbelow
            omega
      · rw [if_pos (by simpa using hdigit)]
        constructor
        · intro h
          cases h
        · rintro ⟨hall, -⟩
          exact absurd (hall c List.mem_cons_self) hdigit

theorem takeWhile_isDigit {ds tail : List Char} (hds : ∀ c ∈ ds, c.isDigit = true)
    (htail : ∀ c ∈ tail.head?, c.isDigit = false) :
    (ds ++ tail).takeWhile Char.isDigit = ds ∧ (ds ++ tail).dropWhile Char.isDigit = tail := by
  rw [List.takeWhile_append_of_pos hds, List.dropWhile_append_of_pos hds]
  cases tail with
  | nil => simp
  | cons c rest =>
      have hc := htail c rfl
      simp [hc]

/-! ## Signs -/

/-- A sign or none; `true` for minus. -/
inductive IsSign : Bool → List Char → Prop
  | none : IsSign false []
  | plus : IsSign false ['+']
  | minus : IsSign true ['-']

def IsUnsigned (cs : List Char) : Prop := ∀ c ∈ cs.head?, c ≠ '-' ∧ c ≠ '+'

theorem exists_isSign (cs : List Char) :
    ∃ sign, IsSign (splitSign cs).1 sign ∧ cs = sign ++ (splitSign cs).2 := by
  unfold splitSign
  split
  · exact ⟨_, .minus, rfl⟩
  · exact ⟨_, .plus, rfl⟩
  · exact ⟨_, .none, rfl⟩

theorem IsSign.splitSign_append {negative : Bool} {sign cs : List Char} (h : IsSign negative sign)
    (hcs : IsUnsigned cs) : splitSign (sign ++ cs) = (negative, cs) := by
  cases h with
  | plus => rfl
  | minus => rfl
  | none =>
      cases cs with
      | nil => rfl
      | cons c rest =>
          obtain ⟨hminus, hplus⟩ := hcs c rfl
          rw [List.nil_append, splitSign]
          · rintro _ h
            exact hminus (List.cons.inj h).1
          · rintro _ h
            exact hplus (List.cons.inj h).1

theorem isUnsigned_of_isDigit {c : Char} (h : c.isDigit = true) (rest : List Char) :
    IsUnsigned (c :: rest) := by
  rintro _ ⟨⟩
  constructor
  · rintro rfl
    cases h
  · rintro rfl
    cases h

theorem IsDigits.isUnsigned {ds : List Char} (h : IsDigits ds) (rest : List Char) :
    IsUnsigned (ds ++ rest) := by
  obtain ⟨c, ds, rfl⟩ := List.exists_cons_of_ne_nil h.ne_nil
  exact isUnsigned_of_isDigit (h.isDigit c List.mem_cons_self) _

/-! ## Natural numbers -/

/-- Digits with a value, behind a plus sign or none. -/
def IsNatural (text : String) (n : ℕ) : Prop :=
  ∃ sign ds, IsSign false sign ∧ IsDigits ds ∧ text.toList = sign ++ ds ∧ digitsValue ds = n

/-- **Natural numbers below a limit** are read, and no other texts. -/
theorem readNatural_eq_ok_iff {limit n : ℕ} {text : String} :
    readNatural limit text = .ok n ↔ IsNatural text n ∧ n < limit := by
  unfold readNatural IsNatural
  constructor
  · intro h
    split at h
    · cases h
    · next c cs htext =>
      obtain ⟨hdigits, hvalue, hlt⟩ := readDigits_eq_ok_iff.mp h
      have hne := List.cons_ne_nil c cs
      exact ⟨⟨_, _, .plus, ⟨hne, hdigits⟩, htext, hvalue⟩, hlt hne⟩
    · next hne _ =>
      obtain ⟨hdigits, hvalue, hlt⟩ := readDigits_eq_ok_iff.mp h
      exact ⟨⟨_, _, .none, ⟨hne, hdigits⟩, rfl, hvalue⟩, hlt hne⟩
  · rintro ⟨⟨sign, ds, hsign, hds, htext, rfl⟩, hlt⟩
    have hread : readDigits limit 0 ds = .ok (digitsValue ds) :=
      readDigits_eq_ok_iff.mpr ⟨hds.isDigit, rfl, fun _ => hlt⟩
    obtain ⟨c, rest, rfl⟩ := List.exists_cons_of_ne_nil hds.ne_nil
    rw [htext]
    cases hsign with
    | plus => exact hread
    | none =>
        obtain ⟨-, hplus⟩ := isUnsigned_of_isDigit (hds.isDigit c List.mem_cons_self) rest c rfl
        split
        · next h => cases h
        · next h => exact absurd (List.cons.inj h).1 hplus
        · exact hread

/-! ## Decimals -/

/-- A power of ten behind a decimal, or none. -/
inductive IsPower : List Char → ℤ → Prop
  | none : IsPower [] 0
  | written {negative : Bool} {sign ds : List Char} (e : Char) (letter : e = 'e' ∨ e = 'E')
      (signed : IsSign negative sign) (digits : IsDigits ds) :
      IsPower (e :: (sign ++ ds)) (if negative then -(digitsValue ds) else digitsValue ds)

theorem readPower_eq_some_iff {cs : List Char} {k : ℤ} :
    readPower cs = some k ↔ IsPower cs k := by
  constructor
  · intro h
    cases cs with
    | nil =>
        cases h
        exact .none
    | cons e cs =>
        obtain ⟨sign, hsign, hcs⟩ := exists_isSign cs
        rw [readPower] at h
        generalize splitSign cs = split at h hsign hcs
        obtain ⟨negative, ds⟩ := split
        split at h
        · next hletter =>
          dsimp only at h hsign hcs
          split at h
          · cases h
          · next hdigits =>
            have hds : IsDigits ds := isDigits_iff.mpr (Bool.not_eq_true _ ▸ hdigits)
            have hpower := IsPower.written e (by simpa using hletter) hsign hds
            rw [hcs]
            cases negative with
            | true =>
                cases h
                exact hpower
            | false =>
                cases h
                exact hpower
        · cases h
  · intro h
    cases h with
    | none => rfl
    | @written negative sign ds e letter hsign hds =>
        have hsplit := hsign.splitSign_append (List.append_nil ds ▸ hds.isUnsigned [])
        rw [readPower, if_pos (by simpa using letter), hsplit]
        dsimp only
        rw [if_neg (Bool.not_eq_true _ ▸ isDigits_iff.mp hds)]
        cases negative <;> rfl

/-- No power of ten could be taken for more digits or for a point. -/
theorem IsPower.head_ne {cs : List Char} {k : ℤ} (h : IsPower cs k) :
    ∀ c ∈ cs.head?, c.isDigit = false ∧ c ≠ '.' := by
  cases h with
  | none =>
      rintro _ ⟨⟩
  | written e letter =>
      rintro _ ⟨⟩
      rcases letter with rfl | rfl <;> decide

/-- Digits, with a point among, before or behind them or without one, and a power of ten. -/
inductive IsDecimal : List Char → ℕ → ℤ → Prop
  | whole {ds tail : List Char} {power : ℤ} (digits : IsDigits ds) (scaled : IsPower tail power) :
      IsDecimal (ds ++ tail) (digitsValue ds) power
  | pointed {whole fraction tail : List Char} {power : ℤ} (digits : IsDigits (whole ++ fraction))
      (scaled : IsPower tail power) :
      IsDecimal (whole ++ '.' :: (fraction ++ tail)) (digitsValue (whole ++ fraction))
        (power - fraction.length)

/-- The digits of a decimal and its power of ten, put together. -/
theorem assembled_eq_some_iff {whole fraction tail : List Char} {m : ℕ} {k : ℤ} :
    (if (whole.isEmpty && fraction.isEmpty) = true then none
      else (readPower tail).map fun power =>
        (digitsValue (whole ++ fraction), power - (fraction.length : ℤ))) = some (m, k) ↔
      whole ++ fraction ≠ [] ∧ ∃ power, IsPower tail power ∧
        digitsValue (whole ++ fraction) = m ∧ power - fraction.length = k := by
  rw [Ne, List.append_eq_nil_iff]
  split
  · next hempty =>
    simp only [Bool.and_eq_true, List.isEmpty_iff] at hempty
    simp [hempty]
  · next hsome =>
    simp only [Bool.and_eq_true, List.isEmpty_iff] at hsome
    simp [hsome, readPower_eq_some_iff]

/-- What is read as a decimal is one. -/
theorem isDecimal_of_readUnsigned {cs : List Char} {m : ℕ} {k : ℤ}
    (h : readUnsigned cs = some (m, k)) : IsDecimal cs m k := by
  rw [readUnsigned] at h
  have hcs := List.takeWhile_append_dropWhile (p := Char.isDigit) (l := cs)
  have hwhole : ∀ c ∈ cs.takeWhile Char.isDigit, c.isDigit = true :=
    fun c hc => List.mem_takeWhile_imp hc
  generalize cs.takeWhile Char.isDigit = whole at h hcs hwhole
  generalize cs.dropWhile Char.isDigit = rest at h hcs
  subst hcs
  dsimp only at h
  split at h
  · next more =>
    obtain ⟨hne, power, hpower, rfl, rfl⟩ := assembled_eq_some_iff.mp h
    have hfraction : ∀ c ∈ more.takeWhile Char.isDigit, c.isDigit = true :=
      fun c hc => List.mem_takeWhile_imp hc
    have hdigits : IsDigits (whole ++ more.takeWhile Char.isDigit) :=
      ⟨hne, fun c hc => (List.mem_append.mp hc).elim (hwhole c) (hfraction c)⟩
    have hdecimal := IsDecimal.pointed hdigits hpower
    rwa [List.takeWhile_append_dropWhile] at hdecimal
  · obtain ⟨hne, power, hpower, rfl, rfl⟩ := assembled_eq_some_iff.mp h
    rw [List.append_nil] at hne
    have hdecimal := IsDecimal.whole ⟨hne, hwhole⟩ hpower
    simpa using hdecimal

theorem IsDecimal.readUnsigned_eq {cs : List Char} {m : ℕ} {k : ℤ} (h : IsDecimal cs m k) :
    readUnsigned cs = some (m, k) := by
  rw [readUnsigned]
  cases h with
  | @whole ds tail power digits scaled =>
      obtain ⟨htake, hdrop⟩ := takeWhile_isDigit digits.isDigit
        fun c hc => (scaled.head_ne c hc).1
      rw [htake, hdrop]
      dsimp only
      split
      · next more => exact absurd rfl (scaled.head_ne '.' rfl).2
      · apply assembled_eq_some_iff.mpr
        rw [List.append_nil]
        exact ⟨digits.ne_nil, k, scaled, rfl, by simp⟩
  | @pointed whole fraction tail power digits scaled =>
      have hpoint : ∀ c ∈ ('.' :: (fraction ++ tail)).head?, c.isDigit = false := by
        rintro _ ⟨⟩
        rfl
      obtain ⟨htake, hdrop⟩ := takeWhile_isDigit
        (fun c hc => digits.isDigit c (List.mem_append_left _ hc)) hpoint
      obtain ⟨htake', hdrop'⟩ := takeWhile_isDigit
        (fun c hc => digits.isDigit c (List.mem_append_right _ hc))
        fun c hc => (scaled.head_ne c hc).1
      rw [htake, hdrop]
      simp only [htake', hdrop']
      exact assembled_eq_some_iff.mpr ⟨digits.ne_nil, power, scaled, rfl, rfl⟩

theorem readUnsigned_eq_some_iff {cs : List Char} {m : ℕ} {k : ℤ} :
    readUnsigned cs = some (m, k) ↔ IsDecimal cs m k :=
  ⟨isDecimal_of_readUnsigned, IsDecimal.readUnsigned_eq⟩

/-- A decimal starts with a digit or with its point. -/
theorem IsDecimal.exists_cons {cs : List Char} {m : ℕ} {k : ℤ} (h : IsDecimal cs m k) :
    ∃ c rest, cs = c :: rest ∧ (c.isDigit = true ∨ c = '.') := by
  cases h with
  | @whole ds tail power digits scaled =>
      obtain ⟨c, rest, rfl⟩ := List.exists_cons_of_ne_nil digits.ne_nil
      exact ⟨c, rest ++ tail, rfl, .inl (digits.isDigit c List.mem_cons_self)⟩
  | @pointed whole fraction tail power digits scaled =>
      cases whole with
      | nil => exact ⟨'.', _, rfl, .inr rfl⟩
      | cons c rest => exact ⟨c, _, rfl, .inl (digits.isDigit c List.mem_cons_self)⟩

/-! ## Numbers -/

/-- A decimal, or a word in any case for what no decimal denotes, behind a sign or none. -/
inductive IsNumber : List Char → Literal → Prop
  | nan {negative : Bool} {sign word : List Char} (signed : IsSign negative sign)
      (spelled : word.map Char.toLower = "nan".toList) : IsNumber (sign ++ word) .nan
  | infinite {negative : Bool} {sign word : List Char} (signed : IsSign negative sign)
      (spelled : word.map Char.toLower = "inf".toList ∨
        word.map Char.toLower = "infinity".toList) : IsNumber (sign ++ word) (.infinite negative)
  | decimal {negative : Bool} {sign cs : List Char} {m : ℕ} {k : ℤ} (signed : IsSign negative sign)
      (decimal : IsDecimal cs m k) : IsNumber (sign ++ cs) (.decimal negative m k)

theorem beq_ofList_iff {cs : List Char} {text : String} :
    (String.ofList cs == text) = true ↔ cs = text.toList := by
  rw [beq_iff_eq, ← String.toList_inj, String.toList_ofList]

theorem toLower_of_isDigit {c : Char} (h : c.isDigit = true) : c.toLower = c := by
  simp only [Char.isDigit, Char.toLower, Bool.and_eq_true, decide_eq_true_eq] at *
  grind

/-- No sign has a second case, so what is spelled without one in front starts with none. -/
theorem IsUnsigned.of_spelled {word : List Char} {c : Char} {rest : List Char}
    (h : word.map Char.toLower = c :: rest) (hsign : c ≠ '-' ∧ c ≠ '+') :
    word ≠ [] ∧ IsUnsigned word := by
  cases word with
  | nil => cases h
  | cons d word =>
      obtain ⟨rfl, -⟩ := List.cons.inj h
      refine ⟨List.cons_ne_nil d word, ?_⟩
      rintro _ ⟨⟩
      constructor
      · rintro rfl
        exact hsign.1 rfl
      · rintro rfl
        exact hsign.2 rfl

/-- A decimal starts neither with a sign nor as a word does. -/
theorem IsDecimal.exists_plain {cs : List Char} {m : ℕ} {k : ℤ} (h : IsDecimal cs m k) :
    ∃ c rest, cs = c :: rest ∧ (c ≠ '-' ∧ c ≠ '+') ∧ c.toLower ≠ 'n' ∧ c.toLower ≠ 'i' := by
  obtain ⟨c, rest, hcs, hdigit | rfl⟩ := h.exists_cons
  · refine ⟨c, rest, hcs, ?_⟩
    rw [toLower_of_isDigit hdigit]
    refine ⟨⟨?_, ?_⟩, ?_, ?_⟩ <;> rintro rfl <;> cases hdigit
  · exact ⟨'.', rest, hcs, by decide⟩

/-- What stands behind the sign of a text decides how it is read. -/
theorem readNumber_of_isSign {text : String} {negative : Bool} {sign body : List Char}
    (hsign : IsSign negative sign) (htext : text.toList = sign ++ body) (hbody : body ≠ [])
    (hunsigned : IsUnsigned body) : readNumber text =
      if String.ofList (body.map Char.toLower) == "nan" then .ok .nan
      else if String.ofList (body.map Char.toLower) == "inf" ||
        String.ofList (body.map Char.toLower) == "infinity" then .ok (.infinite negative)
      else
        match readUnsigned body with
        | some (m, k) => .ok (.decimal negative m k)
        | none => .error .invalid := by
  have hsome : text.isEmpty = false := by
    rw [Bool.eq_false_iff, Ne, String.isEmpty_iff, ← String.toList_eq_nil_iff, htext]
    simp [hbody]
  rw [readNumber, hsome, htext, hsign.splitSign_append hunsigned]
  rfl

/-- What is read as a number is one. -/
theorem isNumber_of_readNumber {text : String} {literal : Literal}
    (h : readNumber text = .ok literal) : IsNumber text.toList literal := by
  obtain ⟨sign, hsign, htext⟩ := exists_isSign text.toList
  rw [readNumber] at h
  rw [htext]
  generalize splitSign text.toList = split at h hsign
  obtain ⟨negative, body⟩ := split
  dsimp only at h hsign ⊢
  split at h
  · cases h
  split at h
  · next hword =>
    cases h
    exact .nan hsign (beq_ofList_iff.mp hword)
  split at h
  · next hword =>
    cases h
    rw [Bool.or_eq_true, beq_ofList_iff, beq_ofList_iff] at hword
    exact .infinite hsign hword
  split at h
  · next hread =>
    cases h
    exact .decimal hsign (readUnsigned_eq_some_iff.mp hread)
  · cases h

theorem IsNumber.readNumber_eq {text : String} {literal : Literal}
    (h : IsNumber text.toList literal) : readNumber text = .ok literal := by
  generalize htext : text.toList = cs at h
  cases h with
  | @nan negative sign word signed spelled =>
      obtain ⟨hword, hunsigned⟩ := IsUnsigned.of_spelled spelled (by decide)
      rw [readNumber_of_isSign signed htext hword hunsigned, if_pos (beq_ofList_iff.mpr spelled)]
  | @infinite negative sign word signed spelled =>
      obtain ⟨hword, hunsigned⟩ : word ≠ [] ∧ IsUnsigned word := by
        rcases spelled with h | h <;> exact IsUnsigned.of_spelled h (by decide)
      have hother : word.map Char.toLower ≠ "nan".toList := by
        rcases spelled with h | h <;> rw [h] <;> decide
      rw [readNumber_of_isSign signed htext hword hunsigned, if_neg (by rwa [beq_ofList_iff]),
        if_pos]
      rwa [Bool.or_eq_true, beq_ofList_iff, beq_ofList_iff]
  | @decimal negative sign cs m k signed decimal =>
      obtain ⟨c, rest, rfl, hsign, hnan, hinf⟩ := decimal.exists_plain
      have hunsigned : IsUnsigned (c :: rest) := by
        rintro _ ⟨⟩
        exact hsign
      rw [readNumber_of_isSign signed htext (List.cons_ne_nil c rest) hunsigned, if_neg, if_neg,
        readUnsigned_eq_some_iff.mpr decimal]
      · rw [Bool.or_eq_true, beq_ofList_iff, beq_ofList_iff]
        rintro (h | h)
        · exact hinf (List.cons.inj h).1
        · exact hinf (List.cons.inj h).1
      · rw [beq_ofList_iff]
        intro h
        exact hnan (List.cons.inj h).1

/-- **Numbers** are read, and no other texts. -/
theorem readNumber_eq_ok_iff {text : String} {literal : Literal} :
    readNumber text = .ok literal ↔ IsNumber text.toList literal :=
  ⟨isNumber_of_readNumber, IsNumber.readNumber_eq⟩

end Crater.Decimal
