import Crater.Proofs.Floating

/-!
# Packing

Bit patterns as core reads and writes them. Numbers that are packed can be unpacked again, numbers
out of range become infinite on the way, and a bit pattern is determined by what it unpacks to.

Comparison of unpacked numbers is comparison of their values, and numbers of one sign are ordered as
their bit patterns are.
-/

namespace Crater.Rounding

open Float.Model (Format UnpackedFloat totalExponent)
open Float.Model.UnpackedFloat

variable {f : Format}

/-! ## Fields of a bit pattern -/

theorem toNat_packComponents (s : Sign) (e : BitVec f.exponentBits)
    (m : BitVec f.mantissaBitsWithoutImplicit) :
    (packComponents f s e m).toNat =
      (s.toBitVec.toNat * 2 ^ f.exponentBits + e.toNat) * 2 ^ f.mantissaBitsWithoutImplicit +
        m.toNat := by
  rw [packComponents, BitVec.toNat_append, BitVec.toNat_append,
    ← Nat.shiftLeft_add_eq_or_of_lt e.isLt, ← Nat.shiftLeft_add_eq_or_of_lt m.isLt,
    Nat.shiftLeft_eq, Nat.shiftLeft_eq]

theorem toNat_unpackMantissa (b : BitVec f.numBits) :
    (unpackMantissa b).toNat = b.toNat % 2 ^ f.mantissaBitsWithoutImplicit := by
  have hm := f.hm
  have hwidth : f.mantissaBitsWithoutImplicit - 1 + 1 = f.mantissaBitsWithoutImplicit := by omega
  simp [unpackMantissa, hwidth]

theorem toNat_unpackExponent (b : BitVec f.numBits) :
    (unpackExponent b).toNat =
      b.toNat / 2 ^ f.mantissaBitsWithoutImplicit % 2 ^ f.exponentBits := by
  have he := f.he
  have hwidth : f.mantissaBitsWithoutImplicit + f.exponentBits - 1 -
      f.mantissaBitsWithoutImplicit + 1 = f.exponentBits := by omega
  simp [unpackExponent, Nat.shiftRight_eq_div_pow, hwidth]

theorem toNat_unpackSign (b : BitVec f.numBits) :
    (unpackSign b).toNat =
      b.toNat / 2 ^ f.mantissaBitsWithoutImplicit / 2 ^ f.exponentBits := by
  have hlt : b.toNat / 2 ^ (f.mantissaBitsWithoutImplicit + f.exponentBits) < 2 := by
    rw [Nat.div_lt_iff_lt_mul (by positivity)]
    have hb : b.toNat < 2 ^ (1 + f.exponentBits + f.mantissaBitsWithoutImplicit) := b.isLt
    rwa [show 1 + f.exponentBits + f.mantissaBitsWithoutImplicit =
      f.mantissaBitsWithoutImplicit + f.exponentBits + 1 by ring, pow_succ, mul_comm] at hb
  simp [unpackSign, Nat.shiftRight_eq_div_pow, Nat.div_div_eq_div_mul, ← pow_add,
    Nat.mod_eq_of_lt hlt]

theorem unpackSign_packComponents (s : Sign) (e : BitVec f.exponentBits)
    (m : BitVec f.mantissaBitsWithoutImplicit) :
    unpackSign (packComponents f s e m) = s.toBitVec := by
  apply BitVec.eq_of_toNat_eq
  rw [toNat_unpackSign, toNat_packComponents, add_comm, Nat.add_mul_div_right _ _ (by positivity),
    Nat.div_eq_of_lt m.isLt, zero_add, add_comm, Nat.add_mul_div_right _ _ (by positivity),
    Nat.div_eq_of_lt e.isLt, zero_add]

theorem ofBitVec_toBitVec (s : Sign) : Sign.ofBitVec s.toBitVec = s := by
  cases s <;> rfl

theorem toBitVec_ofBitVec (b : BitVec 1) : (Sign.ofBitVec b).toBitVec = b := by
  rcases BitVec.eq_zero_or_eq_one b with rfl | rfl <;> rfl

/-- A bit pattern is its three fields. -/
theorem packComponents_unpack (b : BitVec f.numBits) :
    packComponents f (.ofBitVec (unpackSign b)) (unpackExponent b) (unpackMantissa b) = b := by
  apply BitVec.eq_of_toNat_eq
  rw [toNat_packComponents, toBitVec_ofBitVec, toNat_unpackSign, toNat_unpackExponent,
    toNat_unpackMantissa, mul_comm _ (2 ^ f.exponentBits), Nat.div_add_mod,
    mul_comm _ (2 ^ f.mantissaBitsWithoutImplicit), Nat.div_add_mod]

/-! ## Packing -/

def IsInRange (f : Format) : UnpackedFloat → Prop
  | .finite _ _ e _ => e + f.mantissaBitsWithoutImplicit < 2 ^ (f.exponentBits - 1)
  | _ => True

structure IsNumber (f : Format) (u : UnpackedFloat) : Prop where
  canonical : IsCanonical f u
  inRange : IsInRange f u

theorem two_pow_exponentBits (f : Format) :
    2 ^ f.exponentBits = 2 * 2 ^ (f.exponentBits - 1) := by
  have he := f.he
  rw [← pow_succ', Nat.sub_add_cancel he]

theorem exponentBias_add (f : Format) :
    (f.exponentBias : ℤ) + f.mantissaBitsWithoutImplicit = 1 - f.minExponent := by
  have hpow : 0 < 2 ^ (f.exponentBits - 1) := by positivity
  simp only [Format.exponentBias, Format.minExponent, Format.mantissaBits]
  push_cast [Nat.cast_sub hpow]
  ring

theorem unpack_packComponents (s : Sign) (e : BitVec f.exponentBits)
    (m : BitVec f.mantissaBitsWithoutImplicit) :
    unpack f (packComponents f s e m) =
      if e = -1#_ then if m = 0#_ then .infinity s else .notANumber
      else if e = 0#_ then
        if h : m = 0#_ then .zero s
        else .finite s m.toNat f.minExponent (by simpa [BitVec.toNat_pos, BitVec.pos_iff_ne_zero])
      else
        .finite s (2 ^ f.mantissaBitsWithoutImplicit + m.toNat) (e.toNat - (1 - f.minExponent))
          (by positivity) := by
  have hnormal : (1#1 ++ m).toNat = 2 ^ f.mantissaBitsWithoutImplicit + m.toNat := by
    rw [BitVec.toNat_append, ← Nat.shiftLeft_add_eq_or_of_lt m.isLt, Nat.shiftLeft_eq]
    simp
  have hleast : (0 : ℤ) - (1 - f.minExponent) + 1 = f.minExponent := by ring
  simp only [unpack, unpackMantissa_packComponents, unpackExponent_packComponents,
    unpackSign_packComponents, ofBitVec_toBitVec, hnormal, exponentBias_add]
  split
  · rfl
  · split
    · next he =>
      simp only [he, BitVec.toNat_zero, Nat.cast_zero, hleast]
    · rfl

theorem toNat_add_one_lt {n : ℕ} {e : BitVec n} (h : e ≠ -1#n) : e.toNat + 1 < 2 ^ n := by
  have hne : e.toNat ≠ 2 ^ n - 1 := by
    intro he
    apply h
    apply BitVec.eq_of_toNat_eq
    rw [BitVec.neg_one_eq_allOnes, BitVec.toNat_allOnes, he]
  have hlt := e.isLt
  omega

theorem isNumber_unpack (hf : 1 < f.exponentBits) (b : BitVec f.numBits) : IsNumber f (unpack f b) := by
  have htwo : (2 : ℤ) ≤ 2 ^ (f.exponentBits - 1) := by
    exact_mod_cast Nat.le_self_pow (by omega) 2
  have hmin : f.minExponent = 2 - 2 ^ (f.exponentBits - 1) - f.mantissaBitsWithoutImplicit := by
    simp only [Format.minExponent, Format.mantissaBits]
    push_cast
    ring
  rw [← packComponents_unpack b, unpack_packComponents]
  generalize Sign.ofBitVec (unpackSign b) = s, unpackExponent b = e, unpackMantissa b = m
  have hm : m.toNat < 2 ^ f.mantissaBitsWithoutImplicit := m.isLt
  have hwide : 2 ^ f.mantissaBits = 2 * 2 ^ f.mantissaBitsWithoutImplicit := by
    rw [Format.mantissaBits, add_comm, pow_succ']
  split
  · split <;> exact ⟨trivial, trivial⟩
  · next hinfinite =>
    split
    · split
      · exact ⟨trivial, trivial⟩
      · exact ⟨⟨by omega, le_rfl, .inr rfl⟩, by show f.minExponent + _ < _; omega⟩
    · next hzero =>
      have hpos : 0 < e.toNat := by
        rwa [BitVec.toNat_pos, BitVec.pos_iff_ne_zero]
      have hlt : (e.toNat : ℤ) + 1 < 2 * 2 ^ (f.exponentBits - 1) := by
        have hlt := toNat_add_one_lt hinfinite
        rw [two_pow_exponentBits] at hlt
        exact_mod_cast hlt
      exact ⟨⟨by omega, by omega, .inl (by omega)⟩, by show (_ : ℤ) - _ + _ < _; omega⟩

theorem log2_add_one_eq {m : ℕ} (hm : 0 < m) (hlt : m < 2 ^ f.mantissaBits) :
    m.log2 + 1 = f.mantissaBits ↔ 2 ^ f.mantissaBitsWithoutImplicit ≤ m := by
  have hlog : m.log2 < f.mantissaBits := (Nat.log2_lt hm.ne').mpr hlt
  rw [← Nat.le_log2 hm.ne']
  simp only [Format.mantissaBits] at hlog ⊢
  omega

theorem minExponent_eq (f : Format) :
    f.minExponent = 2 - 2 ^ (f.exponentBits - 1) - f.mantissaBitsWithoutImplicit := by
  simp only [Format.minExponent, Format.mantissaBits]
  push_cast
  ring

/-- The exponent field holds all exponents that are in range, and is full beyond. -/
theorem overflows_iff {e : ℤ} (hmin : f.minExponent ≤ e) :
    2 ^ f.exponentBits ≤ (e - f.minExponent + 1).toNat + 1 ↔
      2 ^ (f.exponentBits - 1) ≤ e + f.mantissaBitsWithoutImplicit := by
  have hleast := minExponent_eq f
  have htwo : ((2 ^ f.exponentBits : ℕ) : ℤ) = 2 * 2 ^ (f.exponentBits - 1) := by
    exact_mod_cast two_pow_exponentBits f
  rw [← Int.ofNat_le, htwo]
  push_cast
  omega

theorem pack_finite (s : Sign) {m : ℕ} {e : ℤ} (hm : 0 < m) (hlt : m < 2 ^ f.mantissaBits)
    (hmin : f.minExponent ≤ e) :
    pack f (.finite s m e hm) =
      if 2 ^ (f.exponentBits - 1) ≤ e + f.mantissaBitsWithoutImplicit then packedInfinity f s
      else if 2 ^ f.mantissaBitsWithoutImplicit ≤ m then
        packComponents f s (.ofNat _ (e - f.minExponent + 1).toNat) (.ofNat _ m)
      else packComponents f s 0#_ (.ofNat _ m) := by
  have hbias := exponentBias_add f
  have hbiased : e + f.exponentBias + f.mantissaBitsWithoutImplicit = e - f.minExponent + 1 := by
    omega
  simp only [pack, hbiased, overflows_iff hmin, log2_add_one_eq hm hlt]

theorem unpack_packedInfinity (s : Sign) : unpack f (packedInfinity f s) = .infinity s := by
  simp [packedInfinity, unpack_packComponents]

theorem zero_ne_neg_one (hf : f.exponentBits ≠ 0) : 0#f.exponentBits ≠ -1#_ := by
  have hlt := Nat.one_lt_two_pow hf
  intro h
  have hzero := congrArg BitVec.toNat h
  rw [BitVec.neg_one_eq_allOnes, BitVec.toNat_allOnes, BitVec.toNat_zero] at hzero
  omega

/-- **What is packed can be unpacked again.** -/
theorem unpack_pack {u : UnpackedFloat} (hu : IsNumber f u) : unpack f (pack f u) = u := by
  have hfill := zero_ne_neg_one f.he.ne'
  match u, hu with
  | .infinity s, _ => exact unpack_packedInfinity s
  | .notANumber, _ =>
      have hm := f.hm
      have hquiet : (1#f.mantissaBitsWithoutImplicit <<<
          (f.mantissaBitsWithoutImplicit - 1)) ≠ 0#_ := by
        intro h
        have hbit := congrArg (fun b => b.getLsbD (f.mantissaBitsWithoutImplicit - 1)) h
        simp [hm] at hbit
      rw [pack, packedNaN, unpack_packComponents, if_pos rfl, if_neg hquiet]
  | .zero s, _ => simpa [pack, packedZero, unpack_packComponents] using f.he.ne'
  | .finite s m e hm, ⟨⟨hlt, hmin, hfull⟩, hrange⟩ =>
      have hwide : 2 ^ f.mantissaBits = 2 * 2 ^ f.mantissaBitsWithoutImplicit := by
        rw [Format.mantissaBits, add_comm, pow_succ']
      rw [pack_finite s hm hlt hmin, if_neg (not_le.mpr hrange)]
      split
      · next hle =>
        have hfits : (e - f.minExponent + 1).toNat + 1 < 2 ^ f.exponentBits := by
          rw [← not_le, overflows_iff hmin]
          exact not_le.mpr hrange
        have hexponent : (BitVec.ofNat f.exponentBits (e - f.minExponent + 1).toNat).toNat =
            (e - f.minExponent + 1).toNat := by
          rw [BitVec.toNat_ofNat, Nat.mod_eq_of_lt (by omega)]
        have hmantissa : (BitVec.ofNat f.mantissaBitsWithoutImplicit m).toNat =
            m - 2 ^ f.mantissaBitsWithoutImplicit := by
          rw [BitVec.toNat_ofNat, Nat.mod_eq_sub_mod hle, Nat.mod_eq_of_lt (by omega)]
        rw [unpack_packComponents, if_neg, if_neg]
        · simp only [hexponent, hmantissa, UnpackedFloat.finite.injEq, true_and]
          omega
        · intro h
          rw [h, BitVec.toNat_zero] at hexponent
          omega
        · intro h
          rw [h, BitVec.neg_one_eq_allOnes, BitVec.toNat_allOnes] at hexponent
          omega
      · next hsmall =>
        have hmantissa : (BitVec.ofNat f.mantissaBitsWithoutImplicit m).toNat = m := by
          rw [BitVec.toNat_ofNat, Nat.mod_eq_of_lt (not_le.mp hsmall)]
        rw [unpack_packComponents, if_neg hfill, if_pos rfl, dif_neg]
        · simp only [hmantissa, UnpackedFloat.finite.injEq, true_and]
          exact (hfull.resolve_left hsmall).symm
        · intro h
          rw [h, BitVec.toNat_zero] at hmantissa
          omega

/-- Numbers out of range become infinite. -/
theorem unpack_pack_of_not_inRange {u : UnpackedFloat} (hu : IsCanonical f u)
    (hrange : ¬IsInRange f u) :
    ∃ s m e hm, u = .finite s m e hm ∧ unpack f (pack f u) = .infinity s := by
  match u, hu with
  | .infinity s, _ => exact absurd trivial hrange
  | .notANumber, _ => exact absurd trivial hrange
  | .zero s, _ => exact absurd trivial hrange
  | .finite s m e hm, ⟨hlt, hmin, _⟩ =>
      refine ⟨s, m, e, hm, rfl, ?_⟩
      rw [pack_finite s hm hlt hmin, if_pos (not_lt.mp hrange), unpack_packedInfinity]

/-- **A bit pattern is determined by what it unpacks to**, unless it is a NaN that core does not
use. -/
theorem pack_unpack (hf : 1 < f.exponentBits) {b : BitVec f.numBits} (hb : f.Valid b) :
    pack f (unpack f b) = b := by
  have hnumber := isNumber_unpack hf b
  have hnan := hb.eq_packedNaN
  obtain ⟨s, e, m, rfl⟩ : ∃ s e m, b = packComponents f s e m :=
    ⟨_, _, _, (packComponents_unpack b).symm⟩
  rw [unpackExponent_packComponents, unpackMantissa_packComponents] at hnan
  rw [unpack_packComponents] at hnumber ⊢
  by_cases hinfinite : e = -1#_
  · rw [if_pos hinfinite]
    by_cases hzero : m = 0#_
    · rw [if_pos hzero, hinfinite, hzero]
      rfl
    · rw [if_neg hzero, hnan hinfinite hzero]
      rfl
  · rw [if_neg hinfinite] at hnumber ⊢
    by_cases hsmall : e = 0#_
    · rw [if_pos hsmall] at hnumber ⊢
      by_cases hzero : m = 0#_
      · rw [dif_pos hzero, hsmall, hzero]
        rfl
      · rw [dif_neg hzero] at hnumber ⊢
        obtain ⟨⟨hlt, hmin, -⟩, hrange⟩ := hnumber
        rw [pack_finite s _ hlt hmin, if_neg (not_le.mpr hrange), if_neg (not_le.mpr m.isLt),
          BitVec.ofNat_toNat, BitVec.setWidth_eq, hsmall]
    · rw [if_neg hsmall] at hnumber ⊢
      obtain ⟨⟨hlt, hmin, -⟩, hrange⟩ := hnumber
      rw [pack_finite s _ hlt hmin, if_neg (not_le.mpr hrange), if_pos (by omega)]
      congr 1
      · apply BitVec.eq_of_toNat_eq
        rw [BitVec.toNat_ofNat, Nat.mod_eq_of_lt] <;>
        have := e.isLt <;> omega
      · apply BitVec.eq_of_toNat_eq
        rw [BitVec.toNat_ofNat, Nat.add_mod_left, Nat.mod_eq_of_lt m.isLt]

/-! ## Values in range -/

theorem abs_withSign (s : Sign) {x : ℝ} (hx : 0 ≤ x) : |withSign s x| = x := by
  cases s
  · exact (abs_neg x).trans (abs_of_nonneg hx)
  · exact abs_of_nonneg hx

/-- A finite number is in range of its format if its magnitude is below `limit`. -/
theorem isInRange_iff {s : Sign} {m : ℕ} {e : ℤ} {hm : 0 < m} (hf : 1 < f.exponentBits)
    (h : IsCanonical f (.finite s m e hm)) :
    IsInRange f (.finite s m e hm) ↔ (m : ℝ) * 2 ^ e < limit f := by
  obtain ⟨hlt, hmin, hfull⟩ := h
  have htwo : (2 : ℤ) ≤ 2 ^ (f.exponentBits - 1) := by
    exact_mod_cast Nat.le_self_pow (by omega) 2
  have hlimit : limit f = 2 ^ ((2 ^ (f.exponentBits - 1) : ℕ) : ℤ) := by
    rw [limit, zpow_natCast]
  constructor
  · intro hrange
    have hexponent : (f.mantissaBits : ℤ) + e ≤ (2 ^ (f.exponentBits - 1) : ℕ) := by
      simp only [IsInRange, Format.mantissaBits] at hrange ⊢
      push_cast
      omega
    calc (m : ℝ) * 2 ^ e < 2 ^ f.mantissaBits * 2 ^ e := by
          gcongr
          exact_mod_cast hlt
      _ = 2 ^ ((f.mantissaBits : ℤ) + e) := by rw [zpow_add₀ (by norm_num), zpow_natCast]
      _ ≤ limit f := by
          rw [hlimit]
          exact zpow_le_zpow_right₀ (by norm_num) hexponent
  · intro hvalue
    by_contra hrange
    have hexponent : ((2 ^ (f.exponentBits - 1) : ℕ) : ℤ) ≤ f.mantissaBitsWithoutImplicit + e := by
      simp only [IsInRange] at hrange
      push_cast
      omega
    have hfull : 2 ^ f.mantissaBitsWithoutImplicit ≤ m := by
      refine hfull.resolve_right ?_
      have := minExponent_eq f
      simp only [IsInRange] at hrange
      omega
    refine absurd hvalue (not_lt.mpr ?_)
    calc limit f ≤ 2 ^ ((f.mantissaBitsWithoutImplicit : ℤ) + e) := by
          rw [hlimit]
          exact zpow_le_zpow_right₀ (by norm_num) hexponent
      _ = 2 ^ f.mantissaBitsWithoutImplicit * 2 ^ e := by
          rw [zpow_add₀ (by norm_num), zpow_natCast]
      _ ≤ m * 2 ^ e := by
          gcongr
          exact_mod_cast hfull

theorem abs_value_le (hf : 1 < f.exponentBits) {u : UnpackedFloat} (hu : IsNumber f u) :
    |value f u| ≤ limit f := by
  have hpos := limit_pos f
  match u, hu with
  | .infinity .positive, _ => exact (abs_of_pos hpos).le
  | .infinity .negative, _ => exact ((abs_neg _).trans (abs_of_pos hpos)).le
  | .notANumber, _ => exact abs_zero.trans_le hpos.le
  | .zero s, _ => exact abs_zero.trans_le hpos.le
  | .finite s m e hm, ⟨hu, hrange⟩ =>
      rw [value_finite, abs_withSign s (by positivity)]
      exact ((isInRange_iff hf hu).mp hrange).le

/-- A number as it is after it was packed. -/
def repack (f : Format) (u : UnpackedFloat) : UnpackedFloat := unpack f (pack f u)

/-- Packing keeps values in range, and takes those out of range to `limit`. -/
theorem value_repack (hf : 1 < f.exponentBits) {u : UnpackedFloat} (hu : IsCanonical f u) :
    value f (repack f u) = max (-limit f) (min (limit f) (value f u)) := by
  have hpos := limit_pos f
  by_cases hrange : IsInRange f u
  · have hbound := abs_value_le hf ⟨hu, hrange⟩
    rw [abs_le] at hbound
    rw [repack, unpack_pack ⟨hu, hrange⟩, min_eq_right hbound.2, max_eq_right hbound.1]
  · obtain ⟨s, m, e, hm, rfl, hpack⟩ := unpack_pack_of_not_inRange hu hrange
    have hbound : limit f ≤ m * 2 ^ e := by
      rwa [isInRange_iff hf hu, not_lt] at hrange
    rw [repack, hpack, value_finite]
    cases s with
    | positive =>
        show limit f = _
        rw [show withSign .positive ((m : ℝ) * 2 ^ e) = m * 2 ^ e from rfl, min_eq_left hbound,
          max_eq_right (by linarith)]
    | negative =>
        show -limit f = _
        rw [show withSign .negative ((m : ℝ) * 2 ^ e) = -(m * 2 ^ e) from rfl,
          min_eq_right (by linarith), max_eq_left (by linarith)]

theorem isNaN_of_isFinite {u : UnpackedFloat} (h : u.isFinite = true) : u.isNaN = false := by
  cases u <;> first | rfl | cases h

theorem isFinite_iff (hf : 1 < f.exponentBits) {u : UnpackedFloat} (hu : IsNumber f u) :
    u.isFinite = true ↔ u.isNaN = false ∧ |value f u| < limit f := by
  have hpos := limit_pos f
  match u, hu with
  | .notANumber, _ => simp [UnpackedFloat.isFinite, UnpackedFloat.isNaN]
  | .infinity s, _ =>
      cases s <;> simp [UnpackedFloat.isFinite, UnpackedFloat.isNaN, value, abs_of_pos hpos]
  | .zero s, _ => simpa [UnpackedFloat.isFinite, UnpackedFloat.isNaN, value] using hpos
  | .finite s m e hm, ⟨hu, hrange⟩ =>
      rw [value_finite, abs_withSign s (by positivity), ← isInRange_iff hf hu]
      simp [UnpackedFloat.isFinite, UnpackedFloat.isNaN, hrange]

namespace IsRounding

variable {u : UnpackedFloat} {x : ℝ}

/-- **An operation that is packed** gives its exact result, rounded to the format. -/
theorem value_repack (hf : 1 < f.exponentBits) (h : IsRounding f u x) :
    value f (repack f u) = rounded f x := by
  rw [Rounding.value_repack hf h.isCanonical, h.value_eq, rounded]

theorem isNaN_repack (h : IsRounding f u x) : (repack f u).isNaN = false := by
  by_cases hrange : IsInRange f u
  · rw [repack, unpack_pack ⟨h.isCanonical, hrange⟩]
    exact isNaN_of_isFinite h.isFinite
  · obtain ⟨s, m, e, hm, rfl, hpack⟩ := unpack_pack_of_not_inRange h.isCanonical hrange
    rw [repack, hpack]
    rfl

end IsRounding

/-! ## Order -/

/-- The order of numbers of one sign is that of their exponents, and then of their mantissas. -/
theorem lt_of_lex {m n : ℕ} {e e' : ℤ} (hm : m < 2 ^ f.mantissaBits) (hmin : f.minExponent ≤ e)
    (hfull : 2 ^ f.mantissaBitsWithoutImplicit ≤ n ∨ e' = f.minExponent)
    (h : e < e' ∨ e = e' ∧ m < n) : (m : ℝ) * 2 ^ e < n * 2 ^ e' := by
  rcases h with hlt | ⟨rfl, hlt⟩
  · have hfull : 2 ^ f.mantissaBitsWithoutImplicit ≤ n := hfull.resolve_right (by omega)
    calc (m : ℝ) * 2 ^ e < 2 ^ f.mantissaBits * 2 ^ e := by
          gcongr
          exact_mod_cast hm
      _ ≤ 2 ^ f.mantissaBitsWithoutImplicit * 2 ^ e' := by
          rw [← zpow_natCast, ← zpow_natCast, ← zpow_add₀ (by norm_num),
            ← zpow_add₀ (by norm_num)]
          refine zpow_le_zpow_right₀ (by norm_num) ?_
          simp only [Format.mantissaBits]
          omega
      _ ≤ n * 2 ^ e' := by
          gcongr
          exact_mod_cast hfull
  · gcongr

theorem compare_lex {m n : ℕ} {e e' : ℤ} {s s' : Sign} {hm : 0 < m} {hn : 0 < n}
    (h : IsCanonical f (.finite s m e hm)) (h' : IsCanonical f (.finite s' n e' hn)) :
    (compare e e').then (compare m n) = compare ((m : ℝ) * 2 ^ e) (n * 2 ^ e') := by
  obtain ⟨hlt, hmin, hfull⟩ := h
  obtain ⟨hlt', hmin', hfull'⟩ := h'
  rcases lt_trichotomy e e' with he | rfl | he
  · rw [compare_lt_iff_lt.mpr he, compare_lt_iff_lt.mpr (lt_of_lex hlt hmin hfull' (.inl he))]
    rfl
  · rw [compare_eq_iff_eq.mpr rfl]
    rcases lt_trichotomy m n with hmn | rfl | hmn
    · rw [compare_lt_iff_lt.mpr hmn,
        compare_lt_iff_lt.mpr (lt_of_lex hlt hmin hfull' (.inr ⟨rfl, hmn⟩))]
      rfl
    · rw [compare_eq_iff_eq.mpr rfl, compare_eq_iff_eq.mpr rfl, Ordering.then_eq]
    · rw [compare_gt_iff_gt.mpr hmn,
        compare_gt_iff_gt.mpr (lt_of_lex hlt' hmin' hfull (.inr ⟨rfl, hmn⟩))]
      rfl
  · rw [compare_gt_iff_gt.mpr he, compare_gt_iff_gt.mpr (lt_of_lex hlt' hmin' hfull (.inl he))]
    rfl

theorem magnitude_bounds (hf : 1 < f.exponentBits) {s : Sign} {m : ℕ} {e : ℤ} {hm : 0 < m}
    (h : IsNumber f (.finite s m e hm)) : 0 < (m : ℝ) * 2 ^ e ∧ (m : ℝ) * 2 ^ e < limit f :=
  ⟨by positivity, (isInRange_iff hf h.canonical).mp h.inRange⟩

theorem compare_neg_neg (x y : ℝ) : compare (-x) (-y) = (compare x y).swap := by
  rcases lt_trichotomy x y with h | h | h
  · rw [compare_lt_iff_lt.mpr h, compare_gt_iff_gt.mpr (neg_lt_neg h)]
    rfl
  · rw [compare_eq_iff_eq.mpr h, compare_eq_iff_eq.mpr (congrArg Neg.neg h)]
    rfl
  · rw [compare_gt_iff_gt.mpr h, compare_lt_iff_lt.mpr (neg_lt_neg h)]
    rfl

theorem compare_finite (hf : 1 < f.exponentBits) {s t : Sign} {m n : ℕ} {e e' : ℤ} {hm : 0 < m}
    {hn : 0 < n} (hu : IsNumber f (.finite s m e hm)) (hv : IsNumber f (.finite t n e' hn)) :
    (UnpackedFloat.finite s m e hm).compare (.finite t n e' hn) =
      some (compare (withSign s (m * 2 ^ e)) (withSign t (n * 2 ^ e'))) := by
  have hlex := compare_lex hu.canonical hv.canonical
  obtain ⟨hm0, -⟩ := magnitude_bounds hf hu
  obtain ⟨hn0, -⟩ := magnitude_bounds hf hv
  cases s with
  | negative =>
      cases t with
      | negative =>
          -- of two negative numbers the one of larger magnitude is less
          rw [UnpackedFloat.compare, hlex]
          exact congrArg some (compare_neg_neg _ _).symm
      | positive =>
          have hlt : withSign .negative ((m : ℝ) * 2 ^ e) < withSign .positive (n * 2 ^ e') := by
            simp only [withSign]
            linarith
          rw [compare_lt_iff_lt.mpr hlt]
          rfl
  | positive =>
      cases t with
      | negative =>
          have hgt : withSign .negative ((n : ℝ) * 2 ^ e') < withSign .positive (m * 2 ^ e) := by
            simp only [withSign]
            linarith
          rw [compare_gt_iff_gt.mpr hgt]
          rfl
      | positive =>
          rw [UnpackedFloat.compare, hlex]
          rfl

/-- **Comparison is comparison of values.** -/
theorem compare_eq_some (hf : 1 < f.exponentBits) {u v : UnpackedFloat} (hu : IsNumber f u)
    (hv : IsNumber f v) (hu' : u.isNaN = false) (hv' : v.isNaN = false) :
    u.compare v = some (compare (value f u) (value f v)) := by
  have hpos := limit_pos f
  have lt {x y : ℝ} (h : x < y) : some .lt = some (compare x y) := by rw [compare_lt_iff_lt.mpr h]
  have eq {x y : ℝ} (h : x = y) : some .eq = some (compare x y) := by rw [compare_eq_iff_eq.mpr h]
  have gt {x y : ℝ} (h : y < x) : some .gt = some (compare x y) := by rw [compare_gt_iff_gt.mpr h]
  cases u with
  | notANumber => cases hu'
  | infinity s =>
      cases v with
      | notANumber => cases hv'
      | infinity t =>
          cases s <;> cases t
          · exact eq rfl
          · exact lt (by simp only [value]; linarith)
          · exact gt (by simp only [value]; linarith)
          · exact eq rfl
      | zero t =>
          cases s
          · exact lt (by simp only [value]; linarith)
          · exact gt (by simp only [value]; linarith)
      | finite t n e' hn =>
          obtain ⟨hn0, hn1⟩ := magnitude_bounds hf hv
          rw [value_finite]
          cases s <;> cases t
          · exact lt (by simp only [value, withSign]; linarith)
          · exact lt (by simp only [value, withSign]; linarith)
          · exact gt (by simp only [value, withSign]; linarith)
          · exact gt (by simp only [value, withSign]; linarith)
  | zero s =>
      cases v with
      | notANumber => cases hv'
      | infinity t =>
          cases t
          · exact gt (by simp only [value]; linarith)
          · exact lt (by simp only [value]; linarith)
      | zero t => exact eq rfl
      | finite t n e' hn =>
          obtain ⟨hn0, -⟩ := magnitude_bounds hf hv
          rw [value_finite]
          cases t
          · exact gt (by simp only [value, withSign]; linarith)
          · exact lt (by simp only [value, withSign]; linarith)
  | finite s m e hm =>
      obtain ⟨hm0, hm1⟩ := magnitude_bounds hf hu
      rw [value_finite]
      cases v with
      | notANumber => cases hv'
      | infinity t =>
          cases s <;> cases t
          · exact gt (by simp only [value, withSign]; linarith)
          · exact lt (by simp only [value, withSign]; linarith)
          · exact gt (by simp only [value, withSign]; linarith)
          · exact lt (by simp only [value, withSign]; linarith)
      | zero t =>
          cases s
          · exact lt (by simp only [value, withSign]; linarith)
          · exact gt (by simp only [value, withSign]; linarith)
      | finite t n e' hn =>
          rw [value_finite]
          exact compare_finite hf hu hv

theorem compare_of_isNaN {u v : UnpackedFloat} (h : ¬(u.isNaN = false ∧ v.isNaN = false)) :
    u.compare v = none := by
  cases v with
  | notANumber => cases u <;> rfl
  | _ =>
      cases u with
      | notANumber => rfl
      | _ => exact absurd ⟨rfl, rfl⟩ h

theorem lt_iff (hf : 1 < f.exponentBits) {u v : UnpackedFloat} (hu : IsNumber f u)
    (hv : IsNumber f v) :
    u.lt v = true ↔ (u.isNaN = false ∧ v.isNaN = false) ∧ value f u < value f v := by
  by_cases h : u.isNaN = false ∧ v.isNaN = false
  · rw [UnpackedFloat.lt, compare_eq_some hf hu hv h.1 h.2, and_iff_right h,
      ← compare_lt_iff_lt, beq_iff_eq, Option.some_inj]
  · rw [UnpackedFloat.lt, compare_of_isNaN h]
    exact ⟨fun hlt => absurd hlt (by decide), fun hlt => absurd hlt.1 h⟩

theorem le_iff (hf : 1 < f.exponentBits) {u v : UnpackedFloat} (hu : IsNumber f u)
    (hv : IsNumber f v) :
    u.le v = true ↔ (u.isNaN = false ∧ v.isNaN = false) ∧ value f u ≤ value f v := by
  by_cases h : u.isNaN = false ∧ v.isNaN = false
  · rw [UnpackedFloat.le, compare_eq_some hf hu hv h.1 h.2, and_iff_right h, Option.any_some,
      ← compare_le_iff_le, Ordering.isLE_iff_ne_gt]
  · rw [UnpackedFloat.le, compare_of_isNaN h]
    exact ⟨fun hle => absurd hle (by decide), fun hle => absurd hle.1 h⟩

theorem beq_iff (hf : 1 < f.exponentBits) {u v : UnpackedFloat} (hu : IsNumber f u)
    (hv : IsNumber f v) :
    u.beq v = true ↔ (u.isNaN = false ∧ v.isNaN = false) ∧ value f u = value f v := by
  by_cases h : u.isNaN = false ∧ v.isNaN = false
  · rw [UnpackedFloat.beq, compare_eq_some hf hu hv h.1 h.2, and_iff_right h, beq_iff_eq,
      Option.some_inj, compare_eq_iff_eq]
  · rw [UnpackedFloat.beq, compare_of_isNaN h]
    exact ⟨fun heq => absurd heq (by decide), fun heq => absurd heq.1 h⟩

theorem isNaN_of_value_ne_zero {u : UnpackedFloat} (h : value f u ≠ 0) : u.isNaN = false := by
  cases u with
  | notANumber => exact absurd rfl h
  | _ => rfl

/-- Numbers other than zero and NaN are determined by their values. -/
theorem eq_of_value_eq (hf : 1 < f.exponentBits) {u v : UnpackedFloat} (hu : IsNumber f u)
    (hv : IsNumber f v) (h : value f u = value f v) (h0 : value f u ≠ 0) : u = v := by
  have hcompare : u.compare v = some .eq := by
    rw [compare_eq_some hf hu hv (isNaN_of_value_ne_zero h0) (isNaN_of_value_ne_zero (h ▸ h0)),
      compare_eq_iff_eq.mpr h]
  have hlex {m n : ℕ} {e e' : ℤ} (h : (compare e e').then (compare m n) = .eq) :
      m = n ∧ e = e' := by
    rw [Ordering.then_eq_eq, compare_eq_iff_eq, compare_eq_iff_eq] at h
    exact ⟨h.2, h.1⟩
  match u, v with
  | .notANumber, _ => exact absurd rfl h0
  | .zero _, _ => exact absurd rfl h0
  | .infinity s, .infinity t =>
      cases s <;> cases t <;> first | rfl | cases hcompare
  | .infinity s, .notANumber => cases s <;> cases hcompare
  | .infinity s, .zero t => cases s <;> cases hcompare
  | .infinity s, .finite t n e' hn => cases s <;> cases hcompare
  | .finite s m e hm, .infinity t => cases s <;> cases t <;> cases hcompare
  | .finite s m e hm, .notANumber => cases s <;> cases hcompare
  | .finite s m e hm, .zero t => cases s <;> cases hcompare
  | .finite .positive m e hm, .finite .negative n e' hn => cases hcompare
  | .finite .negative m e hm, .finite .positive n e' hn => cases hcompare
  | .finite .positive m e hm, .finite .positive n e' hn =>
      obtain ⟨rfl, rfl⟩ := hlex (Option.some.inj hcompare)
      rfl
  | .finite .negative m e hm, .finite .negative n e' hn =>
      obtain ⟨rfl, rfl⟩ := hlex (Ordering.swap_inj.mp (Option.some.inj hcompare))
      rfl

/-! ## Order of bit patterns -/

/-- The bits of a number below its sign bit, read as a natural number. NaNs are left out. -/
def code (f : Format) : UnpackedFloat → ℕ
  | .zero _ | .notANumber => 0
  | .finite _ m e _ => (e - f.minExponent).toNat * 2 ^ f.mantissaBitsWithoutImplicit + m
  | .infinity _ => (2 ^ f.exponentBits - 1) * 2 ^ f.mantissaBitsWithoutImplicit

def signBit : UnpackedFloat → ℕ
  | .infinity s | .zero s | .finite s _ _ _ => s.toBitVec.toNat
  | .notANumber => 0

theorem toNat_pack {u : UnpackedFloat} (hu : IsNumber f u) (hnan : u.isNaN = false) :
    (pack f u).toNat =
      signBit u * 2 ^ f.exponentBits * 2 ^ f.mantissaBitsWithoutImplicit + code f u := by
  match u, hu with
  | .notANumber, _ => cases hnan
  | .zero s, _ =>
      rw [pack, packedZero, toNat_packComponents]
      rfl
  | .infinity s, _ =>
      rw [pack, packedInfinity, toNat_packComponents, BitVec.neg_one_eq_allOnes,
        BitVec.toNat_allOnes, add_mul]
      rfl
  | .finite s m e hm, ⟨⟨hlt, hmin, hfull⟩, hrange⟩ =>
      rw [pack_finite s hm hlt hmin, if_neg (not_le.mpr hrange)]
      simp only [signBit, code]
      split
      · next hle =>
        have hfits : (e - f.minExponent + 1).toNat + 1 < 2 ^ f.exponentBits := by
          rw [← not_le, overflows_iff hmin]
          exact not_le.mpr hrange
        have hwide : 2 ^ f.mantissaBits = 2 * 2 ^ f.mantissaBitsWithoutImplicit := by
          rw [Format.mantissaBits, add_comm, pow_succ']
        have hexponent : (e - f.minExponent + 1).toNat = (e - f.minExponent).toNat + 1 := by
          omega
        rw [toNat_packComponents, BitVec.toNat_ofNat, BitVec.toNat_ofNat,
          Nat.mod_eq_of_lt (by omega), Nat.mod_eq_sub_mod hle, Nat.mod_eq_of_lt (by omega),
          hexponent, add_mul, add_mul]
        omega
      · next hsmall =>
        have hmantissa : (BitVec.ofNat f.mantissaBitsWithoutImplicit m).toNat = m := by
          rw [BitVec.toNat_ofNat, Nat.mod_eq_of_lt (not_le.mp hsmall)]
        rw [toNat_packComponents, hmantissa, hfull.resolve_left hsmall]
        simp

theorem code_finite_lt {s t : Sign} {m : ℕ} {e : ℤ} {hm : 0 < m}
    (h : IsNumber f (.finite s m e hm)) : code f (.finite s m e hm) < code f (.infinity t) := by
  obtain ⟨⟨hlt, hmin, -⟩, hrange⟩ := h
  have hfits : (e - f.minExponent + 1).toNat + 1 < 2 ^ f.exponentBits := by
    rw [← not_le, overflows_iff hmin]
    exact not_le.mpr hrange
  have hwide : 2 ^ f.mantissaBits = 2 * 2 ^ f.mantissaBitsWithoutImplicit := by
    rw [Format.mantissaBits, add_comm, pow_succ']
  have hroom : (e - f.minExponent).toNat + 2 ≤ 2 ^ f.exponentBits - 1 := by omega
  calc (e - f.minExponent).toNat * 2 ^ f.mantissaBitsWithoutImplicit + m
      < ((e - f.minExponent).toNat + 2) * 2 ^ f.mantissaBitsWithoutImplicit := by
        rw [add_mul]
        omega
    _ ≤ (2 ^ f.exponentBits - 1) * 2 ^ f.mantissaBitsWithoutImplicit :=
        Nat.mul_le_mul_right _ hroom

theorem code_lt_of_lex {s t : Sign} {m n : ℕ} {e e' : ℤ} {hm : 0 < m} {hn : 0 < n}
    (h : IsCanonical f (.finite s m e hm)) (h' : IsCanonical f (.finite t n e' hn))
    (hlex : e < e' ∨ e = e' ∧ m < n) : code f (.finite s m e hm) < code f (.finite t n e' hn) := by
  obtain ⟨hlt, hmin, -⟩ := h
  obtain ⟨-, hmin', hfull'⟩ := h'
  simp only [code]
  rcases hlex with he | ⟨rfl, hmn⟩
  · have hfull : 2 ^ f.mantissaBitsWithoutImplicit ≤ n := hfull'.resolve_right (by omega)
    have hwide : 2 ^ f.mantissaBits = 2 * 2 ^ f.mantissaBitsWithoutImplicit := by
      rw [Format.mantissaBits, add_comm, pow_succ']
    have hstep : (e - f.minExponent).toNat + 1 ≤ (e' - f.minExponent).toNat := by omega
    have hmul := Nat.mul_le_mul_right (2 ^ f.mantissaBitsWithoutImplicit) hstep
    rw [add_mul] at hmul
    omega
  · omega

/-- **Magnitudes are ordered as their bits.** -/
theorem code_lt_code (hf : 1 < f.exponentBits) {u v : UnpackedFloat} (hu : IsNumber f u)
    (hv : IsNumber f v) (h : |value f u| < |value f v|) : code f u < code f v := by
  have hlarge : 0 < 2 ^ f.exponentBits - 1 := by
    have := Nat.one_lt_two_pow f.he.ne'
    omega
  have hcode : value f v ≠ 0 → 0 < code f v := by
    intro hv0
    match v with
    | .notANumber => exact absurd rfl hv0
    | .zero t => exact absurd rfl hv0
    | .infinity t => simp only [code]; positivity
    | .finite t n e' hn => exact Nat.add_pos_right _ hn
  match u, hu with
  | .notANumber, _ => exact hcode (abs_pos.mp ((abs_nonneg _).trans_lt h))
  | .zero s, _ => exact hcode (abs_pos.mp ((abs_nonneg _).trans_lt h))
  | .infinity s, _ =>
      have hlimit : |value f (.infinity s)| = limit f := by
        cases s
        · exact (abs_neg _).trans (abs_of_pos (limit_pos f))
        · exact abs_of_pos (limit_pos f)
      rw [hlimit] at h
      exact absurd h (not_lt.mpr (abs_value_le hf hv))
  | .finite s m e hm, hu =>
      match v, hv with
      | .notANumber, _ => exact absurd h (not_lt.mpr (abs_zero.trans_le (abs_nonneg _)))
      | .zero t, _ => exact absurd h (not_lt.mpr (abs_zero.trans_le (abs_nonneg _)))
      | .infinity t, _ => exact code_finite_lt hu
      | .finite t n e' hn, hv =>
          rw [value_finite, value_finite, abs_withSign s (by positivity),
            abs_withSign t (by positivity)] at h
          refine code_lt_of_lex hu.canonical hv.canonical ?_
          by_contra hlex
          rcases lt_trichotomy e e' with he | he | he
          · exact hlex (.inl he)
          · rcases (not_lt.mp fun hmn => hlex (.inr ⟨he, hmn⟩)).lt_or_eq with hmn | rfl
            · exact lt_asymm h (lt_of_lex hv.canonical.1 hv.canonical.2.1 hu.canonical.2.2
                (.inr ⟨he.symm, hmn⟩))
            · exact h.ne (by rw [he])
          · exact lt_asymm h (lt_of_lex hv.canonical.1 hv.canonical.2.1 hu.canonical.2.2 (.inl he))

theorem code_le {u : UnpackedFloat} (hu : IsNumber f u) :
    code f u ≤ (2 ^ f.exponentBits - 1) * 2 ^ f.mantissaBitsWithoutImplicit := by
  match u, hu with
  | .notANumber, _ => exact Nat.zero_le _
  | .zero s, _ => exact Nat.zero_le _
  | .infinity s, _ => exact le_rfl
  | .finite s m e hm, hu => exact (code_finite_lt (t := s) hu).le

/-- The sign bit tells on which side of zero a number is. -/
theorem signBit_cases (f : Format) {u : UnpackedFloat} (h : u.isNaN = false) :
    (signBit u = 0 ∧ 0 ≤ value f u) ∨ (signBit u = 1 ∧ value f u ≤ 0) := by
  have hpos := limit_pos f
  match u with
  | .notANumber => cases h
  | .zero .positive => exact .inl ⟨rfl, le_rfl⟩
  | .zero .negative => exact .inr ⟨rfl, le_rfl⟩
  | .infinity .positive => exact .inl ⟨rfl, hpos.le⟩
  | .infinity .negative => exact .inr ⟨rfl, neg_nonpos.mpr hpos.le⟩
  | .finite .positive m e hm =>
      refine .inl ⟨rfl, ?_⟩
      rw [value_finite, withSign]
      positivity
  | .finite .negative m e hm =>
      refine .inr ⟨rfl, ?_⟩
      rw [value_finite, withSign, neg_nonpos]
      positivity

end Crater.Rounding
