import Crater.Proofs.Doubles
import Crater.Ray.March

/-!
# Order of bit patterns

The bit patterns of singles and doubles as natural numbers. Positive singles are ordered as their
bits, and `rank` puts all doubles in the order of their values. A sum with a fixed number therefore
never leads back, and it leads on unless it is absorbed.
-/

namespace Crater

open Float.Model (Format UnpackedFloat)
open Rounding Numeral

namespace Single

variable {x y : Float32}

theorem toNat_toBits (h : 0 < real x) : x.toBits.toNat = code .binary32 (unpack x) := by
  have hnan := isNaN_of_real_ne_zero h.ne'
  have hpack := toNat_pack (isNumber_unpack x) hnan
  have hbits : UnpackedFloat.pack .binary32 (unpack x) = x.toBits.toBitVec :=
    pack_unpack (by decide) x.toModel.valid
  have hsign : signBit (unpack x) = 0 := by
    rcases signBit_cases .binary32 hnan with ⟨hsign, -⟩ | ⟨-, hneg⟩
    · exact hsign
    · exact absurd h (not_lt.mpr hneg)
  rw [show (Numeral.format Float32) = .binary32 from rfl, hbits, hsign] at hpack
  rw [← UInt32.toNat_toBitVec, hpack, zero_mul, zero_mul, zero_add]

theorem toBits_lt_toBits (hx : 0 < real x) (h : real x < real y) : x.toBits < y.toBits := by
  rw [UInt32.lt_iff_toNat_lt, toNat_toBits hx, toNat_toBits (hx.trans h)]
  refine code_lt_code (by decide) (isNumber_unpack x) (isNumber_unpack y) ?_
  show |real x| < |real y|
  rwa [abs_of_pos hx, abs_of_pos (hx.trans h)]

end Single

namespace Double

variable {x y : Float}

theorem toNat_toBits (h : isNaN x = false) :
    x.toBits.toNat = signBit (unpack x) * 2 ^ 63 + code .binary64 (unpack x) := by
  have hpack := toNat_pack (isNumber_unpack x) h
  have hbits : UnpackedFloat.pack .binary64 (unpack x) = x.toBits.toBitVec :=
    pack_unpack (by decide) x.toModel.valid
  rw [show (Numeral.format Float) = .binary64 from rfl, hbits] at hpack
  rw [← UInt64.toNat_toBitVec, hpack, mul_assoc, ← pow_add]
  rfl

theorem code_lt (x : Float) : code .binary64 (unpack x) + 1 < 2 ^ 63 := by
  have hle := code_le (isNumber_unpack x)
  exact (Nat.add_le_add_right hle 1).trans_lt (by decide)

/-- The rank of a double counts up from the middle for positive numbers, and down for negative
ones. -/
theorem toNat_rank (h : isNaN x = false) :
    (rank x).toNat = if signBit (unpack x) = 0 then 2 ^ 63 + code .binary64 (unpack x)
      else 2 ^ 63 - 1 - code .binary64 (unpack x) := by
  have hbits := toNat_toBits h
  have hcode := code_lt x
  rw [rank]
  rcases signBit_cases .binary64 h with ⟨hsign, -⟩ | ⟨hsign, -⟩
  · rw [hsign, zero_mul, zero_add] at hbits
    rw [if_pos hsign, if_pos (by rw [UInt64.lt_iff_toNat_lt, hbits]; exact (Nat.lt_of_succ_lt hcode)),
      UInt64.toNat_or, hbits, Nat.or_comm]
    exact (Nat.two_pow_add_eq_or_of_lt (Nat.lt_of_succ_lt hcode) 1).symm
  · rw [hsign, one_mul] at hbits
    have hlarge : ¬ x.toBits < 0x8000000000000000 := by
      rw [UInt64.lt_iff_toNat_lt, hbits, not_lt]
      exact Nat.le_add_right _ _
    have hnot : (~~~x.toBits).toNat = 2 ^ 64 - 1 - x.toBits.toNat := UInt64.toNat_not x.toBits
    rw [if_neg hlarge, if_neg (by omega), hnot, hbits]
    omega

/-- **Ranks are ordered as values.** -/
theorem rank_lt_rank (hx : isNaN x = false) (hy : isNaN y = false) (h : real x < real y) :
    rank x < rank y := by
  have hx' := code_lt x
  have hy' := code_lt y
  rw [UInt64.lt_iff_toNat_lt, toNat_rank hx, toNat_rank hy]
  rcases signBit_cases .binary64 hx with ⟨hsx, hrx⟩ | ⟨hsx, hrx⟩
  · rcases signBit_cases .binary64 hy with ⟨hsy, hry⟩ | ⟨hsy, hry⟩
    · have hcode : code .binary64 (unpack x) < code .binary64 (unpack y) := by
        refine code_lt_code (by decide) (isNumber_unpack x) (isNumber_unpack y) ?_
        rw [abs_of_nonneg hrx, abs_of_nonneg hry]
        exact h
      rw [if_pos hsx, if_pos hsy]
      omega
    · exact absurd h (not_lt.mpr (hry.trans hrx))
  · rcases signBit_cases .binary64 hy with ⟨hsy, hry⟩ | ⟨hsy, hry⟩
    · rw [if_neg (by omega), if_pos hsy]
      omega
    · have hcode : code .binary64 (unpack y) < code .binary64 (unpack x) := by
        refine code_lt_code (by decide) (isNumber_unpack y) (isNumber_unpack x) ?_
        rw [abs_of_nonpos hrx, abs_of_nonpos hry]
        exact neg_lt_neg h
      rw [if_neg (by omega), if_neg (by omega)]
      omega

theorem axisRoom_of_isNaN {advance : Float} (h : isNaN x = true) : axisRoom advance x = 0 := by
  rw [axisRoom, if_pos (show x.isNaN = true from h)]

theorem axisRoom_pos {advance : Float} (h : isNaN x = false) : 0 < axisRoom advance x := by
  have hcode := code_le (isNumber_unpack x)
  have hcode' : code .binary64 (unpack x) < 2 ^ 63 - 1 := hcode.trans_lt (by decide)
  have hrank := toNat_rank h
  have hnot : (~~~rank x).toNat = 2 ^ 64 - 1 - (rank x).toNat := UInt64.toNat_not (rank x)
  rw [axisRoom, if_neg (by rw [show x.isNaN = false from h]; decide), UInt64.lt_iff_toNat_lt]
  split <;> split at hrank <;> simp only [UInt64.toNat_zero] <;> omega

theorem axisRoom_of_neg {advance : Float} (h : isNaN x = false) (ha : advance < 0.0) :
    axisRoom advance x = rank x := by
  rw [axisRoom, if_neg (by rw [show x.isNaN = false from h]; decide), if_pos ha]

theorem axisRoom_of_not_neg {advance : Float} (h : isNaN x = false) (ha : ¬ advance < 0.0) :
    axisRoom advance x = ~~~rank x := by
  rw [axisRoom, if_neg (by rw [show x.isNaN = false from h]; decide), if_neg ha]

theorem not_lt_not {a b : UInt64} (h : a < b) : ~~~b < ~~~a := by
  rw [UInt64.lt_iff_toNat_lt] at h ⊢
  have hb := b.toNat_lt
  rw [UInt64.toNat_not, UInt64.toNat_not]
  simp only [UInt64.size]
  omega

/-- A zero to which a zero is added stays the same or becomes the positive one. -/
theorem add_zeros {advance : Float} (hx : isNaN x = false) (hx0 : real x = 0)
    (ha : isNaN advance = false) (ha0 : real advance = 0) :
    x + advance = x ∨ rank x < rank (x + advance) := by
  obtain ⟨s, hs⟩ := exists_unpack_eq_zero hx hx0
  obtain ⟨t, ht⟩ := exists_unpack_eq_zero ha ha0
  have hsum : unpack (x + advance) = UnpackedFloat.add .binary64 (.zero s) (.zero t) := by
    rw [unpack_add, hs, ht]
    cases s <;> cases t <;> exact unpack_pack ⟨trivial, trivial⟩
  cases s with
  | positive =>
      left
      apply unpack_injective
      rw [hsum, hs]
      cases t <;> rfl
  | negative =>
      cases t with
      | negative =>
          left
          apply unpack_injective
          rw [hsum, hs]
          rfl
      | positive =>
          right
          have hnan : isNaN (x + advance) = false := by
            rw [isNaN, hsum]
            rfl
          rw [UInt64.lt_iff_toNat_lt, toNat_rank hx, toNat_rank hnan, hs, hsum]
          decide

/-- **A number that is moved gets closer to the end** of the line along which it is moved, if it is
moved at all. -/
theorem axisRoom_add (advance x : Float) :
    x + advance = x ∨ axisRoom advance (x + advance) < axisRoom advance x := by
  cases hx : isNaN x with
  | true =>
      have hsum : isNaN (x + advance) = true := by
        by_contra h
        rw [(isNaN_of_isNaN_add (Bool.eq_false_of_not_eq_true h)).1] at hx
        cases hx
      exact .inl (eq_of_isNaN hsum hx)
  | false =>
      cases hsum : isNaN (x + advance) with
      | true =>
          right
          rw [axisRoom_of_isNaN hsum]
          exact axisRoom_pos hx
      | false =>
          have hadvance : isNaN advance = false := (isNaN_of_isNaN_add hsum).2
          by_cases hneg : advance < 0.0
          · have hneg' : real advance < 0 := by
              rw [Numeral.lt_iff, real_zero] at hneg
              exact hneg.2
            rw [axisRoom_of_neg hx hneg, axisRoom_of_neg hsum hneg]
            rcases (real_add_le hsum hneg'.le).lt_or_eq with hlt | heq
            · exact .inr (rank_lt_rank hsum hx hlt)
            · have hx0 : real x ≠ 0 := by
                intro hx0
                have hvalue := real_zero_add hx hx0 hadvance
                linarith
              exact .inl (eq_of_real_eq heq (by rwa [heq]))
          · have hnonneg : 0 ≤ real advance := by
              by_contra h
              exact hneg (Numeral.lt_iff.mpr ⟨⟨hadvance, rfl⟩, by rw [real_zero]; exact not_le.mp h⟩)
            rw [axisRoom_of_not_neg hx hneg, axisRoom_of_not_neg hsum hneg]
            rcases (le_real_add hsum hnonneg).lt_or_eq with hlt | heq
            · exact .inr (not_lt_not (rank_lt_rank hx hsum hlt))
            · by_cases hx0 : real x = 0
              · have hvalue := real_zero_add hx hx0 hadvance
                exact (add_zeros hx hx0 hadvance (by linarith)).imp id not_lt_not
              · exact .inl (eq_of_real_eq heq.symm (by rwa [← heq]))

end Double

end Crater
