import Mathlib

/-!
# Rounding

A format of floating-point numbers lays a grid over the real line. Numbers of one size have a common
last place, and a real is rounded to the nearest multiple of the last place of its size, of two
equally near ones to the even one. What lies beyond the range of the format goes to `limit`, the
first power of two out of range, which stands for infinity.

Rounding is monotone and leaves the numbers of the grid alone. These two facts, `rounded_mono` and
`rounded_of_isOnGrid`, are all that proofs about computed numbers use.

The last section says which real a number stands for that core describes by mantissa and exponent. An
infinity has the value `limit` of its format, with its sign; a NaN has no value of its own and counts
as zero.
-/

namespace Crater.Rounding

open Float.Model (Format UnpackedFloat)
open Float.Model.UnpackedFloat (ExtendedMantissa Accuracy)

/-! ## To integers -/

/-- The integer nearest to a real, of two equally near ones the even one. -/
noncomputable def nearest (x : ℝ) : ℤ :=
  if Int.fract x < 1 / 2 ∨ Int.fract x = 1 / 2 ∧ Even ⌊x⌋ then ⌊x⌋ else ⌊x⌋ + 1

theorem floor_le_nearest (x : ℝ) : ⌊x⌋ ≤ nearest x := by
  unfold nearest
  split <;> omega

theorem nearest_le_floor_add_one (x : ℝ) : nearest x ≤ ⌊x⌋ + 1 := by
  unfold nearest
  split <;> omega

@[simp]
theorem nearest_intCast (k : ℤ) : nearest (k : ℝ) = k := by
  simp [nearest]

theorem nearest_mono {x y : ℝ} (h : x ≤ y) : nearest x ≤ nearest y := by
  rcases (Int.floor_mono h).lt_or_eq with hfloor | hfloor
  · have hx := nearest_le_floor_add_one x
    have hy := floor_le_nearest y
    omega
  · -- between two integers, what is rounded down stays below what is rounded up
    have hfract : Int.fract x ≤ Int.fract y := by
      rw [Int.fract, Int.fract, hfloor]
      linarith
    by_cases hdown : Int.fract y < 1 / 2 ∨ Int.fract y = 1 / 2 ∧ Even ⌊y⌋
    · have hx : Int.fract x < 1 / 2 ∨ Int.fract x = 1 / 2 ∧ Even ⌊x⌋ := by
        rw [hfloor]
        rcases hdown with hlt | ⟨heq, heven⟩
        · exact .inl (hfract.trans_lt hlt)
        · exact (hfract.trans_eq heq).lt_or_eq.imp id fun hx => ⟨hx, heven⟩
      rw [nearest, nearest, if_pos hx, if_pos hdown, hfloor]
    · have hx := nearest_le_floor_add_one x
      rw [show nearest y = ⌊y⌋ + 1 from if_neg hdown]
      omega

theorem nearest_neg (x : ℝ) : nearest (-x) = -nearest x := by
  rcases eq_or_ne (Int.fract x) 0 with hx | hx
  · obtain ⟨k, rfl⟩ : ∃ k : ℤ, x = k := ⟨⌊x⌋, by rw [Int.fract] at hx; linarith⟩
    rw [← Int.cast_neg, nearest_intCast, nearest_intCast]
  · -- off the integers, the fraction is turned round and the parity of the floor changes
    have hfloor : ⌊-x⌋ = -⌊x⌋ - 1 := by
      have hceil : ⌈x⌉ = ⌊x⌋ + 1 := Int.ceil_eq_floor_add_one_iff_notMem x |>.mpr (by
        rwa [← Int.fract_eq_zero_iff])
      rw [Int.floor_neg, hceil]
      ring
    have hfract : Int.fract (-x) = 1 - Int.fract x := Int.fract_neg hx
    have hparity : Even (-⌊x⌋ - 1) ↔ ¬Even ⌊x⌋ := by
      rw [Int.even_sub_one, even_neg]
    rw [nearest, nearest, hfract, hfloor]
    rcases lt_trichotomy (Int.fract x) (1 / 2) with h | h | h
    · rw [if_neg (by rintro (h' | ⟨h', -⟩) <;> linarith), if_pos (.inl h)]
      ring
    · by_cases heven : Even ⌊x⌋
      · rw [if_neg (by rintro (h' | ⟨-, h'⟩); exacts [by linarith, hparity.mp h' heven]),
          if_pos (.inr ⟨h, heven⟩)]
        ring
      · rw [if_pos (.inr ⟨by linarith, hparity.mpr heven⟩),
          if_neg (by rintro (h' | ⟨-, h'⟩); exacts [by linarith, heven h'])]
        ring
    · rw [if_pos (.inl (by linarith)), if_neg (by rintro (h' | ⟨h', -⟩) <;> linarith)]
      ring

theorem abs_nearest_sub_le (x : ℝ) : |nearest x - x| ≤ 1 / 2 := by
  have hsplit := Int.floor_add_fract x
  have hnonneg := Int.fract_nonneg x
  have hlt := Int.fract_lt_one x
  unfold nearest
  split
  · next hdown =>
    have hhalf : Int.fract x ≤ 1 / 2 := by
      rcases hdown with h | ⟨h, -⟩ <;> linarith
    rw [abs_le]
    constructor <;> linarith
  · next hup =>
    have hhalf : 1 / 2 ≤ Int.fract x := not_lt.mp fun h => hup (.inl h)
    rw [abs_le]
    push_cast
    constructor <;> linarith

/-! ## To a grid -/

variable {f : Format} {x y : ℝ}

/-- The exponent of the last place of numbers of the size of `x`. -/
noncomputable def lastPlace (f : Format) (x : ℝ) : ℤ := f.targetExponent (Int.log 2 |x| + 1)

/-- The number nearest to `x` among the multiples of its last place. -/
noncomputable def roundTo (f : Format) (x : ℝ) : ℝ :=
  nearest (x / 2 ^ lastPlace f x) * 2 ^ lastPlace f x

/-- A number with few enough digits for the format, however large. -/
def IsOnGrid (f : Format) (x : ℝ) : Prop :=
  ∃ k e : ℤ, |k| < 2 ^ f.mantissaBits ∧ f.minExponent ≤ e ∧ x = k * 2 ^ e

theorem lastPlace_neg (f : Format) (x : ℝ) : lastPlace f (-x) = lastPlace f x := by
  rw [lastPlace, lastPlace, abs_neg]

theorem minExponent_le_lastPlace (f : Format) (x : ℝ) : f.minExponent ≤ lastPlace f x :=
  le_max_right _ _

theorem lastPlace_mono (hx : x ≠ 0) (h : |x| ≤ |y|) : lastPlace f x ≤ lastPlace f y := by
  have hlog := Int.log_mono_right (b := 2) (abs_pos.mpr hx) h
  simp only [lastPlace, Format.targetExponent]
  omega

/-- A number has as many digits as its format allows, or fewer. -/
theorem abs_lt_two_zpow (f : Format) (x : ℝ) : |x| < 2 ^ (lastPlace f x + f.mantissaBits) := by
  refine (Int.lt_zpow_succ_log_self (b := 2) (by norm_num) |x|).trans_le ?_
  refine zpow_le_zpow_right₀ (by norm_num) ?_
  simp only [lastPlace, Format.targetExponent]
  omega

/-- Unless its last place is the last place of all, a number has as many digits as its
format allows. -/
theorem two_zpow_le_abs (hx : x ≠ 0) (h : lastPlace f x ≠ f.minExponent) :
    (2 : ℝ) ^ (lastPlace f x + f.mantissaBits - 1) ≤ |x| := by
  refine le_trans (zpow_le_zpow_right₀ (by norm_num) ?_)
    (Int.zpow_log_le_self (b := 2) (by norm_num) (abs_pos.mpr hx))
  simp only [lastPlace, Format.targetExponent] at h ⊢
  omega

@[simp]
theorem roundTo_zero (f : Format) : roundTo f 0 = 0 := by
  simp [roundTo, nearest]

theorem roundTo_neg (f : Format) (x : ℝ) : roundTo f (-x) = -roundTo f x := by
  rw [roundTo, roundTo, lastPlace_neg, neg_div, nearest_neg, Int.cast_neg, neg_mul]

theorem roundTo_nonneg (hx : 0 ≤ x) : 0 ≤ roundTo f x := by
  have h : nearest (0 : ℤ) ≤ nearest (x / 2 ^ lastPlace f x) :=
    nearest_mono (by rw [Int.cast_zero]; positivity)
  rw [nearest_intCast] at h
  have h' : (0 : ℝ) ≤ nearest (x / 2 ^ lastPlace f x) := by exact_mod_cast h
  rw [roundTo]
  positivity

/-- Multiples of a last place that is not left of the last place of their size stay as they are. -/
theorem roundTo_of_multiple {k e : ℤ} (hx : x = k * 2 ^ e) (he : lastPlace f x ≤ e) :
    roundTo f x = x := by
  rw [roundTo]
  generalize lastPlace f x = place at he ⊢
  obtain ⟨n, rfl⟩ := Int.le.dest he
  have hdiv : x / 2 ^ place = ((k * 2 ^ n : ℤ) : ℝ) := by
    rw [div_eq_iff (by positivity), hx, zpow_add₀ (by norm_num), zpow_natCast]
    push_cast
    ring
  rw [hdiv, nearest_intCast, ← hdiv, div_mul_cancel₀ _ (by positivity)]

/-- Large numbers of the grid are integers. -/
theorem IsOnGrid.exists_eq_intCast (h : IsOnGrid f x)
    (hx : 2 ^ f.mantissaBitsWithoutImplicit ≤ |x|) : ∃ k : ℤ, x = k := by
  obtain ⟨k, e, hk, -, rfl⟩ := h
  have hk' : |(k : ℝ)| < 2 ^ f.mantissaBits := by exact_mod_cast hk
  rcases lt_or_ge e 0 with he | he
  · -- otherwise at least one binary digit stands behind the point
    have hpos : (0 : ℝ) < 2 ^ e := by positivity
    refine absurd hx (not_le.mpr ?_)
    calc |(k : ℝ) * 2 ^ e| = |(k : ℝ)| * 2 ^ e := by rw [abs_mul, abs_of_pos hpos]
      _ < 2 ^ f.mantissaBits * 2 ^ e := by gcongr
      _ ≤ 2 ^ f.mantissaBits * 2 ^ (-1 : ℤ) := by gcongr <;> [norm_num; omega]
      _ = 2 ^ f.mantissaBitsWithoutImplicit := by
          rw [Format.mantissaBits, add_comm, pow_succ, zpow_neg_one]
          field_simp
  · obtain ⟨n, rfl⟩ := Int.eq_ofNat_of_zero_le he
    exact ⟨k * 2 ^ n, by push_cast; rw [zpow_natCast]⟩

theorem lastPlace_le_of_abs_lt {e : ℤ} (hx : x ≠ 0) (he : f.minExponent ≤ e)
    (h : |x| < 2 ^ (e + f.mantissaBits)) : lastPlace f x ≤ e := by
  have hlog := (Int.lt_zpow_iff_log_lt (b := 2) (by norm_num) (abs_pos.mpr hx)).mp h
  simp only [lastPlace, Format.targetExponent]
  omega

theorem roundTo_of_isOnGrid (h : IsOnGrid f x) : roundTo f x = x := by
  obtain ⟨k, e, hk, he, hx⟩ := h
  rcases eq_or_ne x 0 with hzero | hzero
  · rw [hzero, roundTo_zero]
  · refine roundTo_of_multiple hx (lastPlace_le_of_abs_lt hzero he ?_)
    have hk' : |(k : ℝ)| < 2 ^ f.mantissaBits := by exact_mod_cast hk
    rw [hx, abs_mul, abs_of_pos (by positivity : (0 : ℝ) < 2 ^ e), add_comm,
      zpow_add₀ (by norm_num), zpow_natCast]
    gcongr

/-- Rounded to its last place, a number has at most one digit more than its format allows. -/
theorem nearest_scaled_le (f : Format) (x : ℝ) :
    nearest (x / 2 ^ lastPlace f x) ≤ 2 ^ f.mantissaBits := by
  have hx := (le_abs_self x).trans (abs_lt_two_zpow f x).le
  rw [add_comm, zpow_add₀ (by norm_num), zpow_natCast, ← div_le_iff₀ (by positivity)] at hx
  rw [← nearest_intCast (2 ^ f.mantissaBits)]
  exact nearest_mono (by exact_mod_cast hx)

theorem le_nearest_scaled (hx : 0 < x) (h : lastPlace f x ≠ f.minExponent) :
    2 ^ f.mantissaBitsWithoutImplicit ≤ nearest (x / 2 ^ lastPlace f x) := by
  have hx := two_zpow_le_abs hx.ne' h
  rw [abs_of_pos ‹0 < x›, show lastPlace f x + f.mantissaBits - 1 =
    f.mantissaBitsWithoutImplicit + lastPlace f x by simp [Format.mantissaBits]; ring,
    zpow_add₀ (by norm_num), zpow_natCast, ← le_div_iff₀ (by positivity)] at hx
  rw [← nearest_intCast (2 ^ f.mantissaBitsWithoutImplicit)]
  exact nearest_mono (by exact_mod_cast hx)

/-- Numbers of one size are rounded to one grid; of two numbers of different size, a power of two
lies between what they are rounded to. -/
theorem roundTo_mono_of_pos (hx : 0 < x) (h : x ≤ y) : roundTo f x ≤ roundTo f y := by
  have habs : |x| ≤ |y| := abs_le_abs_of_nonneg hx.le h
  rcases (lastPlace_mono (f := f) hx.ne' habs).eq_or_lt with hplace | hplace
  · rw [roundTo, roundTo, hplace]
    gcongr
    exact nearest_mono (by gcongr)
  · have hbelow : (nearest (x / 2 ^ lastPlace f x) : ℝ) ≤ 2 ^ f.mantissaBits := by
      exact_mod_cast nearest_scaled_le f x
    have habove : (2 : ℝ) ^ f.mantissaBitsWithoutImplicit ≤ nearest (y / 2 ^ lastPlace f y) := by
      exact_mod_cast le_nearest_scaled (hx.trans_le h)
        ((minExponent_le_lastPlace f x).trans_lt hplace).ne'
    have hbetween : (2 : ℝ) ^ f.mantissaBits * 2 ^ lastPlace f x ≤
        2 ^ f.mantissaBitsWithoutImplicit * 2 ^ lastPlace f y := by
      rw [← zpow_natCast, ← zpow_natCast, ← zpow_add₀ (by norm_num), ← zpow_add₀ (by norm_num)]
      refine zpow_le_zpow_right₀ (by norm_num) ?_
      simp only [Format.mantissaBits]
      omega
    calc roundTo f x ≤ 2 ^ f.mantissaBits * 2 ^ lastPlace f x := by rw [roundTo]; gcongr
      _ ≤ 2 ^ f.mantissaBitsWithoutImplicit * 2 ^ lastPlace f y := hbetween
      _ ≤ roundTo f y := by rw [roundTo]; gcongr

theorem roundTo_mono (f : Format) (h : x ≤ y) : roundTo f x ≤ roundTo f y := by
  rcases lt_trichotomy x 0 with hx | hx | hx
  · rcases lt_or_ge y 0 with hy | hy
    · have := roundTo_mono_of_pos (f := f) (neg_pos.mpr hy) (neg_le_neg h)
      rw [roundTo_neg, roundTo_neg] at this
      exact neg_le_neg_iff.mp this
    · have := roundTo_nonneg (f := f) (neg_pos.mpr hx).le
      rw [roundTo_neg] at this
      exact (neg_nonneg.mp this).trans (roundTo_nonneg hy)
  · rw [hx, roundTo_zero]
    exact roundTo_nonneg (hx.symm.trans_le h)
  · exact roundTo_mono_of_pos hx h

/-- A number is moved by at most half of its last place. -/
theorem abs_roundTo_sub_le (f : Format) (x : ℝ) : |roundTo f x - x| ≤ 2 ^ lastPlace f x / 2 := by
  have hpos : (0 : ℝ) < 2 ^ lastPlace f x := by positivity
  have hscaled := abs_nearest_sub_le (x / 2 ^ lastPlace f x)
  have hsplit : roundTo f x - x =
      (nearest (x / 2 ^ lastPlace f x) - x / 2 ^ lastPlace f x) * 2 ^ lastPlace f x := by
    rw [sub_mul, div_mul_cancel₀ _ hpos.ne', roundTo]
  rw [hsplit, abs_mul, abs_of_pos hpos]
  calc |(nearest (x / 2 ^ lastPlace f x) : ℝ) - x / 2 ^ lastPlace f x| * 2 ^ lastPlace f x
      ≤ 1 / 2 * 2 ^ lastPlace f x := by gcongr
    _ = 2 ^ lastPlace f x / 2 := by ring

/-- Numbers of the grid are multiples of the last place of all. -/
theorem IsOnGrid.exists_multiple (h : IsOnGrid f x) : ∃ k : ℤ, x = k * 2 ^ f.minExponent := by
  obtain ⟨k, e, -, he, rfl⟩ := h
  obtain ⟨n, rfl⟩ := Int.le.dest he
  refine ⟨k * 2 ^ n, ?_⟩
  rw [zpow_add₀ (by norm_num), zpow_natCast]
  push_cast
  ring

/-! ## Within a range -/

/-- The first power of two beyond the range of a format. -/
noncomputable def limit (f : Format) : ℝ := 2 ^ 2 ^ (f.exponentBits - 1)

/-- A real as the format has it: the nearest number of the grid, or plus or minus `limit` if that
is out of range. -/
noncomputable def rounded (f : Format) (x : ℝ) : ℝ := max (-limit f) (min (limit f) (roundTo f x))

theorem limit_pos (f : Format) : 0 < limit f := by
  unfold limit
  positivity

theorem isOnGrid_limit (f : Format) : IsOnGrid f (limit f) := by
  refine ⟨1, (2 ^ (f.exponentBits - 1) : ℕ), ?_, ?_, ?_⟩
  · have hm := f.hm
    rw [abs_one, Format.mantissaBits]
    exact one_lt_pow₀ (by norm_num) (by omega)
  · have hpow : 0 < 2 ^ (f.exponentBits - 1) := by positivity
    have hm := f.hm
    simp only [Format.minExponent, Format.mantissaBits]
    push_cast
    have : (0 : ℤ) < 2 ^ (f.exponentBits - 1) := by exact_mod_cast hpow
    omega
  · rw [limit, zpow_natCast]
    push_cast
    ring

theorem IsOnGrid.neg (h : IsOnGrid f x) : IsOnGrid f (-x) := by
  obtain ⟨k, e, hk, he, rfl⟩ := h
  exact ⟨-k, e, by rwa [abs_neg], he, by push_cast; ring⟩

theorem isOnGrid_zero (f : Format) : IsOnGrid f 0 :=
  ⟨0, f.minExponent, by simp, le_rfl, by simp⟩

theorem rounded_mono (f : Format) (h : x ≤ y) : rounded f x ≤ rounded f y :=
  max_le_max_left _ (min_le_min_left _ (roundTo_mono f h))

/-- A number of the grid that is in range is its own rounding. -/
theorem rounded_of_isOnGrid (h : IsOnGrid f x) (hlimit : |x| ≤ limit f) : rounded f x = x := by
  rw [abs_le] at hlimit
  rw [rounded, roundTo_of_isOnGrid h, min_eq_right hlimit.2, max_eq_right hlimit.1]

/-- **A loss shows** if the number that suffers it is not too large for it. -/
theorem rounded_sub_lt {p a : ℝ} (hp : IsOnGrid f p) (ha : IsOnGrid f a) (hp0 : 0 < p)
    (ha0 : 0 < a) (h : p < 2 ^ f.mantissaBits * a) : rounded f (p - a) < p := by
  have hlimit := limit_pos f
  have hlt : roundTo f (p - a) < p := by
    rcases le_or_gt (p - a) 0 with hneg | hpos
    · exact (roundTo_mono f hneg).trans_lt (by rwa [roundTo_zero])
    · have hplace : lastPlace f (p - a) ≤ lastPlace f p :=
        lastPlace_mono hpos.ne' (abs_le_abs_of_nonneg hpos.le (by linarith))
      by_cases hleast : lastPlace f p = f.minExponent
      · -- the difference is a multiple of the last place of all, and stays as it is
        obtain ⟨k, hk⟩ := hp.exists_multiple
        obtain ⟨n, hn⟩ := ha.exists_multiple
        have hexact : roundTo f (p - a) = p - a := by
          refine roundTo_of_multiple (k := k - n) (e := f.minExponent) ?_ (hplace.trans hleast.le)
          rw [hk, hn]
          push_cast
          ring
        linarith
      · have hlow := two_zpow_le_abs hp0.ne' hleast
        have herror := (abs_le.mp (abs_roundTo_sub_le f (p - a))).2
        have hplace' : (2 : ℝ) ^ lastPlace f (p - a) ≤ 2 ^ lastPlace f p :=
          zpow_le_zpow_right₀ (by norm_num) hplace
        have hhalf : (2 : ℝ) ^ lastPlace f p / 2 < a := by
          rw [abs_of_pos hp0, add_sub_assoc, add_comm, zpow_add₀ (by norm_num),
            zpow_sub₀ (by norm_num), zpow_natCast, zpow_one] at hlow
          have hwide : (0 : ℝ) < 2 ^ f.mantissaBits := by positivity
          have hscaled : (2 : ℝ) ^ f.mantissaBits * (2 ^ lastPlace f p / 2) < 2 ^ f.mantissaBits * a := by
            calc (2 : ℝ) ^ f.mantissaBits * (2 ^ lastPlace f p / 2)
                = 2 ^ f.mantissaBits / 2 * 2 ^ lastPlace f p := by ring
              _ ≤ p := hlow
              _ < 2 ^ f.mantissaBits * a := h
          exact lt_of_mul_lt_mul_left hscaled hwide.le
        linarith
  rw [rounded, max_lt_iff]
  exact ⟨by linarith, (min_le_right _ _).trans_lt hlt⟩

/-! ## Mantissas and exponents -/

/-- What a number is worth whose exponent need not be in range. -/
noncomputable def value (f : Format) : UnpackedFloat → ℝ
  | .infinity .positive => limit f
  | .infinity .negative => -limit f
  | .notANumber | .zero _ => 0
  | .finite s m e _ => (s.apply m : ℤ) * 2 ^ e

/-- What a mantissa with residual bits says of a real: its integral part is the mantissa, the round bit
tells whether the fraction reaches one half, and the sticky bit whether there is anything else. -/
def Represents (em : ExtendedMantissa) (x : ℝ) : Prop :=
  ∃ r : ℝ, 0 ≤ r ∧ r < 1 ∧ x = em.mantissa + r ∧ (em.roundBit = true ↔ 1 / 2 ≤ r) ∧
    (em.stickyBit = true ↔ r ≠ 0 ∧ r ≠ 1 / 2)

/-- The real that a mantissa of known accuracy stands for. -/
def Denotes (m : ℕ) (e : ℤ) (accuracy : Accuracy) (x : ℝ) : Prop :=
  Represents (.ofMantissaAndAccuracy m accuracy) (x / 2 ^ e)

end Crater.Rounding
