import Crater.Detonation
import Crater.Proofs.Doubles
import Crater.Proofs.Settings

/-!
# Reach

A blast looks for entities in a box before it asks how far away they are. The
feet of an entity that it reaches are closer to the centre than the diameter on
every axis, and a body holds its own feet, so a box that spans the diameter
misses nobody.

Distances are computed, not measured, but the diameter has so few digits that
its square is exact. Hence no rounding of a root brings an entity nearer than
the diameter if it is not. The search box spans the diameter if the margin makes
up for both corners being rounded down. A margin below one need not.
-/

namespace Crater

open Rounding Numeral

/-! ## Lengths -/

/-- Whether two points differ by less than `reach` on every axis. -/
structure Vec3.IsNear (p q : Vec3) (reach : ℝ) : Prop where
  x : |real p.x - real q.x| < reach
  y : |real p.y - real q.y| < reach
  z : |real p.z - real q.z| < reach

namespace Double

variable {a p q : Float}

theorem le_real_square {b : Float} (hnan : isNaN (p * p) = false) (ha : 0 ≤ real a)
    (hb : real b = real a * real a) (h : real a ≤ |real p|) : real b ≤ real (p * p) := by
  refine le_real_mul_self (isNaN_of_isNaN_mul hnan).1 ?_
  rw [hb, ← abs_mul_abs_self (real p)]
  exact mul_self_le_mul_self ha h

/-- A difference that is at least `a` is still so when it is rounded. -/
theorem le_abs_real_sub (hp : isFinite p = true) (hq : isFinite q = true)
    (h : real a ≤ |real p - real q|) : real a ≤ |real (p - q)| := by
  have hsub := isRounded_sub hp hq
  rw [le_abs] at h ⊢
  rcases h with h | h
  · exact .inl (hsub.le_real h)
  · right
    have hneg : real (p - q) ≤ real (-a) := hsub.real_le (by rw [real_neg]; linarith)
    rw [real_neg] at hneg
    linarith

end Double

namespace Vec3

variable {v p q : Vec3} {a : Float}

/-- **A vector is as long as it is on any axis**, if that has an exact square. -/
theorem le_real_length (hnan : isNaN v.length = false) (ha : 0 ≤ real a)
    (hsquare : ∃ b : Float, real b = real a * real a)
    (h : real a ≤ |real v.x| ∨ real a ≤ |real v.y| ∨ real a ≤ |real v.z|) :
    real a ≤ real v.length := by
  obtain ⟨b, hb⟩ := hsquare
  have hxyz : isNaN (v.x * v.x + v.y * v.y + v.z * v.z) = false := Double.isNaN_of_isNaN_sqrt hnan
  obtain ⟨hxy, hz⟩ := isNaN_of_isNaN_add hxyz
  obtain ⟨hx, hy⟩ := isNaN_of_isNaN_add hxy
  have hplane : real (v.x * v.x + v.y * v.y) ≤ real v.lengthSquared :=
    le_real_add hxyz (real_mul_self_nonneg v.z)
  have hplane0 : 0 ≤ real (v.x * v.x + v.y * v.y) :=
    real_add_nonneg (real_mul_self_nonneg v.x) (real_mul_self_nonneg v.y)
  refine Double.le_real_sqrt hnan ha ?_
  rw [← hb]
  rcases h with h | h | h
  · calc real b ≤ real (v.x * v.x) := Double.le_real_square hx ha hb h
      _ ≤ real (v.x * v.x + v.y * v.y) := le_real_add hxy (real_mul_self_nonneg v.y)
      _ ≤ real v.lengthSquared := hplane
  · calc real b ≤ real (v.y * v.y) := Double.le_real_square hy ha hb h
      _ ≤ real (v.x * v.x + v.y * v.y) := le_real_add_left hxy (real_mul_self_nonneg v.x)
      _ ≤ real v.lengthSquared := hplane
  · calc real b ≤ real (v.z * v.z) := Double.le_real_square hz ha hb h
      _ ≤ real v.lengthSquared := le_real_add_left hxyz hplane0

theorem isFinite_iff : v.isFinite = true ↔
    (Numeral.isFinite v.x = true ∧ Numeral.isFinite v.y = true) ∧ Numeral.isFinite v.z = true := by
  rw [isFinite, Bool.and_eq_true, Bool.and_eq_true]
  rfl

/-- Points at a distance below `a` are near each other. -/
theorem isNear_of_not_le (hp : p.isFinite = true) (hq : q.isFinite = true) (ha : 0 ≤ real a)
    (hsquare : ∃ b : Float, real b = real a * real a) (hnan : isNaN (p.distance q) = false)
    (h : real (p.distance q) < real a) : p.IsNear q (real a) := by
  obtain ⟨⟨hpx, hpy⟩, hpz⟩ := isFinite_iff.mp hp
  obtain ⟨⟨hqx, hqy⟩, hqz⟩ := isFinite_iff.mp hq
  have hlength := le_real_length (v := p - q) hnan ha hsquare
  constructor
  · by_contra hfar
    exact absurd (hlength (.inl (Double.le_abs_real_sub hpx hqx (not_lt.mp hfar)))) (not_le.mpr h)
  · by_contra hfar
    exact absurd (hlength (.inr (.inl (Double.le_abs_real_sub hpy hqy (not_lt.mp hfar)))))
      (not_le.mpr h)
  · by_contra hfar
    exact absurd (hlength (.inr (.inr (Double.le_abs_real_sub hpz hqz (not_lt.mp hfar)))))
      (not_le.mpr h)

end Vec3

/-! ## The diameter -/

namespace Explosion

variable (explosion : Explosion)

theorem isFinite_radius : isFinite explosion.radius = true := by
  have hvalid := explosion.validRadius_radius
  rw [validRadius, Bool.and_eq_true] at hvalid
  exact hvalid.1

/-- The diameter is twice the radius with no rounding. -/
theorem isRounded_diameter :
    IsRounded (ImpactRules.diameter explosion) (2 * real explosion.radius) := by
  have hfinite := explosion.isFinite_radius
  have hproduct := isRounded_mul (Single.isFinite_widen hfinite)
    (show isFinite (2.0 : Float) = true by rfl)
  rwa [Single.real_widen hfinite, Double.real_two, mul_comm] at hproduct

theorem abs_radius_le : |real explosion.radius| ≤ 2 ^ 128 := abs_real_le explosion.radius

theorem real_diameter : real (ImpactRules.diameter explosion) = 2 * real explosion.radius := by
  obtain ⟨k, e, hk, he, hr⟩ := Single.exists_real_eq explosion.radius
  have hle := explosion.abs_radius_le
  have hlimit := Double.two_pow_lt_limit (n := 129) (by norm_num)
  refine explosion.isRounded_diameter.real_eq_of_isOnGrid ?_ ?_
  · have hdouble : 2 * real explosion.radius = k * 2 ^ (e + 1) := by
      rw [hr, zpow_add₀ (by norm_num)]
      ring
    rw [hdouble]
    exact Double.isOnGrid_mul_two_zpow (hk.trans (by norm_num)) (by omega)
  · rw [abs_mul, abs_two]
    linarith

theorem isFinite_diameter : isFinite (ImpactRules.diameter explosion) = true := by
  have hle := explosion.abs_radius_le
  refine Double.isFinite_of_isRounded (n := 129) explosion.isRounded_diameter (by norm_num) ?_
  rw [abs_mul, abs_two]
  linarith

theorem exists_real_diameter_eq : ∃ k e : ℤ, |k| < 2 ^ 24 ∧ -148 ≤ e ∧
    real (ImpactRules.diameter explosion) = k * 2 ^ e := by
  obtain ⟨k, e, hk, he, hr⟩ := Single.exists_real_eq explosion.radius
  refine ⟨k, e + 1, hk, by omega, ?_⟩
  rw [real_diameter, hr, zpow_add₀ (by norm_num), zpow_one]
  ring

/-- The square of the diameter is a double: it has at most 48 binary digits. -/
theorem exists_square_diameter : ∃ b : Float, real b =
    real (ImpactRules.diameter explosion) * real (ImpactRules.diameter explosion) := by
  obtain ⟨k, e, hk, he, hd⟩ := explosion.exists_real_diameter_eq
  have hfinite := explosion.isFinite_diameter
  refine ⟨_, (isRounded_mul hfinite hfinite).real_eq_of_isOnGrid ?_ ?_⟩
  · have hsquare : real (ImpactRules.diameter explosion) * real (ImpactRules.diameter explosion) =
        (k * k : ℤ) * 2 ^ (e + e) := by
      rw [hd, zpow_add₀ (by norm_num)]
      push_cast
      ring
    have hdigits : |k * k| < 2 ^ 53 := by
      rw [abs_mul]
      calc |k| * |k| < 2 ^ 24 * 2 ^ 24 := mul_lt_mul'' hk hk (abs_nonneg k) (abs_nonneg k)
        _ ≤ 2 ^ 53 := by norm_num
    rw [hsquare]
    exact Double.isOnGrid_mul_two_zpow hdigits (by omega)
  · have hle : |real (ImpactRules.diameter explosion)| ≤ 2 ^ 129 := by
      have := explosion.abs_radius_le
      rw [real_diameter, abs_mul, abs_two]
      linarith
    have hlimit := Double.two_pow_lt_limit (n := 258) (by norm_num)
    rw [abs_mul]
    calc _ ≤ (2 : ℝ) ^ 129 * 2 ^ 129 := by gcongr
      _ ≤ limit (format Float) := by rw [← pow_add]; exact hlimit.le

end Explosion

namespace ImpactRules

variable {rules : ImpactRules} {explosion : Explosion} {blocked : SightBlock}

/-- The feet of an entity that a blast reaches are closer than the diameter on every axis. -/
theorem isNear_of_reaches {s : Snapshot} (hs : s.position.isFinite = true)
    (hradius : 0 < real explosion.radius) (h : reaches explosion s = true) :
    s.position.IsNear explosion.center (real (diameter explosion)) := by
  have hpos : 0 < real (diameter explosion) := by
    rw [explosion.real_diameter]
    linarith
  have hshare : distanceShare explosion s < 1.0 := by
    rw [reaches, Bool.and_eq_true, decide_eq_true_eq] at h
    exact h.2
  rw [Numeral.lt_iff] at hshare
  -- the share is a number, so everything that it is computed from is one
  obtain ⟨⟨hnan, -⟩, hshare⟩ := hshare
  refine Vec3.isNear_of_not_le hs explosion.isFinite_center hpos.le
    explosion.exists_square_diameter (isNaN_of_isNaN_div hnan).1 ?_
  by_contra hfar
  have hfar := not_lt.mp hfar
  have hone : real (1.0 : Float) ≤ real (distanceShare explosion s) := by
    refine le_real_div hnan explosion.isFinite_diameter hpos (hpos.le.trans hfar) ?_
    rw [Double.real_one]
    exact (one_le_div hpos).mpr hfar
  exact absurd hshare (not_lt.mpr hone)

end ImpactRules

/-! ## Bodies -/

/-- Whether an entity stands somewhere and is some size. -/
structure Entity.IsBody (e : Entity) : Prop where
  position : e.position.isFinite = true
  width : e.width.isFinite = true ∧ e.width ≥ 0.0
  height : e.height.isFinite = true ∧ e.height ≥ 0.0

namespace Double

variable {x w : Float}

theorem half_spec (hw : isFinite w = true) (h : 0 ≤ real w) :
    isFinite (w / 2.0) = true ∧ 0 ≤ real (w / 2.0) := by
  have hhalf := isRounded_div hw (show isFinite (2.0 : Float) = true by rfl)
    (by rw [real_two]; norm_num)
  rw [real_two] at hhalf
  have hnonneg := hhalf.real_nonneg (by linarith)
  have hle : real (w / 2.0) ≤ real w := hhalf.real_le (by linarith)
  exact ⟨isFinite_of_le hw hhalf.isNaN hnonneg hle, hnonneg⟩

theorem sub_le_self (hx : isFinite x = true) (hw : isFinite w = true) (h : 0 ≤ real w) :
    x - w ≤ x := by
  have hsub := isRounded_sub hx hw
  exact Numeral.le_iff.mpr ⟨⟨hsub.isNaN, Numeral.isNaN_of_isFinite hx⟩, hsub.real_le (by linarith)⟩

theorem self_le_add (hx : isFinite x = true) (hw : isFinite w = true) (h : 0 ≤ real w) :
    x ≤ x + w := by
  have hadd := isRounded_add hx hw
  exact Numeral.le_iff.mpr ⟨⟨Numeral.isNaN_of_isFinite hx, hadd.isNaN⟩, hadd.le_real (by linarith)⟩

theorem self_le_self (hx : isFinite x = true) : x ≤ x :=
  Numeral.le_iff.mpr ⟨⟨Numeral.isNaN_of_isFinite hx, Numeral.isNaN_of_isFinite hx⟩, le_rfl⟩

end Double

/-- A body holds its own feet. -/
theorem Entity.IsBody.contains_bounds {e : Entity} (h : e.IsBody) :
    e.bounds.contains e.position = true := by
  obtain ⟨⟨hx, hy⟩, hz⟩ := Vec3.isFinite_iff.mp h.position
  obtain ⟨hhalf, hhalf0⟩ := Double.half_spec h.width.1 (Double.real_nonneg_of_ge h.width.2)
  have hheight0 := Double.real_nonneg_of_ge h.height.2
  simp only [Box.contains, Bool.and_eq_true, decide_eq_true_eq]
  exact ⟨⟨⟨⟨⟨Double.sub_le_self hx hhalf hhalf0, Double.self_le_add hx hhalf hhalf0⟩,
    Double.self_le_self hy⟩, Double.self_le_add hy h.height.1 hheight0⟩,
    Double.sub_le_self hz hhalf hhalf0⟩, Double.self_le_add hz hhalf hhalf0⟩

/-! ## Boxes -/

/-- Whether a box reaches at least `reach` from a point in every direction. -/
structure Box.Spans (area : Box) (center : Vec3) (reach : ℝ) : Prop where
  x : real area.min.x ≤ real center.x - reach ∧ real center.x + reach ≤ real area.max.x
  y : real area.min.y ≤ real center.y - reach ∧ real center.y + reach ≤ real area.max.y
  z : real area.min.z ≤ real center.z - reach ∧ real center.z + reach ≤ real area.max.z

structure Box.IsNumeric (area : Box) : Prop where
  x : isNaN area.min.x = false ∧ isNaN area.max.x = false
  y : isNaN area.min.y = false ∧ isNaN area.max.y = false
  z : isNaN area.min.z = false ∧ isNaN area.max.z = false

namespace Double

variable {low high p c : Float} {reach : ℝ}

theorem overlap {bottom top : Float} (hlow : low ≤ p) (hhigh : p ≤ high)
    (hnan : isNaN bottom = false ∧ isNaN top = false)
    (hspans : real bottom ≤ real c - reach ∧ real c + reach ≤ real top)
    (hnear : |real p - real c| < reach) : low < top ∧ high > bottom := by
  rw [Numeral.le_iff] at hlow hhigh
  rw [abs_lt] at hnear
  exact ⟨Numeral.lt_iff.mpr ⟨⟨hlow.1.1, hnan.2⟩, by linarith⟩,
    Numeral.lt_iff.mpr ⟨⟨hnan.1, hhigh.1.2⟩, by linarith⟩⟩

end Double

/-- A body meets every box that spans the distance of its feet. -/
theorem Box.intersects_of_spans {body area : Box} {p center : Vec3} {reach : ℝ}
    (hp : body.contains p = true) (harea : area.IsNumeric) (hspans : area.Spans center reach)
    (hnear : p.IsNear center reach) : body.intersects area = true := by
  simp only [Box.contains, Bool.and_eq_true, decide_eq_true_eq] at hp
  obtain ⟨⟨⟨⟨⟨hx, hx'⟩, hy⟩, hy'⟩, hz⟩, hz'⟩ := hp
  obtain ⟨hlow, hhigh⟩ := Double.overlap hx hx' harea.x hspans.x hnear.x
  obtain ⟨hlow', hhigh'⟩ := Double.overlap hy hy' harea.y hspans.y hnear.y
  obtain ⟨hlow'', hhigh''⟩ := Double.overlap hz hz' harea.z hspans.z hnear.z
  simp only [Box.intersects, Bool.and_eq_true, decide_eq_true_eq]
  exact ⟨⟨⟨⟨⟨hlow, hhigh⟩, hlow'⟩, hhigh'⟩, hlow''⟩, hhigh''⟩

/-! ## The search box -/

namespace Double

variable {c reach margin : Float} {d : ℝ}

theorem isNaN_floor_sub (hc : isFinite c = true) (hreach : isNaN reach = false) :
    isNaN (floor (c - reach)) = false := by
  rw [Numeral.sub_eq]
  exact isNaN_floor (isNaN_add hc (by rwa [isNaN_neg]))

theorem isNaN_floor_add (hc : isFinite c = true) (hreach : isNaN reach = false) :
    isNaN (floor (c + reach)) = false :=
  isNaN_floor (isNaN_add hc hreach)

/-- Rounding both ends down takes less than one from the reach, since there is an integer at each
end of what remains. -/
theorem floor_spans (hc : isFinite c = true) (hreach : isFinite reach = true)
    (hc' : |real c| ≤ 2 ^ 52) (hreach' : real reach ≤ 2 ^ 52) (hd : 0 ≤ d)
    (hmargin : d + 1 ≤ real reach) :
    real (floor (c - reach)) ≤ real c - d ∧ real c + d ≤ real (floor (c + reach)) := by
  rw [abs_le] at hc'
  have hsub := isRounded_sub hc hreach
  have hadd := isRounded_add hc hreach
  constructor
  · have hfinite : isFinite (c - reach) = true :=
      isFinite_of_isRounded (n := 53) hsub (by norm_num) (abs_le.mpr ⟨by linarith, by linarith⟩)
    have hbelow : real c - real reach ≤ (⌊real c - d⌋ : ℤ) := by
      have := Int.sub_one_lt_floor (real c - d)
      linarith
    have hleast : -2 ^ 53 + 1 ≤ ⌊real c - d⌋ := Int.le_floor.mpr (by push_cast; linarith)
    have hgreatest : ⌊real c - d⌋ < 2 ^ 53 := Int.floor_lt.mpr (by push_cast; linarith)
    have hinteger : |⌊real c - d⌋| < 2 ^ 53 := abs_lt.mpr ⟨by omega, hgreatest⟩
    calc real (floor (c - reach)) = ⌊real (c - reach)⌋ := real_floor hfinite
      _ ≤ real (c - reach) := Int.floor_le _
      _ ≤ ⌊real c - d⌋ := real_le_intCast hsub hinteger hbelow
      _ ≤ real c - d := Int.floor_le _
  · have hfinite : isFinite (c + reach) = true :=
      isFinite_of_isRounded (n := 53) hadd (by norm_num) (abs_le.mpr ⟨by linarith, by linarith⟩)
    have habove : (⌈real c + d⌉ : ℤ) ≤ real c + real reach := by
      have := Int.ceil_lt_add_one (real c + d)
      linarith
    have hleast : -2 ^ 53 < ⌈real c + d⌉ := Int.lt_ceil.mpr (by push_cast; linarith)
    have hgreatest : ⌈real c + d⌉ ≤ 2 ^ 53 - 1 := Int.ceil_le.mpr (by push_cast; linarith)
    have hinteger : |⌈real c + d⌉| < 2 ^ 53 := abs_lt.mpr ⟨hleast, by omega⟩
    calc real c + d ≤ ⌈real c + d⌉ := Int.le_ceil _
      _ ≤ ⌊real (c + reach)⌋ := by
          exact_mod_cast Int.le_floor.mpr (intCast_le_real hadd hinteger habove)
      _ = real (floor (c + reach)) := (real_floor hfinite).symm

end Double

/-- Adding one to a number whose last digit is neither too far behind the point nor before it
leaves it with no more than 53 digits. -/
theorem Double.isOnGrid_add_one {k e : ℤ} (hk : |k| < 2 ^ 24) (he : -51 ≤ e) (hpos : 0 < k)
    (hlarge : (k : ℝ) * 2 ^ e + 1 ≤ 2 ^ 52) : IsOnGrid (format Float) (k * 2 ^ e + 1) := by
  rw [abs_lt] at hk
  rcases le_or_gt e 0 with hsmall | hwhole
  · obtain ⟨n, hn⟩ := Int.eq_ofNat_of_zero_le (show 0 ≤ -e by omega)
    have hone : (2 : ℝ) ^ n * 2 ^ e = 1 := by
      rw [← zpow_natCast, ← zpow_add₀ (by norm_num), show (n : ℤ) + e = 0 by omega, zpow_zero]
    have hsum : (k : ℝ) * 2 ^ e + 1 = (k + 2 ^ n : ℤ) * 2 ^ e := by
      push_cast
      rw [add_mul, hone]
    have hpow : (2 : ℤ) ^ n ≤ 2 ^ 51 := pow_le_pow_right₀ (by norm_num) (by omega)
    have hpow0 : (0 : ℤ) < 2 ^ n := by positivity
    rw [hsum]
    exact isOnGrid_mul_two_zpow (abs_lt.mpr ⟨by omega, by omega⟩) (by omega)
  · -- the number is an integer
    obtain ⟨n, rfl⟩ := Int.eq_ofNat_of_zero_le hwhole.le
    have hsum : (k : ℝ) * 2 ^ (n : ℤ) + 1 = (k * 2 ^ n + 1 : ℤ) := by
      push_cast
      rw [zpow_natCast]
    have hnonneg : 0 < k * 2 ^ n := by positivity
    rw [hsum] at hlarge ⊢
    have hlarge : k * 2 ^ n + 1 ≤ 2 ^ 52 := by exact_mod_cast hlarge
    exact isOnGrid_intCast (abs_lt.mpr ⟨by omega, by omega⟩)

/-- One more than the diameter is a double, unless the diameter is tiny or huge. -/
theorem Explosion.isOnGrid_diameter_add_one {explosion : Explosion}
    (hradius : 2 ^ (-29 : ℤ) ≤ real explosion.radius)
    (hlarge : real (ImpactRules.diameter explosion) + 1 ≤ 2 ^ 52) :
    IsOnGrid (format Float) (real (ImpactRules.diameter explosion) + 1) := by
  obtain ⟨k, e, hk, he, hd⟩ := explosion.exists_real_diameter_eq
  have hwide : 2 ^ (-28 : ℤ) ≤ (k : ℝ) * 2 ^ e := by
    rw [← hd, explosion.real_diameter, show (-28 : ℤ) = 1 + -29 by norm_num,
      zpow_add₀ (by norm_num), zpow_one]
    linarith
  have hpos : 0 < k := by
    have hvalue : (0 : ℝ) < k * 2 ^ e := lt_of_lt_of_le (by positivity) hwide
    exact_mod_cast (mul_pos_iff_of_pos_right (by positivity)).mp hvalue
  -- a number of 24 digits that is not tiny ends at most 51 places behind the point
  have hdigits : -52 < e := by
    have hk' : (k : ℝ) < 2 ^ (24 : ℤ) := by exact_mod_cast (le_abs_self k).trans_lt hk
    have hlt : (2 : ℝ) ^ (-28 : ℤ) < 2 ^ (24 + e) := by
      rw [zpow_add₀ (by norm_num)]
      refine hwide.trans_lt ?_
      gcongr
    have := (zpow_lt_zpow_iff_right₀ (by norm_num)).mp hlt
    omega
  rw [hd] at hlarge ⊢
  exact Double.isOnGrid_add_one hk (by omega) hpos hlarge

namespace ImpactRules

variable {rules : ImpactRules} {explosion : Explosion} {blocked : SightBlock} {config : Config}

/-- What the search box reaches on every axis before it is rounded. -/
theorem reach_spec (hvalid : config.IsValid) (hmargin : 1 ≤ real config.entitySearchMargin)
    (hradius : 2 ^ (-29 : ℤ) ≤ real explosion.radius)
    (hreach : real (diameter explosion) + real config.entitySearchMargin ≤ 2 ^ 52) :
    isFinite (diameter explosion + config.entitySearchMargin) = true ∧
      real (diameter explosion) + 1 ≤ real (diameter explosion + config.entitySearchMargin) ∧
      real (diameter explosion + config.entitySearchMargin) ≤ 2 ^ 52 := by
  have hpos : 0 < real (diameter explosion) := by
    have : (0 : ℝ) < 2 ^ (-29 : ℤ) := by positivity
    rw [explosion.real_diameter]
    linarith
  have hsum := isRounded_add explosion.isFinite_diameter hvalid.entitySearchMargin.1
  have habs : |real (diameter explosion) + real config.entitySearchMargin| ≤ 2 ^ 52 := by
    rwa [abs_of_pos (by linarith)]
  have hgrid := Explosion.isOnGrid_diameter_add_one hradius (by linarith)
  refine ⟨Double.isFinite_of_isRounded hsum (by norm_num) habs, ?_, ?_⟩
  · refine hsum.le_of_isOnGrid hgrid ?_ (by linarith)
    rw [abs_of_pos (by linarith)]
    exact le_trans (by linarith) (Double.two_pow_lt_limit (n := 52) (by norm_num)).le
  · exact (le_abs_self _).trans (Double.abs_real_le_two_pow hsum (by norm_num) habs)

theorem isNumeric_searchBox (hvalid : config.IsValid) :
    ((ofConfig config).searchBox explosion).IsNumeric := by
  obtain ⟨⟨hx, hy⟩, hz⟩ := Vec3.isFinite_iff.mp explosion.isFinite_center
  have hreach : isNaN (diameter explosion + config.entitySearchMargin) = false :=
    (isRounded_add explosion.isFinite_diameter hvalid.entitySearchMargin.1).isNaN
  exact ⟨⟨Double.isNaN_floor_sub hx hreach, Double.isNaN_floor_add hx hreach⟩,
    ⟨Double.isNaN_floor_sub hy hreach, Double.isNaN_floor_add hy hreach⟩,
    ⟨Double.isNaN_floor_sub hz hreach, Double.isNaN_floor_add hz hreach⟩⟩

/-- **The search box spans the diameter** if the margin is at least one. -/
theorem spans_searchBox (hvalid : config.IsValid) (hmargin : 1 ≤ real config.entitySearchMargin)
    (hradius : 2 ^ (-29 : ℤ) ≤ real explosion.radius)
    (hreach : real (diameter explosion) + real config.entitySearchMargin ≤ 2 ^ 52)
    (hx : |real explosion.center.x| ≤ 2 ^ 52) (hy : |real explosion.center.y| ≤ 2 ^ 52)
    (hz : |real explosion.center.z| ≤ 2 ^ 52) :
    ((ofConfig config).searchBox explosion).Spans explosion.center
      (real (diameter explosion)) := by
  obtain ⟨⟨hcx, hcy⟩, hcz⟩ := Vec3.isFinite_iff.mp explosion.isFinite_center
  obtain ⟨hfinite, hlow, hhigh⟩ := reach_spec hvalid hmargin hradius hreach
  have hd : 0 ≤ real (diameter explosion) := by
    have : (0 : ℝ) < 2 ^ (-29 : ℤ) := by positivity
    rw [explosion.real_diameter]
    linarith
  exact ⟨Double.floor_spans hcx hfinite hx hhigh hd hlow,
    Double.floor_spans hcy hfinite hy hhigh hd hlow,
    Double.floor_spans hcz hfinite hz hhigh hd hlow⟩

/-! ## Queries -/

/-- A query that finds all entities that the blast reaches is as good as asking all of them. -/
theorem resolve_snapshotsIn {p : Population} {area : Box}
    (h : ∀ e ∈ p.members, reaches explosion e.snapshot = true → e.bounds.intersects area = true) :
    rules.resolve explosion blocked (p.snapshotsIn area) =
      rules.resolve explosion blocked p.snapshots := by
  unfold resolve
  split
  · rfl
  · -- the entities that are left out would not have been recorded
    rw [Population.snapshotsIn, Population.snapshots, List.foldl_map, List.foldl_map,
      List.foldl_filter]
    refine List.foldl_ext _ _ _ ?_
    intro report e he
    by_cases hin : e.bounds.intersects area = true
    · rw [if_pos hin]
    · have hout : reaches explosion e.snapshot = false := by
        rw [← Bool.not_eq_true]
        intro hreaches
        exact hin (h e he hreaches)
      rw [if_neg hin, record, hout, Bool.false_and, if_neg Bool.false_ne_true]

/-- **Whom a search finds.** With a configuration that passes its checks, a blast finds every entity
that it can hit if its search box spans the diameter, and then its report is the report on all
entities. The box spans the diameter if the margin is at least one, the radius is not tiny, and the
coordinates are not so large that they have no fractions. -/
theorem resolve_snapshotsIn_searchBox (hvalid : config.validate = .ok ())
    (hradius : explosion.radius > 0.0) {world : World}
    (hbodies : ∀ e ∈ world.population.members, e.IsBody) :
    let rules := ofConfig config
    let area := rules.searchBox explosion
    (area.Spans explosion.center (real (diameter explosion)) →
      rules.resolve explosion world.blocksSight (world.population.snapshotsIn area) =
        rules.resolve explosion world.blocksSight world.population.snapshots ∧
      ∀ e ∈ world.population.members, reaches explosion e.snapshot = true →
        e.bounds.intersects area = true) ∧
    (1 ≤ real config.entitySearchMargin → 2 ^ (-29 : ℤ) ≤ real explosion.radius →
      real (diameter explosion) + real config.entitySearchMargin ≤ 2 ^ 52 →
      |real explosion.center.x| ≤ 2 ^ 52 → |real explosion.center.y| ≤ 2 ^ 52 →
      |real explosion.center.z| ≤ 2 ^ 52 →
      area.Spans explosion.center (real (diameter explosion))) := by
  intro rules area
  have hvalid := Config.isValid_of_validate hvalid
  have hradius := Single.real_pos_of_gt hradius
  refine ⟨?_, fun hmargin hradius => spans_searchBox hvalid hmargin hradius⟩
  intro hspans
  have hfound : ∀ e ∈ world.population.members, reaches explosion e.snapshot = true →
      e.bounds.intersects area = true := by
    intro e he hreaches
    have hnear := isNear_of_reaches (s := e.snapshot) (hbodies e he).position hradius hreaches
    exact Box.intersects_of_spans (hbodies e he).contains_bounds (isNumeric_searchBox hvalid)
      hspans hnear
  exact ⟨resolve_snapshotsIn hfound, hfound⟩

end ImpactRules

def Explosion.pop : Explosion where
  center := .splat 0.5
  radius := 2.0
  fire := false
  interaction := .destroy
  source := none
  damageSource := .explosion (.splat 0.5)
  resistance := .registry
  knockback := .identity
  effects := {}
  validRadius_radius := by decide
  isFinite_center := by decide

/-- A small body 3.9 away from the middle of the voxel at the origin. -/
def World.bystander : World :=
  ((World.empty .builtin {}).spawn .physics ⟨4.4, 0.5, 0.5⟩ 0.25 0.25).2

theorem World.members_bystander : World.bystander.population.members =
    [⟨⟨1⟩, .physics, ⟨4.4, 0.5, 0.5⟩, 0.25, 0.25, .zero, 20.0, false, []⟩] :=
  rfl

theorem World.isBody_bystander : ∀ e ∈ World.bystander.population.members, e.IsBody := by
  intro e he
  rw [World.members_bystander, List.mem_singleton] at he
  subst he
  exact ⟨by decide, by decide, by decide⟩

namespace ImpactRules

/-- The default margin finds the bystander. -/
theorem resolve_snapshotsIn_bystander :
    let rules := ofConfig {}
    let area := rules.searchBox .pop
    Config.validate {} = .ok () ∧ Explosion.pop.radius > 0.0 ∧
    (∀ e ∈ World.bystander.population.members, e.IsBody) ∧
    rules.resolve .pop World.bystander.blocksSight (World.bystander.population.snapshotsIn area) =
      rules.resolve .pop World.bystander.blocksSight World.bystander.population.snapshots ∧
    ∀ e ∈ World.bystander.population.members, reaches .pop e.snapshot = true →
      e.bounds.intersects area = true := by
  intro rules area
  have hvalid : Config.validate {} = .ok () := rfl
  have hradius : Explosion.pop.radius > 0.0 := by decide
  obtain ⟨hreport, hspans⟩ :=
    resolve_snapshotsIn_searchBox hvalid hradius World.isBody_bystander
  have hmargin : real (Config.entitySearchMargin {}) = 1 := Double.real_one
  have htwo : real Explosion.pop.radius = 2 := by
    rw [real_of_unpack (u := .finite .positive (2 ^ 23) (-22) (by decide)) rfl]
    norm_num [value, Float.Model.UnpackedFloat.Sign.apply]
  have hhalf : real (0.5 : Float) = 1 / 2 := by
    rw [real_of_unpack (u := .finite .positive (2 ^ 52) (-53) (by decide)) rfl]
    norm_num [value, Float.Model.UnpackedFloat.Sign.apply]
  have hcenter : |real (0.5 : Float)| ≤ 2 ^ 52 := by
    rw [hhalf]
    norm_num
  have hreach : real (diameter .pop) + real (Config.entitySearchMargin {}) ≤ 2 ^ 52 := by
    rw [Explosion.real_diameter, htwo, hmargin]
    norm_num
  refine ⟨hvalid, hradius, World.isBody_bystander, hreport (hspans hmargin.ge ?_ hreach hcenter
    hcenter hcenter)⟩
  rw [htwo]
  norm_num

end ImpactRules

def Config.tight : Config := { entitySearchMargin := 0.0 }

/-- Without a margin the bystander is reached but not found: the upper corner of the box is rounded
down to 4, and the body begins beyond it. -/
theorem ImpactRules.resolve_snapshotsIn_bystander_ne :
    Config.tight.validate = .ok () ∧ Explosion.pop.radius > 0.0 ∧
    (∀ e ∈ World.bystander.population.members, e.IsBody) ∧
    (ofConfig .tight).resolve .pop World.bystander.blocksSight
        (World.bystander.population.snapshotsIn ((ofConfig .tight).searchBox .pop)) ≠
      (ofConfig .tight).resolve .pop World.bystander.blocksSight
        World.bystander.population.snapshots := by
  refine ⟨rfl, by decide, World.isBody_bystander, ?_⟩
  rw [Population.snapshotsIn, Population.snapshots, World.members_bystander,
    List.filter_cons_of_neg (by decide +kernel), List.filter_nil]
  intro heq
  have hsize := congrArg ImpactReport.size heq
  have hwide : ¬ diameter .pop ≤ 0.0 := by decide
  rw [resolve, resolve, if_neg hwide, if_neg hwide, List.map_singleton, List.foldl_cons, record,
    if_pos (by decide +kernel)] at hsize
  -- the report on all entities has one impact, and the report on those found has none
  cases hsize

end Crater
