import SqlxCloudflare.Ieee.Nearest

/-!
# SqlxCloudflare.Ieee.Format

Binary floating-point formats, seen through the rationals they represent, and
correct rounding into them:

* `Format.Representable` -- the rationals a format holds exactly;
* `Format.rounded` -- a rational rounded to the format's precision;
* `Format.rounded_of_representable` -- what is representable is not rounded;
* `Format.abs_rounded_sub_le` -- nothing representable is nearer.
-/

namespace Ieee

/-- A binary format: `precision` significand bits, and the exponents of the
last place of its smallest and of its largest numbers. -/
structure Format where
  precision : ℕ
  emin : ℤ
  emax : ℤ
  precision_pos : 0 < precision
  emin_le_emax : emin ≤ emax

/-- IEEE double precision: `f64`, and the JavaScript number. -/
def binary64 : Format := ⟨53, -1074, 971, by decide, by decide⟩

/-- IEEE single precision: `f32`. -/
def binary32 : Format := ⟨24, -149, 104, by decide, by decide⟩

/-! ## powers of two -/

theorem two_zpow_pos (e : ℤ) : (0 : ℚ) < 2 ^ e := zpow_pos (by norm_num) e

/-- A power of two split at the precision. -/
theorem two_zpow_add_natCast (e : ℤ) (n : ℕ) : (2 : ℚ) ^ (e + n) = 2 ^ n * 2 ^ e := by
  rw [zpow_add₀ (by norm_num), zpow_natCast, mul_comm]

/-- A coarser power of two is a whole multiple of a finer one. -/
theorem exists_zpow_eq_mul {e e' : ℤ} (h : e ≤ e') : ∃ k : ℤ, (2 : ℚ) ^ e' = k * 2 ^ e := by
  refine ⟨2 ^ (e' - e).toNat, ?_⟩
  have hcast : ((e' - e).toNat : ℤ) = e' - e := Int.toNat_of_nonneg (by omega)
  have hsplit := two_zpow_add_natCast e (e' - e).toNat
  rw [hcast, add_sub_cancel] at hsplit
  push_cast
  exact hsplit

namespace Format

variable (f : Format)

/-- The rationals `f` represents exactly: a significand of `precision` bits,
scaled by a power of two within the exponent range. -/
def Representable (q : ℚ) : Prop :=
  ∃ m e : ℤ, |m| < 2 ^ f.precision ∧ f.emin ≤ e ∧ e ≤ f.emax ∧ q = m * 2 ^ e

/-- The exponent of the last place of the numbers of `q`'s magnitude. -/
def exponent (q : ℚ) : ℤ := max f.emin (Int.log 2 |q| + 1 - f.precision)

/-- `q` counted in units of its last place, rounded to a whole number. -/
def significand (q : ℚ) : ℤ := nearestEven (q / 2 ^ f.exponent q)

/-- `q` rounded to `f`'s precision, whatever its size. -/
def rounded (q : ℚ) : ℚ := f.significand q * 2 ^ f.exponent q

/-- The magnitude from which on a rounded number overflows. -/
def overflow : ℚ := 2 ^ (f.emax + f.precision)

theorem emin_le_exponent (q : ℚ) : f.emin ≤ f.exponent q := le_max_left _ _

/-- A number is below `2 ^ precision` units of its last place. -/
theorem abs_div_exponent_lt (q : ℚ) : |q / 2 ^ f.exponent q| < 2 ^ f.precision := by
  have hpos := two_zpow_pos (f.exponent q)
  rw [abs_div, abs_of_pos hpos, div_lt_iff₀ hpos, ← two_zpow_add_natCast]
  have hlog : |q| < 2 ^ (Int.log 2 |q| + 1) := by
    exact_mod_cast Int.lt_zpow_succ_log_self (b := 2) (by norm_num) |q|
  refine lt_of_lt_of_le hlog (zpow_le_zpow_right₀ (by norm_num) ?_)
  have hle : Int.log 2 |q| + 1 - f.precision ≤ f.exponent q := le_max_right _ _
  omega

/-- A number above the subnormal range is at least `2 ^ (precision - 1)` units
of its last place. -/
theorem le_abs_of_emin_lt_exponent {q : ℚ} (hq : q ≠ 0) (h : f.emin < f.exponent q) :
    (2 : ℚ) ^ (f.exponent q + (f.precision - 1 : ℕ)) ≤ |q| := by
  have hexp : f.exponent q = Int.log 2 |q| + 1 - f.precision := by
    unfold exponent at h ⊢
    omega
  have hcast : ((f.precision - 1 : ℕ) : ℤ) = f.precision - 1 := by
    have := f.precision_pos
    omega
  have hlog : f.exponent q + (f.precision - 1 : ℕ) = Int.log 2 |q| := by omega
  rw [hlog]
  exact_mod_cast Int.zpow_log_le_self (b := 2) (by norm_num) (abs_pos.mpr hq)

/-- Every number of the format is a whole number of units of the last place of
any number at least as large. -/
theorem exponent_le_of_representable {q : ℚ} {m e : ℤ} (hq : q ≠ 0)
    (hm : |m| < 2 ^ f.precision) (he : f.emin ≤ e) (h : q = m * 2 ^ e) :
    f.exponent q ≤ e := by
  by_contra hlt
  have hlo := f.le_abs_of_emin_lt_exponent hq (by omega)
  have hm' : (|m| : ℚ) < 2 ^ f.precision := by exact_mod_cast hm
  have hpos := two_zpow_pos e
  have hhi : |q| < 2 ^ (e + f.precision) := by
    rw [h, abs_mul, abs_of_pos hpos, two_zpow_add_natCast]
    exact mul_lt_mul_of_pos_right hm' hpos
  have hexp := (zpow_lt_zpow_iff_right₀ (by norm_num : (1 : ℚ) < 2)).mp (lt_of_le_of_lt hlo hhi)
  have := f.precision_pos
  omega

/-- A representable number rounds to itself. -/
theorem rounded_of_representable {q : ℚ} (h : f.Representable q) : f.rounded q = q := by
  obtain ⟨m, e, hm, he, _, rfl⟩ := h
  by_cases hq : (m * 2 ^ e : ℚ) = 0
  · simp [rounded, significand, hq, nearestEven]
  · obtain ⟨k, hk⟩ := exists_zpow_eq_mul (f.exponent_le_of_representable hq hm he rfl)
    have hpos := two_zpow_pos (f.exponent (m * 2 ^ e))
    have hwhole : (m * 2 ^ e : ℚ) / 2 ^ f.exponent (m * 2 ^ e) = ((m * k : ℤ) : ℚ) := by
      rw [div_eq_iff hpos.ne']
      push_cast
      rw [mul_assoc, ← hk]
    rw [rounded, significand, hwhole, nearestEven_intCast, ← hwhole, div_mul_cancel₀ _ hpos.ne']

theorem abs_rounded (q : ℚ) :
    |f.rounded q| = (|f.significand q| : ℤ) * 2 ^ f.exponent q := by
  rw [rounded, abs_mul, abs_of_pos (two_zpow_pos _), Int.cast_abs]

/-- Rounding a number above the subnormal range leaves it above. -/
theorem le_abs_rounded {q : ℚ} (hq : q ≠ 0) (h : f.emin < f.exponent q) :
    (2 : ℚ) ^ (f.exponent q + (f.precision - 1 : ℕ)) ≤ |f.rounded q| := by
  have hpos := two_zpow_pos (f.exponent q)
  have hlo := f.le_abs_of_emin_lt_exponent hq h
  have hsig : ((2 ^ (f.precision - 1) : ℕ) : ℤ) ≤ |f.significand q| := by
    refine le_abs_nearestEven ?_
    rw [abs_div, abs_of_pos hpos, le_div_iff₀ hpos]
    push_cast
    rwa [← two_zpow_add_natCast]
  have hsig' : ((2 : ℚ) ^ (f.precision - 1)) ≤ (|f.significand q| : ℤ) := by exact_mod_cast hsig
  rw [abs_rounded, two_zpow_add_natCast]
  exact mul_le_mul_of_nonneg_right hsig' hpos.le

/-- A significand that was rounded up to the next power of two: one bit, one
place further. -/
theorem representable_carry {m e : ℤ} (hm : |m| = 2 ^ f.precision) (he : f.emin ≤ e)
    (he' : e < f.emax) : f.Representable (m * 2 ^ e) := by
  have hsucc : (2 : ℤ) ^ f.precision = 2 ^ (f.precision - 1) * 2 := by
    rw [← pow_succ, Nat.sub_add_cancel f.precision_pos]
  have hbit : |(2 : ℤ) ^ (f.precision - 1)| < 2 ^ f.precision := by
    rw [abs_of_pos (by positivity), hsucc]
    have : (0 : ℤ) < 2 ^ (f.precision - 1) := by positivity
    omega
  have hscale : (2 : ℚ) ^ f.precision * 2 ^ e = 2 ^ (f.precision - 1) * 2 ^ (e + 1) := by
    rw [zpow_add₀ (by norm_num), zpow_one]
    have : (2 : ℚ) ^ f.precision = 2 ^ (f.precision - 1) * 2 := by exact_mod_cast hsucc
    rw [this]
    ring
  rcases (abs_eq (by positivity)).mp hm with hpos | hneg
  · refine ⟨2 ^ (f.precision - 1), e + 1, hbit, by omega, by omega, ?_⟩
    rw [hpos]
    push_cast
    exact hscale
  · refine ⟨-2 ^ (f.precision - 1), e + 1, by rwa [abs_neg], by omega, by omega, ?_⟩
    rw [hneg]
    push_cast
    rw [neg_mul, neg_mul, hscale]

/-- A rounded number that does not overflow is one of the format's. -/
theorem representable_rounded {q : ℚ} (hq : q ≠ 0) (h : |f.rounded q| < f.overflow) :
    f.Representable (f.rounded q) := by
  have hm : |f.significand q| ≤ (2 ^ f.precision : ℕ) :=
    abs_nearestEven_le (by exact_mod_cast (f.abs_div_exponent_lt q).le)
  rcases lt_or_eq_of_le hm with hlt | heq
  · -- the significand still fits, so only the exponent is left to bound
    refine ⟨f.significand q, f.exponent q, by exact_mod_cast hlt, f.emin_le_exponent q, ?_, rfl⟩
    by_contra hbig
    have hge := f.le_abs_rounded hq (by have := f.emin_le_emax; omega)
    have hexp := (zpow_lt_zpow_iff_right₀ (by norm_num : (1 : ℚ) < 2)).mp (lt_of_le_of_lt hge h)
    have := f.precision_pos
    omega
  · have hval : |f.rounded q| = 2 ^ (f.exponent q + f.precision) := by
      rw [abs_rounded, heq, two_zpow_add_natCast]
      push_cast
      rfl
    have hexp : f.exponent q < f.emax := by
      rw [hval, overflow, zpow_lt_zpow_iff_right₀ (by norm_num)] at h
      omega
    exact f.representable_carry (by exact_mod_cast heq) (f.emin_le_exponent q) hexp

/-- Nothing on the grid of `q`'s last place is nearer to it. -/
theorem abs_rounded_sub_le_grid (q : ℚ) (k : ℤ) :
    |f.rounded q - q| ≤ |k * 2 ^ f.exponent q - q| := by
  have hpos := two_zpow_pos (f.exponent q)
  have hscale : ∀ n : ℤ, |(n : ℚ) * 2 ^ f.exponent q - q|
      = |(n : ℚ) - q / 2 ^ f.exponent q| * 2 ^ f.exponent q := by
    intro n
    rw [← abs_of_pos hpos, ← abs_mul, abs_of_pos hpos, sub_mul, div_mul_cancel₀ _ hpos.ne']
  rw [rounded, hscale, hscale]
  exact mul_le_mul_of_nonneg_right (nearestEven_nearest _ k) hpos.le

/-- No number of the format is nearer to `q` than `rounded q`.  A number of a
coarser scale is on the same grid; one of a finer scale lies below the
smallest grid point of `q`'s own scale, which is already no nearer. -/
theorem abs_rounded_sub_le {q r : ℚ} (hr : f.Representable r) :
    |f.rounded q - q| ≤ |r - q| := by
  have hgrid := f.abs_rounded_sub_le_grid q
  by_cases hq : q = 0
  · have hzero : f.rounded q = q := by simp [rounded, significand, hq, nearestEven]
    rw [hzero, sub_self, abs_zero]
    exact abs_nonneg _
  obtain ⟨m, e, hm, he, _, rfl⟩ := hr
  rcases le_or_gt (f.exponent q) e with hle | hgt
  · obtain ⟨k, hk⟩ := exists_zpow_eq_mul hle
    have hon := hgrid (m * k)
    push_cast at hon
    rwa [mul_assoc, ← hk] at hon
  · -- `r` is below the power of two that `|q|` reaches
    have hlo := f.le_abs_of_emin_lt_exponent hq (by omega)
    have hm' : (|m| : ℚ) ≤ 2 ^ f.precision := by exact_mod_cast hm.le
    have hr : |(m * 2 ^ e : ℚ)| ≤ 2 ^ (f.exponent q + (f.precision - 1 : ℕ)) := by
      rw [abs_mul, abs_of_pos (two_zpow_pos e)]
      refine le_trans (mul_le_mul_of_nonneg_right hm' (two_zpow_pos e).le) ?_
      rw [← two_zpow_add_natCast]
      refine zpow_le_zpow_right₀ (by norm_num) ?_
      have := f.precision_pos
      omega
    rw [two_zpow_add_natCast] at hlo hr
    have hedge := hgrid (2 ^ (f.precision - 1))
    have hedge' := hgrid (-2 ^ (f.precision - 1))
    push_cast at hedge hedge'
    rcases le_or_gt 0 q with hq0 | hq0
    · rw [abs_of_nonneg hq0] at hlo
      have hrq := (abs_le.mp hr).2
      refine le_trans hedge ?_
      rw [abs_of_nonpos (by linarith), abs_of_nonpos (by linarith)]
      linarith
    · rw [abs_of_neg hq0] at hlo
      have hrq := (abs_le.mp hr).1
      refine le_trans hedge' ?_
      rw [abs_of_nonneg (by linarith), abs_of_nonneg (by linarith)]
      linarith

/-- Rounding never crosses a number of the format from above ... -/
theorem le_rounded {q r : ℚ} (hr : f.Representable r) (h : r ≤ q) : r ≤ f.rounded q := by
  have hnear := f.abs_rounded_sub_le (q := q) hr
  rw [abs_sub_comm r, abs_of_nonneg (sub_nonneg.mpr h)] at hnear
  have := (abs_le.mp hnear).1
  linarith

/-- ... nor from below. -/
theorem rounded_le {q r : ℚ} (hr : f.Representable r) (h : q ≤ r) : f.rounded q ≤ r := by
  have hnear := f.abs_rounded_sub_le (q := q) hr
  rw [abs_of_nonneg (sub_nonneg.mpr h)] at hnear
  have := (abs_le.mp hnear).2
  linarith

/-- The magnitude of a number of the format is below the overflow threshold. -/
theorem abs_lt_overflow {q : ℚ} (h : f.Representable q) : |q| < f.overflow := by
  obtain ⟨m, e, hm, _, he, rfl⟩ := h
  have hm' : (|m| : ℚ) < 2 ^ f.precision := by exact_mod_cast hm
  rw [abs_mul, abs_of_pos (two_zpow_pos e), overflow, two_zpow_add_natCast]
  calc (|m| : ℚ) * 2 ^ e
      < 2 ^ f.precision * 2 ^ e := mul_lt_mul_of_pos_right hm' (two_zpow_pos e)
    _ ≤ 2 ^ f.precision * 2 ^ f.emax :=
        mul_le_mul_of_nonneg_left (zpow_le_zpow_right₀ (by norm_num) he) (by positivity)

theorem representable_neg {q : ℚ} (h : f.Representable q) : f.Representable (-q) := by
  obtain ⟨m, e, hm, hlo, hhi, rfl⟩ := h
  exact ⟨-m, e, by rwa [abs_neg], hlo, hhi, by push_cast; ring⟩

theorem representable_abs {q : ℚ} (h : f.Representable q) : f.Representable |q| := by
  rcases abs_choice q with habs | habs <;> rw [habs]
  · exact h
  · exact f.representable_neg h

theorem representable_zero : f.Representable 0 :=
  ⟨0, f.emin, by simp, le_refl _, f.emin_le_emax, by simp⟩

/-- Zero is not rounded, so only a nonzero number rounds to one. -/
theorem ne_zero_of_rounded_ne_zero {q : ℚ} (h : f.rounded q ≠ 0) : q ≠ 0 := by
  rintro rfl
  exact h (f.rounded_of_representable f.representable_zero)

/-- An integer of at most `precision` bits is representable. -/
theorem representable_intCast {n : ℤ} (hn : |n| < 2 ^ f.precision) (hlo : f.emin ≤ 0)
    (hhi : 0 ≤ f.emax) : f.Representable n :=
  ⟨n, 0, hn, hlo, hhi, by simp⟩

/-- A power of two within the exponent range is representable. -/
theorem representable_two_zpow {e : ℤ} (hlo : f.emin ≤ e) (hhi : e ≤ f.emax) :
    f.Representable (2 ^ e) := by
  refine ⟨1, e, ?_, hlo, hhi, by simp⟩
  rw [abs_one]
  exact one_lt_pow₀ (by norm_num) f.precision_pos.ne'

/-! ## integers -/

/-- An integer rounds to an integer. -/
theorem exists_rounded_intCast (hlo : f.emin ≤ 0) (hhi : 0 ≤ f.emax) (n : ℤ) :
    ∃ m : ℤ, f.rounded n = m := by
  by_cases he : 0 ≤ f.exponent n
  · obtain ⟨k, hk⟩ := exists_zpow_eq_mul he
    rw [zpow_zero, mul_one] at hk
    exact ⟨f.significand n * k, by rw [rounded, hk]; push_cast; rfl⟩
  · have hpos := two_zpow_pos (f.exponent n)
    have hlt := f.abs_div_exponent_lt n
    rw [abs_div, abs_of_pos hpos, div_lt_iff₀ hpos] at hlt
    have hone : (2 : ℚ) ^ f.exponent n ≤ 1 := zpow_le_one_of_nonpos₀ (by norm_num) (by omega)
    have hle : (2 : ℚ) ^ f.precision * 2 ^ f.exponent n ≤ 2 ^ f.precision :=
      mul_le_of_le_one_right (by positivity) hone
    have hn : |n| < 2 ^ f.precision := by exact_mod_cast lt_of_lt_of_le hlt hle
    exact ⟨n, f.rounded_of_representable (f.representable_intCast hn hlo hhi)⟩

/-- A large integer of the format is a multiple of a power of two. -/
theorem dvd_of_representable {n : ℤ} {k : ℕ} (h : f.Representable n)
    (hn : 2 ^ (f.precision + k) ≤ |n|) : (2 : ℤ) ^ (k + 1) ∣ n := by
  obtain ⟨m, e, hm, _, _, heq⟩ := h
  have hm' : (|m| : ℚ) < 2 ^ f.precision := by exact_mod_cast hm
  have hn' : (2 : ℚ) ^ ((f.precision + k : ℕ) : ℤ) ≤ |(n : ℚ)| := by exact_mod_cast hn
  have hlt : |(n : ℚ)| < 2 ^ (e + f.precision) := by
    rw [heq, abs_mul, abs_of_pos (two_zpow_pos e), two_zpow_add_natCast]
    exact mul_lt_mul_of_pos_right hm' (two_zpow_pos e)
  have hexp := (zpow_lt_zpow_iff_right₀ (by norm_num : (1 : ℚ) < 2)).mp (lt_of_le_of_lt hn' hlt)
  have hscale : ((k + 1 : ℕ) : ℤ) ≤ e := by
    push_cast at hexp ⊢
    omega
  obtain ⟨j, hj⟩ := exists_zpow_eq_mul hscale
  refine ⟨m * j, ?_⟩
  rw [hj, zpow_natCast] at heq
  have hint : (n : ℚ) = ((2 ^ (k + 1) * (m * j) : ℤ) : ℚ) := by
    rw [heq]
    push_cast
    ring
  exact_mod_cast hint

end Format

end Ieee
