import Mathlib.Data.Rat.Floor
import Mathlib.Data.Int.Log
import Mathlib.Tactic

/-!
# SqlxCloudflare.Ieee.Nearest

Rounding a rational to the nearest integer, a tie going to the even one: the
only rounding IEEE arithmetic uses by default, and the one step every
conversion of `SqlxCloudflare.Ieee.Format` is built from.

What later modules need of it is proved once here: it fixes the integers, it
never crosses an integer, and no integer is closer than the one it picks.
-/

namespace Ieee

/-- The integer nearest to `x`; halfway between two, the even one. -/
def nearestEven (x : ℚ) : ℤ :=
  if Int.fract x < 1 / 2 then ⌊x⌋
  else if 1 / 2 < Int.fract x then ⌊x⌋ + 1
  else if Even ⌊x⌋ then ⌊x⌋
  else ⌊x⌋ + 1

@[simp] theorem nearestEven_intCast (k : ℤ) : nearestEven (k : ℚ) = k := by
  simp [nearestEven]

/-- The rounding error is at most one half. -/
theorem abs_nearestEven_sub_le (x : ℚ) : |(nearestEven x : ℚ) - x| ≤ 1 / 2 := by
  have hx : (⌊x⌋ : ℚ) + Int.fract x = x := Int.floor_add_fract x
  unfold nearestEven
  split_ifs with hlt hgt heven
  · have hnonneg := Int.fract_nonneg x
    rw [abs_le]
    constructor <;> linarith
  · have hone := Int.fract_lt_one x
    push_cast
    rw [abs_le]
    constructor <;> linarith
  · rw [abs_le]
    constructor <;> linarith
  · push_cast
    rw [abs_le]
    constructor <;> linarith

/-- Of two integers, one that is nearer than one half is the nearest: any
other is at least one away from it. -/
theorem abs_sub_le_of_abs_sub_le_half {n k : ℤ} {x : ℚ} (h : |(n : ℚ) - x| ≤ 1 / 2) :
    |(n : ℚ) - x| ≤ |(k : ℚ) - x| := by
  by_cases hk : n = k
  · rw [hk]
  · have hpos : 0 < |n - k| := abs_pos.mpr (sub_ne_zero.mpr hk)
    have hone : (1 : ℚ) ≤ |(n : ℚ) - k| := by exact_mod_cast hpos
    have htri : |(n : ℚ) - k| ≤ |(n : ℚ) - x| + |x - k| := abs_sub_le _ _ _
    rw [abs_sub_comm x] at htri
    linarith

/-- No integer is closer to `x` than the one `nearestEven` picks. -/
theorem nearestEven_nearest (x : ℚ) (k : ℤ) :
    |(nearestEven x : ℚ) - x| ≤ |(k : ℚ) - x| :=
  abs_sub_le_of_abs_sub_le_half (abs_nearestEven_sub_le x)

/-- Rounding never crosses an integer from above ... -/
theorem le_nearestEven {k : ℤ} {x : ℚ} (h : (k : ℚ) ≤ x) : k ≤ nearestEven x := by
  have hfloor : k ≤ ⌊x⌋ := Int.le_floor.mpr h
  unfold nearestEven
  split_ifs <;> omega

/-- ... nor from below. -/
theorem nearestEven_le {k : ℤ} {x : ℚ} (h : x ≤ k) : nearestEven x ≤ k := by
  by_cases hx : x = k
  · rw [hx, nearestEven_intCast]
  · have hlt : ⌊x⌋ < k := Int.floor_lt.mpr (lt_of_le_of_ne h hx)
    unfold nearestEven
    split_ifs <;> omega

/-- The magnitude of the result is at most an integer bound on `|x|` ... -/
theorem abs_nearestEven_le {n : ℕ} {x : ℚ} (h : |x| ≤ n) : |nearestEven x| ≤ n := by
  obtain ⟨hlo, hhi⟩ := abs_le.mp h
  refine abs_le.mpr ⟨le_nearestEven ?_, nearestEven_le ?_⟩
  · push_cast
    exact hlo
  · exact_mod_cast hhi

/-- ... and at least an integer lower bound. -/
theorem le_abs_nearestEven {n : ℕ} {x : ℚ} (h : (n : ℚ) ≤ |x|) : (n : ℤ) ≤ |nearestEven x| := by
  rcases le_abs.mp h with hpos | hneg
  · exact le_trans (le_nearestEven (by exact_mod_cast hpos)) (le_abs_self _)
  · have hle : nearestEven x ≤ -(n : ℤ) := nearestEven_le (by push_cast; linarith)
    exact le_trans (by omega) (neg_le_abs _)

end Ieee
