import Mathlib.Tactic

/-!
# SqlxCloudflare.IntRange

Fixed-width integers as the integers between two bounds.  The bounds are part
of the type, so a value outside them cannot be built, and `omega` sees every
value as the integer it is.
-/

/-- An integer between `lo` and `hi`. -/
structure IntRange (lo hi : ℤ) where
  val : ℤ
  lo_le : lo ≤ val
  le_hi : val ≤ hi
deriving DecidableEq

namespace IntRange

variable {lo hi : ℤ}

@[ext] theorem ext {a b : IntRange lo hi} (h : a.val = b.val) : a = b := by
  cases a
  cases b
  simpa using h

/-- A value of a narrower range: `from`. -/
def widen {lo' hi' : ℤ} (hlo : lo' ≤ lo) (hhi : hi ≤ hi') (a : IntRange lo hi) :
    IntRange lo' hi' :=
  ⟨a.val, le_trans hlo a.lo_le, le_trans a.le_hi hhi⟩

/-- `n` as a value of the range, when it fits: `try_from`. -/
def tryFrom (lo hi n : ℤ) : Option (IntRange lo hi) :=
  if h : lo ≤ n ∧ n ≤ hi then some ⟨n, h.1, h.2⟩ else none

@[simp] theorem tryFrom_val (a : IntRange lo hi) : tryFrom lo hi a.val = some a := by
  simp [tryFrom, a.lo_le, a.le_hi]

/-- A number whose bounds can be computed. -/
def lit (n : ℤ) (h : decide (lo ≤ n ∧ n ≤ hi) = true) : IntRange lo hi :=
  ⟨n, (of_decide_eq_true h).1, (of_decide_eq_true h).2⟩

/-- A value that fits is not changed by the conversion. -/
theorem val_of_tryFrom {n : ℤ} {a : IntRange lo hi} (h : tryFrom lo hi n = some a) :
    a.val = n := by
  unfold tryFrom at h
  split at h
  · cases h
    rfl
  · cases h

end IntRange

abbrev I8 := IntRange (-2 ^ 7) (2 ^ 7 - 1)
abbrev I16 := IntRange (-2 ^ 15) (2 ^ 15 - 1)
abbrev I32 := IntRange (-2 ^ 31) (2 ^ 31 - 1)
abbrev I64 := IntRange (-2 ^ 63) (2 ^ 63 - 1)
abbrev U8 := IntRange 0 (2 ^ 8 - 1)
abbrev U16 := IntRange 0 (2 ^ 16 - 1)
abbrev U32 := IntRange 0 (2 ^ 32 - 1)
abbrev U64 := IntRange 0 (2 ^ 64 - 1)

/-! ## the bounds of zero and one -/

theorem IntRange.zero_le_zero : (0 : ℤ) ≤ 0 := le_rfl

theorem U64.zero_le_max : (0 : ℤ) ≤ 2 ^ 64 - 1 := by norm_num

theorem I64.min_le_zero : (-2 ^ 63 : ℤ) ≤ 0 := by norm_num

theorem I64.zero_le_max : (0 : ℤ) ≤ 2 ^ 63 - 1 := by norm_num

theorem I64.min_le_bit (b : Bool) : (-2 ^ 63 : ℤ) ≤ if b then 1 else 0 := by
  cases b <;> norm_num

theorem I64.bit_le_max (b : Bool) : (if b then 1 else 0 : ℤ) ≤ 2 ^ 63 - 1 := by
  cases b <;> norm_num
