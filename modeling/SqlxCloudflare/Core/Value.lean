import SqlxCloudflare.Ieee.Binary

/-!
# SqlxCloudflare.Core.Value

The value model both drivers share: the storage classes, one SQLite value on
the Rust side of the JavaScript boundary, the ±(2^53 − 1) rule, and the
accessors the `Decode` implementations read values with.

The classifier of JavaScript numbers, `Value.fromNumber`, is pinned by two
lemmas: whole numbers in the safe range are the `INTEGER` they denote
(`fromNumber_whole`), everything else is the `REAL` it was
(`fromNumber_real`).
-/

namespace SqlxCloudflare

open Ieee

/-- A boxed error, as its message. -/
abbrev BoxDynError := String

/-! ## storage classes -/

/-- The storage class of a single value. -/
inductive TypeInfo where
  | null
  | integer
  | real
  | text
  | blob
deriving DecidableEq, Repr

namespace TypeInfo

def isNull : TypeInfo → Bool
  | .null => true
  | _ => false

def name : TypeInfo → String
  | .null => "NULL"
  | .integer => "INTEGER"
  | .real => "REAL"
  | .text => "TEXT"
  | .blob => "BLOB"

end TypeInfo

/-! ## values -/

/-- One SQLite value, bound or read: `Value` of `value.rs`. -/
inductive Value where
  | null
  | integer (value : I64)
  | real (value : F64)
  | text (value : String)
  | blob (value : List UInt8)
deriving DecidableEq

/-- The largest integer a JavaScript number holds exactly: `Number.MAX_SAFE_INTEGER`. -/
def maxSafeInteger : ℤ := (1 <<< 53) - 1

theorem maxSafeInteger_eq : maxSafeInteger = 2 ^ 53 - 1 := by decide

/-- An integer within ±(2^53 − 1). -/
def Safe (n : ℤ) : Prop := -maxSafeInteger ≤ n ∧ n ≤ maxSafeInteger

instance (n : ℤ) : Decidable (Safe n) := inferInstanceAs (Decidable (_ ∧ _))

/-- `value`, if a JavaScript number can carry it without rounding. -/
def safeInteger (value : I64) : Except BoxDynError I64 :=
  if Safe value.val then .ok value
  else .error (s!"{value.val} is outside ±(2^53 − 1), the integers a JavaScript number holds " ++
    "exactly: it would be stored as a different integer")

/-- Rust's `n as f64`. -/
def I64.asF64 (n : I64) : F64 := Binary.ofInt binary64 n.val

/-- Rust's `x as i64`. -/
def asI64 (x : F64) : I64 := x.toIntRange I64.min_le_zero I64.zero_le_max

/-- Rust's `x as u64`. -/
def asU64 (x : F64) : U64 := x.toIntRange IntRange.zero_le_zero U64.zero_le_max

namespace Value

/-- A JavaScript number, as the storage class it most likely came from. -/
def fromNumber (value : F64) : Value :=
  if value.fract.beq (.zero false) && value.abs.le (Binary.ofInt binary64 maxSafeInteger) then
    .integer (asI64 value)
  else .real value

/-- The value's storage class. -/
def typeInfo : Value → TypeInfo
  | .null => .null
  | .integer _ => .integer
  | .real _ => .real
  | .text _ => .text
  | .blob _ => .blob

/-- Whether the value is `NULL`. -/
def isNull : Value → Bool
  | .null => true
  | _ => false

def mismatch (expected : String) (found : Value) : BoxDynError :=
  s!"expected {expected}, found {found.typeInfo.name}"

/-- An `INTEGER`. -/
def int : Value → Except BoxDynError I64
  | .integer value => .ok value
  | other => .error (mismatch "an INTEGER" other)

/-- A `REAL`, or an `INTEGER` as one. -/
def asReal : Value → Except BoxDynError F64
  | .real value => .ok value
  | .integer value => .ok (I64.asF64 value)
  | other => .error (mismatch "a REAL" other)

/-- `TEXT`. -/
def asText : Value → Except BoxDynError String
  | .text value => .ok value
  | other => .error (mismatch "TEXT" other)

/-- A `BLOB`, or `TEXT` as its bytes. -/
def asBlob : Value → Except BoxDynError (List UInt8)
  | .blob value => .ok value
  | .text value => .ok value.toUTF8.data.toList
  | other => .error (mismatch "a BLOB" other)

end Value

/-! ## the safe range -/

theorem safe_iff_abs_le {n : ℤ} : Safe n ↔ |n| ≤ maxSafeInteger := abs_le.symm

theorem abs_lt_of_safe {n : ℤ} (h : Safe n) : |n| < 2 ^ 53 := by
  have hle := safe_iff_abs_le.mp h
  rw [maxSafeInteger_eq] at hle
  omega

/-- A safe integer is an `i64`. -/
def Safe.toI64 {n : ℤ} (h : Safe n) : I64 :=
  ⟨n, by have := h.1; rw [maxSafeInteger_eq] at this; omega,
    by have := h.2; rw [maxSafeInteger_eq] at this; omega⟩

theorem safeInteger_of_safe {n : I64} (h : Safe n.val) : safeInteger n = .ok n := if_pos h

theorem safeInteger_of_not_safe {n : I64} (h : ¬Safe n.val) :
    ∃ error, safeInteger n = .error error := ⟨_, if_neg h⟩

/-- A safe integer crosses as a double without rounding. -/
theorem toRat?_asF64 {n : I64} (h : Safe n.val) :
    (I64.asF64 n).toRat? = some (n.val : ℚ) :=
  toRat?_ofInt_binary64 (abs_lt_of_safe h)

/-- A count crosses as a double without rounding. -/
theorem val_asU64 {x : F64} {n : ℤ} (hx : x.toRat? = some (n : ℚ)) (hlo : 0 ≤ n)
    (hhi : n ≤ 2 ^ 64 - 1) : (asU64 x).val = n :=
  Binary.val_toIntRange _ _ hx hlo hhi

/-! ## the classifier -/

/-- The condition of `fromNumber`, as the value it tests for: a whole number in
the safe range. -/
theorem fromNumber_condition_iff (x : F64) :
    (x.fract.beq (.zero false) && x.abs.le (Binary.ofInt binary64 maxSafeInteger)) = true ↔
      ∃ n : ℤ, x.toRat? = some (n : ℚ) ∧ Safe n := by
  have hmax : (Binary.ofInt binary64 maxSafeInteger).toRat? = some (maxSafeInteger : ℚ) :=
    toRat?_ofInt_binary64 (by decide)
  have hle : ∀ n : ℤ, x.toRat? = some (n : ℚ) →
      x.abs.le (Binary.ofInt binary64 maxSafeInteger) = decide (Safe n) := by
    intro n hn
    have habs : x.abs.toRat? = some ((|n| : ℤ) : ℚ) := by simp [hn]
    rw [Binary.le_eq_decide habs hmax, decide_eq_decide, safe_iff_abs_le]
    exact_mod_cast Iff.rfl
  rw [Bool.and_eq_true, Binary.fract_beq_zero_iff]
  constructor
  · rintro ⟨⟨n, hn⟩, hsafe⟩
    rw [hle n hn, decide_eq_true_eq] at hsafe
    exact ⟨n, hn, hsafe⟩
  · rintro ⟨n, hn, hsafe⟩
    exact ⟨⟨n, hn⟩, by rw [hle n hn, decide_eq_true_eq]; exact hsafe⟩

/-- A whole number in the safe range is taken as that `INTEGER`. -/
theorem fromNumber_whole {x : F64} {n : ℤ} (hx : x.toRat? = some (n : ℚ)) (h : Safe n) :
    Value.fromNumber x = .integer h.toI64 := by
  have hcond := (fromNumber_condition_iff x).mpr ⟨n, hx, h⟩
  have hcast : asI64 x = h.toI64 :=
    IntRange.ext (Binary.val_toIntRange _ _ hx h.toI64.lo_le h.toI64.le_hi)
  rw [Value.fromNumber, if_pos hcond, hcast]

/-- Any other number is taken as the `REAL` it is. -/
theorem fromNumber_real {x : F64} (h : ∀ n : ℤ, Safe n → x.toRat? ≠ some (n : ℚ)) :
    Value.fromNumber x = .real x := by
  have hcond : ¬(x.fract.beq (.zero false) &&
      x.abs.le (Binary.ofInt binary64 maxSafeInteger)) = true := by
    rw [fromNumber_condition_iff]
    rintro ⟨n, hn, hsafe⟩
    exact h n hsafe hn
  rw [Value.fromNumber, if_neg hcond]

/-- Either way, the number reads back as a float of the same value. -/
theorem fromNumber_cases (x : F64) :
    (∃ n, ∃ h : Safe n, x.toRat? = some (n : ℚ) ∧ Value.fromNumber x = .integer h.toI64) ∨
      Value.fromNumber x = .real x := by
  by_cases hx : ∃ n : ℤ, x.toRat? = some (n : ℚ) ∧ Safe n
  · obtain ⟨n, hn, hsafe⟩ := hx
    exact .inl ⟨n, hsafe, hn, fromNumber_whole hn hsafe⟩
  · refine .inr (fromNumber_real ?_)
    intro n hsafe hn
    exact hx ⟨n, hn, hsafe⟩

end SqlxCloudflare
