import SqlxCloudflare.Core.Decoding

/-!
# SqlxCloudflare.Core.Stored

Integers the database holds.  They are a second way into the classifier: a
stored integer arrives already rounded to a double, so `fromJs` judges a
number that may not be the integer that was stored.

* `le_abs_of_not_safe` -- no integer outside ±(2^53 − 1) rounds into it;
* `fromJs_asF64` -- so the classifier gives exactly the safe integers back,
  and everything else as a `REAL`;
* `stored_integer` -- hence no integer type reads a different integer.
-/

namespace SqlxCloudflare

open Fallible Ieee

/-! ## the double of a stored integer -/

theorem binary64_representable_two_pow_63 : binary64.Representable (2 ^ 63) := by
  exact_mod_cast binary64.representable_two_zpow (e := 63) (by decide) (by decide)

theorem binary64_representable_two_pow_53 : binary64.Representable (2 ^ 53) := by
  exact_mod_cast binary64.representable_two_zpow (e := 53) (by decide) (by decide)

/-- An `i64` does not overflow: its double is its rounding, within ±2^63. -/
theorem toRat?_asF64_eq_rounded (n : I64) :
    (I64.asF64 n).toRat? = some (binary64.rounded n.val) := by
  have hlo : (-2 ^ 63 : ℚ) ≤ n.val := by exact_mod_cast n.lo_le
  have hhi : (n.val : ℚ) ≤ 2 ^ 63 := by
    have := n.le_hi
    exact_mod_cast (by omega : n.val ≤ 2 ^ 63)
  have hneg := binary64.representable_neg binary64_representable_two_pow_63
  have habs : |binary64.rounded n.val| ≤ 2 ^ 63 :=
    abs_le.mpr ⟨binary64.le_rounded hneg hlo,
      binary64.rounded_le binary64_representable_two_pow_63 hhi⟩
  have hbig : |(2 : ℚ) ^ 63| < binary64.overflow :=
    binary64.abs_lt_overflow binary64_representable_two_pow_63
  refine Binary.toRat?_ofRat (lt_of_le_of_lt habs ?_)
  rwa [abs_of_pos (by positivity)] at hbig

/-- An integer outside the safe range does not round into it: 2^53 is itself
a double, and rounding does not cross it. -/
theorem le_abs_of_not_safe {n : I64} (h : ¬Safe n.val) {r : ℚ}
    (hr : (I64.asF64 n).toRat? = some r) : 2 ^ 53 ≤ |r| := by
  rw [toRat?_asF64_eq_rounded] at hr
  cases hr
  rcases lt_or_ge n.val 0 with hneg | hpos
  · have hn : n.val ≤ -2 ^ 53 := by
      rw [Safe, maxSafeInteger_eq] at h
      omega
    have hle : binary64.rounded n.val ≤ -2 ^ 53 :=
      binary64.rounded_le (binary64.representable_neg binary64_representable_two_pow_53)
        (by exact_mod_cast hn)
    exact le_abs.mpr (.inr (by linarith))
  · have hn : 2 ^ 53 ≤ n.val := by
      rw [Safe, maxSafeInteger_eq] at h
      omega
    have hle : 2 ^ 53 ≤ binary64.rounded n.val :=
      binary64.le_rounded binary64_representable_two_pow_53 (by exact_mod_cast hn)
    exact le_abs.mpr (.inl hle)

/-- No double is nearer to a stored integer than the one it arrives as. -/
theorem abs_asF64_sub_le (n : I64) :
    ∃ r, (I64.asF64 n).toRat? = some r ∧
      ∀ s, binary64.Representable s → |r - n.val| ≤ |s - n.val| :=
  ⟨_, toRat?_asF64_eq_rounded n, fun _ hs => binary64.abs_rounded_sub_le hs⟩

/-! ## what it is read as -/

/-- What a stored integer is read as. -/
def storedAs (n : I64) : Value := if Safe n.val then .integer n else .real (I64.asF64 n)

/-- The classifier takes a stored integer for itself when it is safe, and for
a `REAL` when it is not. -/
theorem fromNumber_asF64 (n : I64) : Value.fromNumber (I64.asF64 n) = storedAs n := by
  unfold storedAs
  split
  · next hsafe => exact fromNumber_whole (toRat?_asF64 hsafe) hsafe
  · next hsafe =>
      refine fromNumber_real fun m hm hval => ?_
      have hge := le_abs_of_not_safe hsafe hval
      have hlt : |(m : ℚ)| < 2 ^ 53 := by exact_mod_cast abs_lt_of_safe hm
      exact absurd hge (not_le.mpr hlt)

theorem fromJs_asF64 [JsDebug] (n : I64) : fromJs (.number (I64.asF64 n)) = .ok (storedAs n) :=
  congrArg Except.ok (fromNumber_asF64 n)

/-- Only a safe integer is read as an `INTEGER`, and then as itself. -/
theorem int_storedAs (n : I64) :
    (storedAs n).int = if Safe n.val then .ok n else .error (Value.mismatch "an INTEGER"
      (.real (I64.asF64 n))) := by
  unfold storedAs
  split <;> rfl

/-- As a float, either way, it is the double it arrived as. -/
theorem asReal_storedAs (n : I64) : (storedAs n).asReal = .ok (I64.asF64 n) := by
  unfold storedAs
  split <;> rfl

/-! ## decoding it -/

/-- The integer a value of an integer type is; `none` for the other types. -/
def RustType.integer? : (t : RustType) → t.Val → Option ℤ
  | .i8, value => some value.val
  | .i16, value => some value.val
  | .i32, value => some value.val
  | .u8, value => some value.val
  | .u16, value => some value.val
  | .u32, value => some value.val
  | .i64, value => some value.val
  | _, _ => none

/-- The integer types: `i64` and the narrower ones. -/
def RustType.isInteger : RustType → Bool
  | .i8 | .i16 | .i32 | .u8 | .u16 | .u32 | .i64 => true
  | _ => false

/-- A narrow integer type reads the integer it is given or fails. -/
theorem val_of_decodeNarrowInt {lo hi : ℤ} {value : Value} {x : IntRange lo hi}
    (h : RustType.decodeNarrowInt lo hi value = .ok x) :
    ∃ n, value.int = .ok n ∧ x.val = n.val := by
  obtain ⟨n, hn, htry⟩ := bind_eq_ok_iff.mp h
  refine ⟨n, hn, ?_⟩
  cases hx : IntRange.tryFrom lo hi n.val with
  | none =>
      rw [hx] at htry
      cases htry
  | some y =>
      rw [hx] at htry
      cases htry
      exact IntRange.val_of_tryFrom hx

/-- An integer type decodes a value as the integer it is, or fails. -/
theorem integer?_of_decode {t : RustType} (ht : t.isInteger = true) {value : Value} {x : t.Val}
    (h : t.decode value = .ok x) : ∃ n, value.int = .ok n ∧ t.integer? x = some n.val := by
  cases t with
  | i64 => exact ⟨x, h, rfl⟩
  | i8 | i16 | i32 | u8 | u16 | u32 =>
      obtain ⟨n, hn, hx⟩ := val_of_decodeNarrowInt h
      exact ⟨n, hn, congrArg some hx⟩
  | _ => cases ht

section

variable [JsDebug]

/-- **No stored integer is read as a different integer**: it is classified as
itself when it is safe and as a `REAL` when it is not, every integer type reads
it as itself or fails, `i64` reads it exactly when it is safe, and `f64` always
reads the double nearest to it. -/
theorem stored_integer (n : I64) (name : String) (index : ColumnIndex)
    (hindex : index = .position 0 ∨ index = .name name) :
    fromJs (.number (I64.asF64 n)) =
        .ok (if Safe n.val then .integer n else .real (I64.asF64 n)) ∧
      (∀ t : RustType, t.isInteger = true → ∀ x,
        readBack (.plain t) name index (.number (I64.asF64 n)) = .ok x →
          t.integer? x = some n.val) ∧
      ((∃ x, readBack (.plain .i64) name index (.number (I64.asF64 n)) = .ok x) ↔ Safe n.val) ∧
      readBack (.plain .f64) name index (.number (I64.asF64 n)) = .ok (I64.asF64 n) ∧
      ∃ r, (I64.asF64 n).toRat? = some r ∧
        ∀ s, binary64.Representable s → |r - n.val| ≤ |s - n.val| := by
  have hread : ∀ t, readBack t name index (.number (I64.asF64 n)) =
      returns (t.tryDecode index (storedAs n)) := fun t => readBack_eq hindex (fromJs_asF64 n)
  refine ⟨fromJs_asF64 n, ?_, ?_, ?_, abs_asF64_sub_le n⟩
  · intro t ht x hx
    rw [hread] at hx
    have hdecode := SqlType.tryDecode_eq_ok_iff.mp (returns_eq_ok_iff.mp hx)
    obtain ⟨m, hm, hval⟩ := integer?_of_decode ht hdecode
    rw [int_storedAs] at hm
    split at hm
    · cases hm
      exact hval
    · cases hm
  · rw [hread]
    constructor
    · rintro ⟨x, hx⟩
      have hint : (storedAs n).int = .ok x :=
        SqlType.tryDecode_eq_ok_iff.mp (returns_eq_ok_iff.mp hx)
      rw [int_storedAs] at hint
      by_contra hsafe
      rw [if_neg hsafe] at hint
      cases hint
    · intro hsafe
      refine ⟨n, ?_⟩
      rw [storedAs, if_pos hsafe]
      rfl
  · rw [hread]
    have hcompatible : (SqlType.plain .f64).compatible (storedAs n).typeInfo = true := by
      unfold storedAs
      split <;> rfl
    have hdecode : (SqlType.plain .f64).decode (storedAs n) = .ok (I64.asF64 n) :=
      asReal_storedAs n
    rw [SqlType.tryDecode, hcompatible, hdecode, Bool.not_true, Bool.and_false]
    rfl

end

/-- The first integer a JavaScript number does not tell from its neighbour is
not read as an `i64` at all. -/
theorem stored_integer_two_pow_53 :
    letI := JsDebug.describing
    (∃ x, readBack (.plain .i64) "n" (.position 0)
        (.number (I64.asF64 (.lit (2 ^ 53) rfl))) = .ok x) ↔ Safe (2 ^ 53) :=
  letI := JsDebug.describing
  (stored_integer (.lit (2 ^ 53) rfl) "n" (.position 0) (.inl rfl)).2.2.1

end SqlxCloudflare
