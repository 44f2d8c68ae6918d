import SqlxCloudflare.Ieee.Format
import SqlxCloudflare.IntRange

/-!
# SqlxCloudflare.Ieee.Binary

The numbers of a binary format: NaN, the two infinities, the two zeros, and
the nonzero rationals the format represents, each carrying the proof that it
does.  Bit patterns are left out on purpose -- nothing here depends on how a
number is stored.

Arithmetic is by its IEEE definition: compute exactly, then round once
(`ofRat`).  Comparisons follow IEEE too: NaN is not equal to anything, and the
two zeros are equal.
-/

namespace Ieee

/-- A number of the binary format `f`. -/
inductive Binary (f : Format) where
  | nan
  | infinity (negative : Bool)
  | zero (negative : Bool)
  | finite (q : ℚ) (ne_zero : q ≠ 0) (representable : f.Representable q)
deriving DecidableEq

namespace Binary

variable {f g : Format}

/-! ## values -/

/-- The rational a finite number denotes. -/
def toRat? : Binary f → Option ℚ
  | .finite q _ _ => some q
  | .zero _ => some 0
  | .infinity _ | .nan => none

@[simp] theorem toRat?_finite (q : ℚ) (h : q ≠ 0) (hr : f.Representable q) :
    toRat? (.finite q h hr) = some q := rfl
@[simp] theorem toRat?_zero (s : Bool) : toRat? (.zero s : Binary f) = some 0 := rfl
@[simp] theorem toRat?_infinity (s : Bool) : toRat? (.infinity s : Binary f) = none := rfl
@[simp] theorem toRat?_nan : toRat? (.nan : Binary f) = none := rfl

/-- `q` correctly rounded into the format: ties to even, and to an infinity
when the rounded magnitude is too large. -/
def ofRat (f : Format) (q : ℚ) : Binary f :=
  if h : f.rounded q = 0 then .zero (q < 0)
  else if hlt : |f.rounded q| < f.overflow then
    .finite (f.rounded q) h (f.representable_rounded (f.ne_zero_of_rounded_ne_zero h) hlt)
  else .infinity (q < 0)

/-- An integer converted to the format: Rust's `n as f64`. -/
def ofInt (f : Format) (n : ℤ) : Binary f := ofRat f n

/-- A number converted between formats: Rust's `x as f32` and `f64::from(x)`. -/
def convert (g : Format) : Binary f → Binary g
  | .nan => .nan
  | .infinity s => .infinity s
  | .zero s => .zero s
  | .finite q _ _ => ofRat g q

/-! ## comparisons -/

/-- IEEE `==`. -/
def beq : Binary f → Binary f → Bool
  | .infinity s, .infinity t => s == t
  | x, y => match x.toRat?, y.toRat? with
    | some a, some b => a = b
    | _, _ => false

/-- IEEE `<=`. -/
def le : Binary f → Binary f → Bool
  | .nan, _ | _, .nan => false
  | .infinity true, _ | _, .infinity false => true
  | x, y => match x.toRat?, y.toRat? with
    | some a, some b => a ≤ b
    | _, _ => false

/-- `x` and `y` are the same number up to the sign of zero, NaN being the same
as NaN. -/
def Same (x y : Binary f) : Prop := x.beq y = true ∨ (x = .nan ∧ y = .nan)

/-! ## arithmetic and casts -/

/-- `x` without its sign. -/
def abs : Binary f → Binary f
  | .nan => .nan
  | .infinity _ => .infinity false
  | .zero _ => .zero false
  | .finite q h hr => .finite |q| (abs_ne_zero.mpr h) (f.representable_abs hr)

/-- The integer part of a rational: rounded toward zero. -/
def truncRat (q : ℚ) : ℤ := if 0 ≤ q then ⌊q⌋ else ⌈q⌉

/-- The fractional part, `x - trunc(x)`; NaN for an infinity, as there. -/
def fract : Binary f → Binary f
  | .nan | .infinity _ => .nan
  | .zero _ => .zero false
  | .finite q _ _ => ofRat f (q - truncRat q)

/-- A float cast to an integer type: toward zero, saturating at the bounds,
and 0 for NaN. -/
def toIntRange {lo hi : ℤ} (hlo : lo ≤ 0) (hhi : 0 ≤ hi) : Binary f → IntRange lo hi
  | .nan | .zero _ => ⟨0, hlo, hhi⟩
  | .infinity true => ⟨lo, le_refl lo, le_trans hlo hhi⟩
  | .infinity false => ⟨hi, le_trans hlo hhi, le_refl hi⟩
  | .finite q _ _ =>
    ⟨max lo (min hi (truncRat q)), le_max_left _ _, max_le (le_trans hlo hhi) (min_le_left _ _)⟩

/-! ## rounding, as values -/

/-- What a finite number denotes is one of the format's rationals. -/
theorem representable_of_toRat? {x : Binary f} {q : ℚ} (h : x.toRat? = some q) :
    f.Representable q := by
  cases x with
  | nan => cases h
  | infinity s => cases h
  | zero s =>
      cases h
      exact f.representable_zero
  | finite r hr0 hr =>
      cases h
      exact hr

/-- A rational whose rounding does not overflow becomes that rounding. -/
theorem toRat?_ofRat {q : ℚ} (h : |f.rounded q| < f.overflow) :
    (ofRat f q).toRat? = some (f.rounded q) := by
  unfold ofRat
  split
  · next h0 => rw [toRat?_zero, h0]
  · rfl

/-- The format's own rationals are converted exactly. -/
theorem toRat?_ofRat_of_representable {q : ℚ} (h : f.Representable q) :
    (ofRat f q).toRat? = some q := by
  have hround := f.rounded_of_representable h
  have hlt : |f.rounded q| < f.overflow := by
    rw [hround]
    exact f.abs_lt_overflow h
  rw [toRat?_ofRat hlt, hround]

theorem ofRat_of_representable {q : ℚ} (h0 : q ≠ 0) (h : f.Representable q) :
    ofRat f q = .finite q h0 h := by
  have hval := toRat?_ofRat_of_representable h
  cases hx : ofRat f q with
  | nan => rw [hx] at hval; cases hval
  | infinity s => rw [hx] at hval; cases hval
  | zero s =>
      rw [hx] at hval
      exact absurd (Option.some.inj hval).symm h0
  | finite r hr0 hr =>
      rw [hx] at hval
      cases hval
      rfl

/-- A number is converted exactly to a format that represents it. -/
theorem toRat?_convert {x : Binary f} {q : ℚ} (h : x.toRat? = some q)
    (hq : g.Representable q) : (x.convert g).toRat? = some q := by
  cases x with
  | nan => cases h
  | infinity s => cases h
  | zero s => exact h
  | finite r hr0 hr =>
      cases h
      exact toRat?_ofRat_of_representable hq

/-- Widening a number does not change what it denotes. -/
theorem toRat?_convert_of_le (hfg : ∀ q, f.Representable q → g.Representable q) (x : Binary f) :
    (x.convert g).toRat? = x.toRat? := by
  cases x with
  | nan => rfl
  | infinity s => rfl
  | zero s => rfl
  | finite q h0 hq => exact toRat?_ofRat_of_representable (hfg q hq)

/-- Widening a number and narrowing it again gives it back. -/
theorem convert_convert (hfg : ∀ q, f.Representable q → g.Representable q) (x : Binary f) :
    (x.convert g).convert f = x := by
  cases x with
  | nan => rfl
  | infinity s => rfl
  | zero s => rfl
  | finite q h0 hq =>
      simp only [convert]
      rw [ofRat_of_representable h0 (hfg q hq)]
      exact ofRat_of_representable h0 hq

/-- A number narrowed and widened again has the value it had exactly when the
narrower format represents it. -/
theorem toRat?_convert_convert_iff (hfg : ∀ q, f.Representable q → g.Representable q)
    {x : Binary g} {q : ℚ} (hx : x.toRat? = some q) :
    ((x.convert f).convert g).toRat? = some q ↔ f.Representable q := by
  rw [toRat?_convert_of_le hfg]
  exact ⟨fun h => representable_of_toRat? h, fun h => toRat?_convert hx h⟩

/-- The value of a number that is not a zero tells which it is. -/
theorem eq_of_toRat? {x y : Binary f} {q : ℚ} (hx : x.toRat? = some q) (hy : y.toRat? = some q)
    (hq : q ≠ 0) : x = y := by
  cases x <;> cases y <;> simp_all [toRat?]

/-! ## comparisons, as values -/

theorem beq_eq_decide {x y : Binary f} {a b : ℚ} (hx : x.toRat? = some a)
    (hy : y.toRat? = some b) : x.beq y = decide (a = b) := by
  cases x <;> cases y <;> simp_all [beq]

theorem le_eq_decide {x y : Binary f} {a b : ℚ} (hx : x.toRat? = some a)
    (hy : y.toRat? = some b) : x.le y = decide (a ≤ b) := by
  cases x <;> cases y <;> simp_all [le]

/-- Two numbers with one value are the same. -/
theorem same_of_toRat? {x y : Binary f} {q : ℚ} (hx : x.toRat? = some q)
    (hy : y.toRat? = some q) : Same x y := by
  left
  simp [beq_eq_decide hx hy]

theorem same_refl (x : Binary f) : Same x x := by
  cases x <;> simp [Same, beq]

/-! ## the fractional part and integer casts -/

@[simp] theorem toRat?_abs (x : Binary f) : x.abs.toRat? = x.toRat?.map (|·|) := by
  cases x <;> simp [abs]

@[simp] theorem truncRat_intCast (n : ℤ) : truncRat (n : ℚ) = n := by
  simp [truncRat]

/-- The fractional part of a number that is not whole does not underflow: it
is at least one unit of the number's own last place. -/
theorem rounded_sub_truncRat_ne_zero {q : ℚ} (hq : f.Representable q)
    (h : q - truncRat q ≠ 0) : f.rounded (q - truncRat q) ≠ 0 := by
  obtain ⟨m, e, hm, hlo, hhi, rfl⟩ := hq
  have hpos := two_zpow_pos e
  have hunit := f.representable_two_zpow hlo hhi
  -- a whole number of last places, were the exponent not negative it would be whole
  have hmult : ∃ k : ℤ, (m * 2 ^ e : ℚ) - truncRat (m * 2 ^ e) = k * 2 ^ e := by
    rcases le_or_gt 0 e with he | he
    · obtain ⟨k, hk⟩ := exists_zpow_eq_mul he
      rw [zpow_zero, mul_one] at hk
      refine absurd ?_ h
      rw [hk, ← Int.cast_mul, truncRat_intCast, sub_self]
    · obtain ⟨k, hk⟩ := exists_zpow_eq_mul he.le
      rw [zpow_zero] at hk
      refine ⟨m - truncRat (m * 2 ^ e) * k, ?_⟩
      push_cast
      rw [sub_mul, mul_assoc, ← hk, mul_one]
  obtain ⟨k, hk⟩ := hmult
  rw [hk] at h ⊢
  have hk0 : k ≠ 0 := by
    rintro rfl
    simp at h
  rcases lt_or_gt_of_ne hk0 with hneg | hpos'
  · have hle : (k * 2 ^ e : ℚ) ≤ -2 ^ e := by
      have : (k : ℚ) ≤ -1 := by exact_mod_cast (by omega : k ≤ -1)
      nlinarith
    have := f.rounded_le (f.representable_neg hunit) hle
    linarith
  · have hle : (2 ^ e : ℚ) ≤ k * 2 ^ e := by
      have : (1 : ℚ) ≤ k := by exact_mod_cast (by omega : 1 ≤ k)
      nlinarith
    have := f.le_rounded hunit hle
    linarith

/-- `x.fract() == 0.0` holds exactly of the whole numbers. -/
theorem fract_beq_zero_iff (x : Binary f) (s : Bool) :
    x.fract.beq (.zero s) = true ↔ ∃ n : ℤ, x.toRat? = some (n : ℚ) := by
  cases x with
  | nan => simp [fract, beq]
  | infinity t => simp [fract, beq]
  | zero t => exact ⟨fun _ => ⟨0, by simp⟩, fun _ => by simp [fract, beq]⟩
  | finite q h0 hq =>
      by_cases hfract : q - truncRat q = 0
      · have hwhole : q = truncRat q := sub_eq_zero.mp hfract
        have hzero : (ofRat f (q - truncRat q)).toRat? = some 0 := by
          rw [hfract]
          exact toRat?_ofRat_of_representable f.representable_zero
        refine ⟨fun _ => ⟨truncRat q, by rw [toRat?_finite, ← hwhole]⟩, fun _ => ?_⟩
        rw [fract, beq_eq_decide hzero (toRat?_zero s)]
        rfl
      · have hne := rounded_sub_truncRat_ne_zero hq hfract
        constructor
        · intro hbeq
          refine absurd hbeq ?_
          change ¬(ofRat f (q - truncRat q)).beq (.zero s) = true
          rw [ofRat, dif_neg hne]
          split <;> simp [beq, hne]
        · rintro ⟨n, hn⟩
          cases hn
          simp at hfract

/-- A whole number is cast to itself, or to the bound it is beyond. -/
theorem val_toIntRange_intCast {lo hi : ℤ} (hlo : lo ≤ 0) (hhi : 0 ≤ hi) {x : Binary f} {n : ℤ}
    (hx : x.toRat? = some (n : ℚ)) : (x.toIntRange hlo hhi).val = max lo (min hi n) := by
  cases x with
  | nan => cases hx
  | infinity s => cases hx
  | zero s =>
      have hzero : (n : ℚ) = 0 := (Option.some.inj hx).symm
      have hn : n = 0 := by exact_mod_cast hzero
      simp only [toIntRange]
      omega
  | finite q h0 hq =>
      cases hx
      simp only [toIntRange, truncRat_intCast]

/-- A whole number within the bounds is cast exactly. -/
theorem val_toIntRange {lo hi : ℤ} (hlo : lo ≤ 0) (hhi : 0 ≤ hi) {x : Binary f} {n : ℤ}
    (hx : x.toRat? = some (n : ℚ)) (h1 : lo ≤ n) (h2 : n ≤ hi) :
    (x.toIntRange hlo hhi).val = n := by
  rw [val_toIntRange_intCast hlo hhi hx]
  omega

end Binary

/-! ## double and single precision -/

abbrev F64 := Binary binary64
abbrev F32 := Binary binary32

/-- Every single is a double. -/
theorem binary64_representable_of_binary32 (q : ℚ) (h : binary32.Representable q) :
    binary64.Representable q := by
  obtain ⟨m, e, hm, hlo, hhi, rfl⟩ := h
  refine ⟨m, e, lt_trans hm (by norm_num [binary32, binary64]), ?_, ?_, rfl⟩
  · exact le_trans (by decide) hlo
  · exact le_trans hhi (by decide)

/-- The integers of 53 bits are doubles. -/
theorem binary64_representable_intCast {n : ℤ} (h : |n| < 2 ^ 53) :
    binary64.Representable n :=
  binary64.representable_intCast h (by decide) (by decide)

/-- An integer of 53 bits is converted to a double exactly. -/
theorem toRat?_ofInt_binary64 {n : ℤ} (h : |n| < 2 ^ 53) :
    (Binary.ofInt binary64 n).toRat? = some (n : ℚ) :=
  Binary.toRat?_ofRat_of_representable (binary64_representable_intCast h)

end Ieee
