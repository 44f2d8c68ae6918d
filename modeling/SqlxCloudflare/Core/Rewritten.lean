import SqlxCloudflare.Core.Decoding
import SqlxCloudflare.Core.NormalForm

/-!
# SqlxCloudflare.Core.Rewritten

A value that is read as some type and written back as that type.  It can always
be bound, and reads as the same again; and the value stored is the one that was
read, but for three types: a `bool` is written as 0 or 1, an `f32` as the
nearest `f32`, and `TEXT` read as bytes is written as a BLOB (`Keeps`).

* `rewritten_iff` -- for one type, by its arm of `decode` and of `encode`;
* `rewritten` -- the same with `Option`, through JavaScript.
-/

namespace SqlxCloudflare

open Fallible Ieee

namespace RustType

/-- Writing back what the value was read as leaves it as it is. -/
def Keeps : RustType → Value → Prop
  | .bool, value => ∃ n : I64, value = .integer n ∧ (n.val = 0 ∨ n.val = 1)
  | .f32, value => ∀ x q, value.asReal = .ok x → x.toRat? = some q → binary32.Representable q
  | .slice, value | .vec, value | .boxSlice, value | .arcSlice, value =>
    ∃ bytes, value = .blob bytes
  | _, _ => True

/-- A value as it is read: in normal form, and an `INTEGER` is safe. -/
structure Read (value : Value) : Prop where
  normal : value.normal = value
  safe : ∀ n, value = .integer n → Safe n.val

variable {value : Value}

/-- A float that was read is a zero only as an `INTEGER`. -/
theorem Read.ne_zero {x : F64} (h : Read (.real x)) {q : ℚ} (hx : x.toRat? = some q) : q ≠ 0 := by
  rintro rfl
  have hnormal := h.normal
  have hsafe : Safe 0 := by decide
  rw [Value.normal, fromNumber_whole (by exact_mod_cast hx) hsafe] at hnormal
  cases hnormal

/-- A number that is read as a float comes back as it was. -/
theorem fromNumber_asReal (h : Read value) {x : F64} (hx : value.asReal = .ok x) :
    Value.fromNumber x = value := by
  cases value with
  | real y =>
      cases hx
      exact h.normal
  | integer n =>
      cases hx
      exact fromNumber_whole (toRat?_asF64 (h.safe n rfl)) (h.safe n rfl)
  | null | text _ | blob _ => cases hx

/-- A number of the value of one that was read, and no other, is read as it. -/
theorem fromNumber_eq_iff (h : Read value) {x y : F64} (hx : value.asReal = .ok x) {q : ℚ}
    (hq : x.toRat? = some q) : Value.fromNumber y = value ↔ y.toRat? = some q := by
  have hkeeps := fromNumber_asReal h hx
  cases value with
  | real z =>
      cases hx
      constructor
      · intro hy
        rcases fromNumber_cases y with ⟨n, hsafe, _, hinteger⟩ | hreal
        · rw [hinteger] at hy
          cases hy
        · rw [hreal] at hy
          cases hy
          exact hq
      · intro hy
        rwa [Binary.eq_of_toRat? hy hq (h.ne_zero hq)]
  | integer n =>
      cases hx
      have hsafe := h.safe n rfl
      rw [toRat?_asF64 hsafe] at hq
      cases hq
      constructor
      · intro hy
        rcases fromNumber_cases y with ⟨m, hm, hval, hinteger⟩ | hreal
        · rw [hinteger] at hy
          cases hy
          exact hval
        · rw [hreal] at hy
          cases hy
      · exact fun hy => fromNumber_whole hy hsafe
  | null | text _ | blob _ => cases hx

/-- A number comes back from an `f32` as it was when it is one. -/
theorem fromNumber_convert_iff (h : Read value) {x : F64} (hx : value.asReal = .ok x) :
    Value.fromNumber ((x.convert binary32).convert binary64) = value ↔
      ∀ q, x.toRat? = some q → binary32.Representable q := by
  cases hval : x.toRat? with
  | none =>
      have hsame : (x.convert binary32).convert binary64 = x := by
        cases x <;> simp_all [Binary.toRat?, Binary.convert]
      rw [hsame]
      refine iff_of_true (fromNumber_asReal h hx) fun q hq => ?_
      cases hq
  | some q =>
      rw [fromNumber_eq_iff h hx hval,
        Binary.toRat?_convert_convert_iff binary64_representable_of_binary32 hval]
      simp

/-! ## one type -/

/-- An integer that was narrowed is widened to what it was. -/
theorem widen_decodeNarrowInt {lo hi : ℤ} (hlo : -2 ^ 63 ≤ lo) (hhi : hi ≤ 2 ^ 63 - 1)
    {x : IntRange lo hi} (h : decodeNarrowInt lo hi value = .ok x) :
    (Value.integer (x.widen hlo hhi)).normal = value := by
  obtain ⟨n, rfl, hval⟩ := decodeNarrowInt_eq_ok_iff.mp h
  exact congrArg Value.integer (IntRange.ext hval.symm)

/-- What a value that was read decodes to, can be bound. -/
theorem fits_of_decode (h : Read value) {t : RustType} {x : t.Val} (hx : t.decode value = .ok x) :
    t.Fits x := by
  cases t with
  | i64 =>
      cases value with
      | integer n =>
          cases hx
          exact h.safe _ rfl
      | null | real _ | text _ | blob _ => cases hx
  | _ => trivial

/-- What it is encoded to comes back as the value exactly when the type keeps
it. -/
theorem rewritten_iff (h : Read value) {t : RustType} {x : t.Val} (hx : t.decode value = .ok x) :
    (t.encoded x).normal = value ↔ t.Keeps value := by
  cases t with
  | i8 | i16 | i32 | u8 | u16 | u32 => exact iff_of_true (widen_decodeNarrowInt _ _ hx) trivial
  | bool =>
      obtain ⟨n, hn, hpure⟩ := bind_eq_ok_iff.mp hx
      cases hpure
      have hvalue : value = .integer n := by
        cases value with
        | integer m =>
            cases hn
            rfl
        | null | real _ | text _ | blob _ => cases hn
      subst hvalue
      have hbit : (encoded .bool (decide (n.val ≠ 0))).normal = .integer n ↔
          (if n.val ≠ 0 then 1 else 0) = n.val := by
        simp [encoded, Value.normal, IntRange.ext_iff]
      rw [hbit]
      simp only [Keeps, Value.integer.injEq, exists_eq_left']
      grind
  | i64 =>
      cases value with
      | integer n =>
          cases hx
          exact iff_of_true rfl trivial
      | null | real _ | text _ | blob _ => cases hx
  | f64 => exact iff_of_true (fromNumber_asReal h hx) trivial
  | f32 =>
      obtain ⟨y, hy, hpure⟩ := bind_eq_ok_iff.mp hx
      cases hpure
      refine (fromNumber_convert_iff h hy).trans ⟨fun hrep z q hz hq => ?_, fun hkeeps q hq => ?_⟩
      · rw [hy] at hz
        cases hz
        exact hrep q hq
      · exact hkeeps y q hy hq
  | str | string | boxStr | arcStr | cowStr =>
      cases value with
      | text s =>
          cases hx
          exact iff_of_true rfl trivial
      | null | integer _ | real _ | blob _ => cases hx
  | slice | vec | boxSlice | arcSlice =>
      cases value with
      | text s =>
          cases hx
          simp [Keeps, encoded, Value.normal]
      | blob bytes =>
          cases hx
          simp [Keeps, encoded, Value.normal]
      | null | integer _ | real _ => cases hx

end RustType

/-! ## with `Option`, through JavaScript -/

namespace SqlType

/-- The same with `Option`: `NULL` is kept. -/
def Keeps : SqlType → Value → Prop
  | .plain t, value => t.Keeps value
  | .option t, value => value = .null ∨ t.Keeps value

/-- What decodes into an `Option` is `NULL`, or decodes as the type in it. -/
theorem decode_option_cases {t : RustType} {value : Value} {x : Option t.Val}
    (h : (SqlType.option t).decode value = .ok x) :
    value = .null ∧ x = none ∨ value ≠ .null ∧ ∃ y, x = some y ∧ t.decode value = .ok y := by
  cases hnull : value.isNull with
  | true =>
      rw [decode, hnull] at h
      cases h
      exact .inl ⟨(Value.isNull_iff value).mp hnull, rfl⟩
  | false =>
      rw [decode, hnull] at h
      obtain ⟨y, hy, hx⟩ := bind_eq_ok_iff.mp h
      cases hx
      refine .inr ⟨?_, y, rfl, hy⟩
      rintro rfl
      cases hnull

variable {value : Value} {t : SqlType} {x : t.Val}

theorem fits_of_decode (h : RustType.Read value) (hx : t.decode value = .ok x) : t.Fits x := by
  cases t with
  | plain t => exact RustType.fits_of_decode h hx
  | option t =>
      rcases decode_option_cases hx with ⟨_, rfl⟩ | ⟨_, y, rfl, hy⟩
      · trivial
      · exact RustType.fits_of_decode h hy

theorem rewritten_iff (h : RustType.Read value) (hx : t.decode value = .ok x) :
    (t.encoded x).normal = value ↔ t.Keeps value := by
  cases t with
  | plain t => exact RustType.rewritten_iff h hx
  | option t =>
      rcases decode_option_cases hx with ⟨rfl, rfl⟩ | ⟨hnull, y, rfl, hy⟩
      · exact iff_of_true rfl (.inl rfl)
      · rw [Keeps, or_iff_right hnull]
        exact RustType.rewritten_iff h hy

end SqlType

section

variable [JsDebug]

theorem read_of_fromJs {back : JsValue} {value : Value} (h : fromJs back = .ok value) :
    RustType.Read value where
  normal := normal_of_fromJs h
  safe _ hn := safe_of_fromJs (hn ▸ h)

/-- **A value that was read can be written back**: what it was read as is bound
as one parameter, and reads as the same again, whatever shape it comes back in;
and the value is then the one there was exactly when the type keeps it. -/
theorem rewritten {back : JsValue} {value : Value} (hvalue : fromJs back = .ok value)
    (t : SqlType) {index : ColumnIndex} {x : t.Val} (hx : t.tryDecode index value = .ok x) :
    ∃ sent, bindOne (t.encode x) = .ok [sent] ∧
      ∀ again, ComesBackAs sent again →
        (∃ value' y, fromJs again = .ok value' ∧ t.tryDecode index value' = .ok y ∧ t.Same x y) ∧
          (fromJs again = .ok value ↔ t.Keeps value) := by
  have hread := read_of_fromJs hvalue
  have hdecode := SqlType.tryDecode_eq_ok_iff.mp hx
  have hfits := SqlType.fits_of_decode hread hdecode
  obtain ⟨sent, hsent⟩ := SqlType.toJs_encoded hfits
  refine ⟨sent, bindOne_of_fits hfits hsent, fun again hagain => ?_⟩
  have hback := fromJs_of_comesBackAs hsent hagain
  obtain ⟨y, hy, hsame⟩ := t.tryDecode_normal x index
  refine ⟨⟨_, y, hback, hy, hsame⟩, ?_⟩
  rw [hback, Except.ok.injEq]
  exact SqlType.rewritten_iff hread hdecode

end

/-- `true` is read as a `bool` and written back as 1. -/
theorem rewritten_true :
    letI := JsDebug.describing
    ∃ sent, bindOne ((SqlType.plain .bool).encode true) = .ok [sent] ∧
      ∀ again, ComesBackAs sent again →
        fromJs again = .ok (.integer ⟨1, by decide, by decide⟩) := by
  let := JsDebug.describing
  have hvalue : fromJs (.boolean true) = .ok (.integer ⟨1, by decide, by decide⟩) := rfl
  have htrue : (SqlType.plain .bool).tryDecode (.position 0) (.integer ⟨1, by decide, by decide⟩) =
      .ok true := rfl
  obtain ⟨sent, hsent, hagain⟩ := rewritten hvalue (.plain .bool) htrue
  exact ⟨sent, hsent, fun again h => (hagain again h).2.mpr ⟨_, rfl, .inr rfl⟩⟩

end SqlxCloudflare
