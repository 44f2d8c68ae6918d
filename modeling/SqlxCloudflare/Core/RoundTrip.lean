import SqlxCloudflare.Core.Types

/-!
# SqlxCloudflare.Core.RoundTrip

What is bound comes back.  A value crosses to JavaScript as `toJs` has it and
back as `fromJs` has it, which is not the identity on `Value`: JavaScript has
one number type, so a `REAL` may return as an `INTEGER`, and a BLOB returns in
one of three shapes.  `Value.normal` says what a value returns as
(`fromJs_of_comesBackAs`), and every Rust type decodes that as what was
encoded (`decode_normal`), which `value_survives` puts together.
-/

namespace SqlxCloudflare

open Fallible Ieee

/-! ## through JavaScript and back -/

/-- What a value returns as: a `REAL` that is a safe whole number is taken for
an `INTEGER`. -/
def Value.normal : Value → Value
  | .real value => .fromNumber value
  | value => value

/-- The shapes a value that was sent may come back in: a BLOB as an
`ArrayBuffer`, as a `Uint8Array` or as an array of byte values. -/
inductive ComesBackAs : JsValue → JsValue → Prop where
  | same (sent : JsValue) : ComesBackAs sent sent
  | uint8Array (bytes : List UInt8) : ComesBackAs (.arrayBuffer bytes) (.uint8Array bytes)
  | numbers (bytes : List UInt8) :
      ComesBackAs (.arrayBuffer bytes) (.array (bytes.map .ofByte))

section

variable [JsDebug]

/-- A value that could be sent is read back in normal form, whatever shape it
returns in. -/
theorem fromJs_of_comesBackAs {value : Value} {sent back : JsValue}
    (hsent : toJs value = .ok sent) (hback : ComesBackAs sent back) :
    fromJs back = .ok value.normal := by
  cases value with
  | null =>
      cases hsent
      cases hback
      rfl
  | integer n =>
      obtain ⟨m, hm, hnum⟩ := Fallible.bind_eq_ok_iff.mp hsent
      by_cases hsafe : Safe n.val
      · rw [safeInteger_of_safe hsafe] at hm
        cases hm
        cases hnum
        cases hback
        exact congrArg Except.ok (fromNumber_whole (toRat?_asF64 hsafe) hsafe)
      · obtain ⟨error, herror⟩ := safeInteger_of_not_safe hsafe
        rw [herror] at hm
        cases hm
  | real x =>
      cases hsent
      cases hback
      rfl
  | text s =>
      cases hsent
      cases hback
      rfl
  | blob bytes =>
      cases hsent
      cases hback with
      | same => rfl
      | uint8Array => rfl
      | numbers =>
          simp only [fromJs, bytesFromNumbers_map_ofByte]
          rfl

end

/-! ## encoding -/

namespace RustType

/-- A value that can be bound: any but an `i64` a JavaScript number does not
hold exactly. -/
def Fits : (t : RustType) → t.Val → Prop
  | .i64, value => Safe value.val
  | _, _ => True

/-- Two values of a type are the same: floats by IEEE `==`, with NaN the same
as NaN, and everything else equal. -/
def Same : (t : RustType) → t.Val → t.Val → Prop
  | .f64, x, y => Binary.Same x y
  | .f32, x, y => Binary.Same x y
  | _, x, y => x = y

theorem encode_of_fits {t : RustType} {x : t.Val} (h : t.Fits x) :
    t.encode x = push (t.encoded x) := by
  cases t with
  | i64 =>
      funext values
      simp only [encode, encoded, safeInteger_of_safe h]
  | _ => rfl

/-- An `i64` that does not fit is refused, and the buffer is left alone. -/
theorem encode_of_not_fits {t : RustType} {x : t.Val} (h : ¬t.Fits x) (values : List Value) :
    ∃ error, t.encode x values = (.error error, values) := by
  cases t with
  | i64 =>
      obtain ⟨error, herror⟩ := safeInteger_of_not_safe h
      exact ⟨error, by simp only [encode, herror]⟩
  | _ => exact absurd trivial h

/-- A value that fits can be sent. -/
theorem toJs_encoded {t : RustType} {x : t.Val} (h : t.Fits x) :
    ∃ sent, toJs (t.encoded x) = .ok sent := by
  have hint : ∀ n : I64, Safe n.val → ∃ sent, toJs (.integer n) = .ok sent := by
    intro n hn
    exact ⟨_, by rw [toJs, safeInteger_of_safe hn]; rfl⟩
  cases t with
  | bool => exact hint _ (by cases x <;> decide)
  | i8 | i16 | i32 | u8 | u16 | u32 =>
      have := x.lo_le
      have := x.le_hi
      exact hint _ ⟨by rw [maxSafeInteger_eq]; grind [IntRange.widen],
        by rw [maxSafeInteger_eq]; grind [IntRange.widen]⟩
  | i64 => exact hint _ h
  | _ => exact ⟨_, rfl⟩

/-! ## what it decodes back to -/

/-- A narrow integer that was widened is narrowed back to itself. -/
theorem decodeNarrowInt_widen {lo hi : ℤ} (hlo : -2 ^ 63 ≤ lo) (hhi : hi ≤ 2 ^ 63 - 1)
    (x : IntRange lo hi) : decodeNarrowInt lo hi (.integer (x.widen hlo hhi)) = .ok x := by
  have hval : (x.widen hlo hhi).val = x.val := rfl
  rw [decodeNarrowInt, Value.int, ok_bind, hval, IntRange.tryFrom_val]

/-- The float a double is read back as: itself, or, when it was taken for an
`INTEGER`, one of the same value. -/
theorem asReal_fromNumber (x : F64) :
    ∃ y, (Value.fromNumber x).asReal = .ok y ∧
      (y = x ∨ ∃ q, x.toRat? = some q ∧ y.toRat? = some q) := by
  rcases fromNumber_cases x with ⟨n, hsafe, hx, hint⟩ | hreal
  · exact ⟨_, by rw [hint]; rfl, .inr ⟨n, hx, toRat?_asF64 (n := hsafe.toI64) hsafe⟩⟩
  · exact ⟨x, by rw [hreal]; rfl, .inl rfl⟩

/-- Every type decodes the normal form of what it encodes, as the same value. -/
theorem decode_normal (t : RustType) (x : t.Val) :
    ∃ y, t.decode (t.encoded x).normal = .ok y ∧ t.Same x y := by
  cases t with
  | bool => exact ⟨x, by cases x <;> rfl, rfl⟩
  | i8 | i16 | i32 | u8 | u16 | u32 => exact ⟨x, decodeNarrowInt_widen _ _ x, rfl⟩
  | i64 => exact ⟨x, rfl, rfl⟩
  | f64 =>
      obtain ⟨y, hy, rfl | ⟨q, hx, hyq⟩⟩ := asReal_fromNumber x
      · exact ⟨y, hy, Binary.same_refl y⟩
      · exact ⟨y, hy, Binary.same_of_toRat? hx hyq⟩
  | f32 =>
      obtain ⟨y, hy, hval⟩ := asReal_fromNumber (x.convert binary64)
      have hdecode : decode .f32 (Value.normal (.real (x.convert binary64))) =
          .ok (y.convert binary32) := by
        simp only [decode, Value.normal, hy]
        rfl
      refine ⟨_, hdecode, ?_⟩
      rcases hval with rfl | ⟨q, hx, hyq⟩
      · rw [Binary.convert_convert binary64_representable_of_binary32]
        exact Binary.same_refl x
      · rw [Binary.toRat?_convert_of_le binary64_representable_of_binary32] at hx
        have hq := Binary.representable_of_toRat? hx
        exact Binary.same_of_toRat? hx (Binary.toRat?_convert hyq hq)
  | str | string | boxStr | arcStr | cowStr => exact ⟨x, rfl, rfl⟩
  | slice | vec | boxSlice | arcSlice => exact ⟨x, rfl, rfl⟩

/-- Every type accepts the storage class of what it encodes to, once back. -/
theorem compatible_normal (t : RustType) (x : t.Val) :
    t.compatible (t.encoded x).normal.typeInfo = true := by
  have hnumber : ∀ y : F64, (Value.fromNumber y).typeInfo = .integer ∨
      (Value.fromNumber y).typeInfo = .real := by
    intro y
    rcases fromNumber_cases y with ⟨n, hsafe, _, hint⟩ | hreal
    · exact .inl (by rw [hint]; rfl)
    · exact .inr (by rw [hreal]; rfl)
  cases t with
  | f64 => rcases hnumber x with h | h <;> simp [compatible, encoded, Value.normal, h]
  | f32 =>
      rcases hnumber (x.convert binary64) with h | h <;>
        simp [compatible, encoded, Value.normal, h]
  | _ => rfl

theorem isNull_normal (t : RustType) (x : t.Val) : (t.encoded x).normal.isNull = false := by
  have hnumber : ∀ y : F64, (Value.fromNumber y).isNull = false := by
    intro y
    rcases fromNumber_cases y with ⟨n, hsafe, _, hint⟩ | hreal
    · rw [hint]
      rfl
    · rw [hreal]
      rfl
  cases t with
  | f64 => exact hnumber x
  | f32 => exact hnumber (x.convert binary64)
  | _ => rfl

end RustType

/-! ## the same with `Option`, through `Arguments::add` and `Row::try_get` -/

/-- Binds one argument and sends it: `Arguments::add`, then `to_js` of the
arguments there are. -/
def bindOne (encode : Encoder) : Except Error (List JsValue) := do
  let (result, arguments) := Arguments.default.add encode
  result.mapError .encode
  toJsArray arguments.values

/-- A row of one column, holding `value`. -/
def oneColumn (name : String) (value : Value) : Row := ⟨[⟨name, 0, value.typeInfo⟩], [value]⟩

/-- What came back, converted and decoded out of a row of one column. -/
def readBack [JsDebug] (t : SqlType) (name : String) (index : ColumnIndex) (back : JsValue) :
    Except (Stop Error) t.Val := do
  let value ← returns (fromJs back)
  (oneColumn name value).tryGet t index

namespace SqlType

def Fits : (t : SqlType) → t.Val → Prop
  | .plain t, value => t.Fits value
  | .option t, some value => t.Fits value
  | .option _, none => True

def Same : (t : SqlType) → t.Val → t.Val → Prop
  | .plain t, x, y => t.Same x y
  | .option t, some x, some y => t.Same x y
  | .option _, x, y => x = y

/-- The value a type is encoded to: NULL for `None`. -/
def encoded : (t : SqlType) → t.Val → Value
  | .plain t, value => t.encoded value
  | .option t, some value => t.encoded value
  | .option _, none => .null

/-- Adding a value that fits appends what it is encoded to. -/
theorem add_encode_of_fits {t : SqlType} {x : t.Val} (h : t.Fits x) :
    Arguments.default.add (t.encode x) = (.ok (), ⟨[t.encoded x]⟩) := by
  cases t with
  | plain t =>
      simp only [Arguments.add, addArgument, encode, RustType.encode_of_fits h]
      rfl
  | option t =>
      cases x with
      | none => rfl
      | some x =>
          simp only [Arguments.add, addArgument, encode, RustType.encode_of_fits h]
          rfl

theorem add_encode_of_not_fits {t : SqlType} {x : t.Val} (h : ¬t.Fits x) :
    ∃ error, Arguments.default.add (t.encode x) = (.error error, ⟨[]⟩) := by
  have hplain : ∀ (t : RustType) (x : t.Val), ¬t.Fits x →
      ∃ error, Arguments.default.add (t.encode x) = (.error error, ⟨[]⟩) := by
    intro t x hx
    obtain ⟨error, herror⟩ := RustType.encode_of_not_fits hx []
    exact ⟨error, by simp only [Arguments.add, addArgument, Arguments.default, herror]; rfl⟩
  cases t with
  | plain t => exact hplain t x h
  | option t =>
      cases x with
      | none => exact absurd trivial h
      | some x => exact hplain t x h

theorem toJs_encoded {t : SqlType} {x : t.Val} (h : t.Fits x) :
    ∃ sent, toJs (t.encoded x) = .ok sent := by
  cases t with
  | plain t => exact RustType.toJs_encoded h
  | option t =>
      cases x with
      | none => exact ⟨.null, rfl⟩
      | some x => exact RustType.toJs_encoded h

/-- What comes back passes the check of `Row::try_get` and decodes as the value
that was bound. -/
theorem tryDecode_normal (t : SqlType) (x : t.Val) (index : ColumnIndex) :
    ∃ y, t.tryDecode index (t.encoded x).normal = .ok y ∧ t.Same x y := by
  have hplain : ∀ (t : RustType) (x : t.Val), ∃ y,
      t.decode (t.encoded x).normal = .ok y ∧ t.Same x y := RustType.decode_normal
  cases t with
  | plain t =>
      obtain ⟨y, hy, hsame⟩ := hplain t x
      refine ⟨y, ?_, hsame⟩
      simp only [tryDecode, encoded, decode, compatible, RustType.compatible_normal, hy,
        Bool.not_true, Bool.and_false]
      rfl
  | option t =>
      cases x with
      | none => exact ⟨none, rfl, rfl⟩
      | some x =>
          obtain ⟨y, hy, hsame⟩ := hplain t x
          refine ⟨some y, ?_, hsame⟩
          simp only [tryDecode, encoded, decode, compatible, RustType.compatible_normal,
            RustType.isNull_normal, hy, Bool.or_true, Bool.not_true, Bool.and_false]
          rfl

end SqlType

/-- Binding sends the one parameter a fitting value is encoded to. -/
theorem bindOne_of_fits {t : SqlType} {x : t.Val} (h : t.Fits x) {sent : JsValue}
    (hsent : toJs (t.encoded x) = .ok sent) : bindOne (t.encode x) = .ok [sent] := by
  have harray : toJsArray [t.encoded x] = .ok [sent] :=
    Fallible.mapM_eq_ok_iff.mpr (.cons hsent .nil)
  simp only [bindOne, SqlType.add_encode_of_fits h]
  exact harray

theorem bindOne_of_not_fits {t : SqlType} {x : t.Val} (h : ¬t.Fits x) :
    ∃ error, bindOne (t.encode x) = .error (.encode error) := by
  obtain ⟨error, herror⟩ := SqlType.add_encode_of_not_fits h
  refine ⟨error, ?_⟩
  simp only [bindOne, herror]
  rfl

/-- The one value of a row of one column is found by position and by name. -/
theorem tryGetRaw_oneColumn {name : String} {value : Value} {index : ColumnIndex}
    (h : index = .position 0 ∨ index = .name name) :
    (oneColumn name value).tryGetRaw index = .ok value := by
  rcases h with rfl | rfl
  · rfl
  · simp [oneColumn, Row.tryGetRaw, Row.index, Row.rposition]
    rfl

section

variable [JsDebug]

theorem readBack_eq {t : SqlType} {name : String} {index : ColumnIndex} {back : JsValue}
    {value : Value} (hindex : index = .position 0 ∨ index = .name name)
    (hback : fromJs back = .ok value) :
    readBack t name index back = returns (t.tryDecode index value) := by
  have hraw : (oneColumn name value).tryGetRaw index = .ok value := tryGetRaw_oneColumn hindex
  rw [readBack, hback, returns_ok, ok_bind, Row.tryGet, hraw, ok_bind]

/-- **Every value survives the JavaScript boundary**: if it can be bound, what
is sent decodes as the same value, whatever shape it comes back in and however
the column is asked for; and it can be bound unless it is an `i64` outside
±(2^53 − 1). -/
theorem value_survives (t : SqlType) (x : t.Val) :
    (∀ parameters, bindOne (t.encode x) = .ok parameters →
      ∃ sent, parameters = [sent] ∧
        ∀ back, ComesBackAs sent back →
          ∀ name index, index = ColumnIndex.position 0 ∨ index = ColumnIndex.name name →
            ∃ y, readBack t name index back = .ok y ∧ t.Same x y) ∧
    ((∃ error, bindOne (t.encode x) = .error error) ↔ ¬t.Fits x) := by
  by_cases hfits : t.Fits x
  · obtain ⟨sent, hsent⟩ := SqlType.toJs_encoded hfits
    have hbind := bindOne_of_fits hfits hsent
    refine ⟨fun parameters hparameters => ?_, ?_⟩
    · rw [hbind] at hparameters
      refine ⟨sent, (Except.ok.inj hparameters).symm, fun back hback name index hindex => ?_⟩
      obtain ⟨y, hy, hsame⟩ := t.tryDecode_normal x index
      refine ⟨y, ?_, hsame⟩
      rw [readBack_eq hindex (fromJs_of_comesBackAs hsent hback), hy, returns_ok]
    · refine ⟨fun ⟨error, herror⟩ => ?_, fun h => absurd hfits h⟩
      rw [hbind] at herror
      cases herror
  · obtain ⟨error, herror⟩ := bindOne_of_not_fits hfits
    refine ⟨fun parameters hparameters => ?_, fun _ => hfits, fun _ => ⟨_, herror⟩⟩
    rw [herror] at hparameters
    cases hparameters

end

/-- A BLOB of two bytes, back as an array of numbers. -/
theorem value_survives_blob :
    letI := JsDebug.describing
    ∃ y, readBack (.plain .vec) "data" (.name "data") (.array ([1, 255].map .ofByte)) = .ok y ∧
      (SqlType.plain .vec).Same [1, 255] y := by
  let := JsDebug.describing
  obtain ⟨sent, hsent, hback⟩ := (value_survives (.plain .vec) [1, 255]).1
    [.arrayBuffer [1, 255]] rfl
  cases hsent
  exact hback _ (.numbers [1, 255]) "data" _ (.inr rfl)

end SqlxCloudflare
