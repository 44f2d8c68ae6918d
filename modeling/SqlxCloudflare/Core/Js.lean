import SqlxCloudflare.Core.Error
import SqlxCloudflare.Fallible

/-!
# SqlxCloudflare.Core.Js

JavaScript values, and the conversions between them and `Value` -- one point
in each direction, for both drivers: `js.rs` of the core crate.

A JavaScript number is a double, a JavaScript string an exact copy of the Rust
one.  Of an object only its own properties are kept, in insertion order, and
of a thrown `Error` its message and cause.
-/

namespace SqlxCloudflare

open Ieee

/-! ## JavaScript values -/

/-- A JavaScript value. -/
inductive JsValue where
  | undefined
  | null
  | boolean (value : Bool)
  | number (value : F64)
  | string (value : String)
  | arrayBuffer (bytes : List UInt8)
  | uint8Array (bytes : List UInt8)
  | array (elements : List JsValue)
  | object (properties : List (String × JsValue))
  | error (message : String) (cause : JsValue)
  /-- A value of any other type -- a `BigInt`, a symbol, a function -- known
  only by its description. -/
  | other (description : String)

/-- How `wasm-bindgen` prints a JavaScript value: the text of `{value:?}`. -/
class JsDebug where
  debug : JsValue → String

/-- A printer for the values known by their description. -/
@[reducible] def JsDebug.describing : JsDebug where
  debug
    | .other description => s!"JsValue({description})"
    | _ => "JsValue"

namespace JsValue

/-- The number, if the value is one. -/
def asF64 : JsValue → Option F64
  | .number value => some value
  | _ => none

/-- The string, if the value is one. -/
def asString : JsValue → Option String
  | .string value => some value
  | _ => none

/-- The elements, if the value is an `Array`: `dyn_into::<Array>`. -/
def asArray : JsValue → Option (List JsValue)
  | .array elements => some elements
  | _ => none

/-- A byte as a JavaScript number. -/
def ofByte (byte : UInt8) : JsValue := .number (Binary.ofInt binary64 byte.toNat)

end JsValue

/-! ## binding -/

/-- A bound parameter as the JavaScript value the binding expects. -/
def toJs : Value → Except Error JsValue
  | .null => .ok .null
  -- Checked again here, not only when an `i64` is encoded: a third-party
  -- encoder can push any integer it likes.
  | .integer value => do
      let value ← (safeInteger value).mapError .encode
      return .number (I64.asF64 value)
  | .real value => .ok (.number value)
  | .text value => .ok (.string value)
  | .blob value => .ok (.arrayBuffer value)

/-- `values` as a JavaScript array, in placeholder order. -/
def toJsArray (values : List Value) : Except Error (List JsValue) := values.mapM toJs

/-! ## reading -/

/-- Whether a number is a whole number from 0 to 255. -/
def isByte (number : F64) : Bool :=
  number.fract.beq (.zero false) &&
    (Binary.le (.zero false) number && number.le (Binary.ofInt binary64 255))

/-- Rust's `x as u8`. -/
def asU8 (number : F64) : UInt8 :=
  UInt8.ofNat (number.toIntRange IntRange.zero_le_zero (by norm_num) : U8).val.toNat

/-- One element of a BLOB that came back as a plain array. -/
def byteFromNumber (number : JsValue) : Except Error UInt8 :=
  match number.asF64.filter isByte with
  | some number => .ok (asU8 number)
  | none => .error (.decode "a BLOB element came back that is not a byte")

def bytesFromNumbers (numbers : List JsValue) : Except Error (List UInt8) :=
  numbers.mapM byteFromNumber

/-- The condition on one element, as the value it tests for. -/
theorem isByte_iff (x : F64) :
    isByte x = true ↔ ∃ n : ℤ, x.toRat? = some (n : ℚ) ∧ 0 ≤ n ∧ n ≤ 255 := by
  have h255 : (Binary.ofInt binary64 255).toRat? = some ((255 : ℤ) : ℚ) :=
    toRat?_ofInt_binary64 (by norm_num)
  have hrange : ∀ n : ℤ, x.toRat? = some (n : ℚ) →
      (Binary.le (.zero false) x && x.le (Binary.ofInt binary64 255)) =
        decide (0 ≤ n ∧ n ≤ 255) := by
    intro n hn
    rw [Binary.le_eq_decide (Binary.toRat?_zero false) hn, Binary.le_eq_decide hn h255,
      Bool.decide_and]
    norm_cast
  rw [isByte, Bool.and_eq_true, Binary.fract_beq_zero_iff]
  constructor
  · rintro ⟨⟨n, hn⟩, hbounds⟩
    rw [hrange n hn, decide_eq_true_eq] at hbounds
    exact ⟨n, hn, hbounds⟩
  · rintro ⟨n, hn, hbounds⟩
    exact ⟨⟨n, hn⟩, by rw [hrange n hn, decide_eq_true_eq]; exact hbounds⟩

/-- A byte survives as a plain number. -/
theorem byteFromNumber_ofByte (byte : UInt8) : byteFromNumber (.ofByte byte) = .ok byte := by
  have hlt := byte.toNat_lt
  have hval : (Binary.ofInt binary64 byte.toNat).toRat? = some ((byte.toNat : ℤ) : ℚ) :=
    toRat?_ofInt_binary64 (by rw [abs_of_nonneg (by omega)]; omega)
  have hbyte : isByte (Binary.ofInt binary64 byte.toNat) = true :=
    (isByte_iff _).mpr ⟨byte.toNat, hval, by omega, by omega⟩
  have hcast : asU8 (Binary.ofInt binary64 byte.toNat) = byte := by
    rw [asU8, Binary.val_toIntRange _ _ hval (by omega) (by omega), Int.toNat_natCast,
      UInt8.ofNat_toNat]
  simp only [byteFromNumber, JsValue.ofByte, JsValue.asF64, Option.filter, hbyte, if_true, hcast]

theorem bytesFromNumbers_map_ofByte (bytes : List UInt8) :
    bytesFromNumbers (bytes.map .ofByte) = .ok bytes :=
  Fallible.mapM_map_of_eq_ok byteFromNumber_ofByte bytes

/-- A JavaScript value from a result row, as a `Value`. -/
def fromJs [JsDebug] : JsValue → Except Error Value
  | .null | .undefined => .ok .null
  | .number number => .ok (Value.fromNumber number)
  | .string text => .ok (.text text)
  | .boolean boolean => .ok (.integer
      ⟨if boolean then 1 else 0, I64.min_le_bit boolean, I64.bit_le_max boolean⟩)
  | .arrayBuffer bytes => .ok (.blob bytes)
  | .uint8Array bytes => .ok (.blob bytes)
  -- D1 has returned BLOBs as plain arrays of byte values.
  | .array numbers => do
      let bytes ← bytesFromNumbers numbers
      return .blob bytes
  | value => .error (.decode
      s!"a value of an unexpected JavaScript type came back: {JsDebug.debug value}")

/-- The values that can be read: every type there is a `Value` for, and of the
arrays those of bytes. -/
def Convertible : JsValue → Prop
  | .array numbers => ∀ element ∈ numbers, ∃ number, element.asF64 = some number ∧ isByte number
  | .object _ | .error .. | .other _ => False
  | _ => True

theorem exists_byteFromNumber_iff (element : JsValue) :
    (∃ byte, byteFromNumber element = .ok byte) ↔
      ∃ number, element.asF64 = some number ∧ isByte number := by
  unfold byteFromNumber
  cases hnumber : element.asF64 with
  | none => simp
  | some number => cases hbyte : isByte number <;> simp [Option.filter, hbyte]

/-- `from_js` succeeds on these values and no others. -/
theorem exists_fromJs_iff [JsDebug] (value : JsValue) :
    (∃ v, fromJs value = .ok v) ↔ Convertible value := by
  cases value with
  | array numbers =>
      have hbytes : (∃ v, fromJs (.array numbers) = .ok v) ↔
          ∃ bytes, bytesFromNumbers numbers = .ok bytes := by
        constructor
        · rintro ⟨v, h⟩
          obtain ⟨bytes, hbytes, _⟩ := Fallible.bind_eq_ok_iff.mp h
          exact ⟨bytes, hbytes⟩
        · rintro ⟨bytes, hbytes⟩
          exact ⟨.blob bytes, Fallible.bind_eq_ok_iff.mpr ⟨bytes, hbytes, rfl⟩⟩
      rw [hbytes, bytesFromNumbers, Fallible.exists_mapM_eq_ok_iff]
      exact forall₂_congr fun element _ => exists_byteFromNumber_iff element
  | object _ | error _ _ | other _ => simp [fromJs, Convertible]
  | undefined | null | boolean _ | number _ | string _ | arrayBuffer _ | uint8Array _ =>
      simp [fromJs, Convertible]

/-! ## column names -/

/-- The column names, which must all be strings; `message` says that one is
not. -/
def stringNames (message : String) (names : List JsValue) : Except Error (List String) :=
  names.mapM fun name =>
    match name.asString with
    | some name => .ok name
    | none => .error (.protocol message)

/-- Names that are strings are taken as they are. -/
theorem stringNames_map_string (message : String) (names : List String) :
    stringNames message (names.map .string) = .ok names := by
  refine Fallible.mapM_map_of_eq_ok ?_ names
  intro name
  rfl

/-! ## errors -/

/-- Whether `part` occurs in `text`: Rust's `str::contains`. -/
def contains (text part : String) : Bool := part.toList <:+: text.toList

/-- A `DatabaseError` for what the binding threw: the error's message, and its
cause's when the message does not already quote it. -/
def databaseError [JsDebug] : JsValue → Error
  | .error message (.error cause _) =>
    if contains message cause then .database ⟨message⟩
    else .database ⟨s!"{message}: {cause}"⟩
  | .error message _ => .database ⟨message⟩
  | .string text => .database ⟨text⟩
  | value => .database ⟨JsDebug.debug value⟩

theorem exists_databaseError [JsDebug] (error : JsValue) :
    ∃ e, databaseError error = .database e := by
  unfold databaseError
  split
  · split
    · exact ⟨_, rfl⟩
    · exact ⟨_, rfl⟩
  all_goals exact ⟨_, rfl⟩

end SqlxCloudflare
