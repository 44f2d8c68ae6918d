import SqlxCloudflare.Core.Arguments
import SqlxCloudflare.Core.Row

/-!
# SqlxCloudflare.Core.Types

The Rust types a driver can store, as `impl_types!` writes their `Type`,
`Encode` and `Decode` impls: `RustType` names them, `Val` is what a value of
each is, and `encode`, `compatible` and `decode` have one arm for each.  What
`encode` pushes is `encoded`.

`SqlType` adds `Option`, whose impls are sqlx's own and the same for every
driver, as is `tryGet`, the check-then-decode every consumer goes through.
-/

namespace SqlxCloudflare

open Fallible Ieee

/-- The types `impl_types!` is given that both encode and decode. -/
inductive RustType where
  | bool
  | i8 | i16 | i32 | u8 | u16 | u32
  | i64
  | f64 | f32
  | str | string | boxStr | arcStr | cowStr
  | slice | vec | boxSlice | arcSlice
deriving DecidableEq, Repr

namespace RustType

/-- The values of a type. -/
@[reducible] def Val : RustType → Type
  | .bool => Bool
  | .i8 => I8
  | .i16 => I16
  | .i32 => I32
  | .u8 => U8
  | .u16 => U16
  | .u32 => U32
  | .i64 => I64
  | .f64 => F64
  | .f32 => F32
  | .str | .string | .boxStr | .arcStr | .cowStr => String
  | .slice | .vec | .boxSlice | .arcSlice => List UInt8

/-- The type as Rust prints it. -/
def name : RustType → String
  | .bool => "bool"
  | .i8 => "i8"
  | .i16 => "i16"
  | .i32 => "i32"
  | .u8 => "u8"
  | .u16 => "u16"
  | .u32 => "u32"
  | .i64 => "i64"
  | .f64 => "f64"
  | .f32 => "f32"
  | .str => "&str"
  | .string => "alloc::string::String"
  | .boxStr => "alloc::boxed::Box<str>"
  | .arcStr => "alloc::sync::Arc<str>"
  | .cowStr => "alloc::borrow::Cow<'_, str>"
  | .slice => "&[u8]"
  | .vec => "alloc::vec::Vec<u8>"
  | .boxSlice => "alloc::boxed::Box<[u8]>"
  | .arcSlice => "alloc::sync::Arc<[u8]>"

/-! ## `Type` -/

/-- The storage class a type is stored as. -/
def typeInfo : RustType → TypeInfo
  | .bool | .i8 | .i16 | .i32 | .u8 | .u16 | .u32 | .i64 => .integer
  | .f64 | .f32 => .real
  | .str | .string | .boxStr | .arcStr | .cowStr => .text
  | .slice | .vec | .boxSlice | .arcSlice => .blob

/-- Whether a value of storage class `ty` may be decoded as the type. -/
def compatible (t : RustType) (ty : TypeInfo) : Bool :=
  match t with
  -- A whole number stored as REAL comes back typed INTEGER.
  | .f64 | .f32 => ty == .real || ty == .integer
  -- TEXT as well, read as its bytes.
  | .slice | .vec | .boxSlice | .arcSlice => ty == .blob || ty == .text
  | t => ty == t.typeInfo

/-! ## `Encode` -/

/-- Pushes one value. -/
def push (value : Value) : Encoder := fun values => (.ok .no, values ++ [value])

/-- `__impl_narrow_int!`: every integer narrower than `i64` crosses exactly. -/
def encodeNarrowInt {lo hi : ℤ} (hlo : -2 ^ 63 ≤ lo) (hhi : hi ≤ 2 ^ 63 - 1)
    (value : IntRange lo hi) : Encoder :=
  push (.integer (value.widen hlo hhi))

/-- A value of the type, encoded onto the buffer. -/
def encode : (t : RustType) → t.Val → Encoder
  | .bool, value =>
    push (.integer ⟨if value then 1 else 0, I64.min_le_bit value, I64.bit_le_max value⟩)
  | .i8, value => encodeNarrowInt (by norm_num) (by norm_num) value
  | .i16, value => encodeNarrowInt (by norm_num) (by norm_num) value
  | .i32, value => encodeNarrowInt (by norm_num) (by norm_num) value
  | .u8, value => encodeNarrowInt I64.min_le_zero (by norm_num) value
  | .u16, value => encodeNarrowInt I64.min_le_zero (by norm_num) value
  | .u32, value => encodeNarrowInt I64.min_le_zero (by norm_num) value
  | .i64, value => fun values =>
    match safeInteger value with
    | .ok value => push (.integer value) values
    | .error error => (.error error, values)
  | .f64, value => push (.real value)
  | .f32, value => push (.real (value.convert binary64))
  | .str, value | .string, value => push (.text value)
  -- By reference, as `&str`.
  | .boxStr, value | .arcStr, value | .cowStr, value => push (.text value)
  | .slice, value | .vec, value => push (.blob value)
  -- By reference, as `&[u8]`.
  | .boxSlice, value | .arcSlice, value => push (.blob value)

/-- The value a type is encoded to. -/
def encoded : (t : RustType) → t.Val → Value
  | .bool, value => .integer ⟨if value then 1 else 0, I64.min_le_bit value, I64.bit_le_max value⟩
  | .i8, value => .integer (value.widen (by norm_num) (by norm_num))
  | .i16, value => .integer (value.widen (by norm_num) (by norm_num))
  | .i32, value => .integer (value.widen (by norm_num) (by norm_num))
  | .u8, value => .integer (value.widen I64.min_le_zero (by norm_num))
  | .u16, value => .integer (value.widen I64.min_le_zero (by norm_num))
  | .u32, value => .integer (value.widen I64.min_le_zero (by norm_num))
  | .i64, value => .integer value
  | .f64, value => .real value
  | .f32, value => .real (value.convert binary64)
  | .str, value | .string, value | .boxStr, value | .arcStr, value | .cowStr, value => .text value
  | .slice, value | .vec, value | .boxSlice, value | .arcSlice, value => .blob value

/-! ## `Decode` -/

/-- `__impl_narrow_int!`: a value that does not fit is an error. -/
def decodeNarrowInt (lo hi : ℤ) (value : Value) : Except BoxDynError (IntRange lo hi) := do
  let value ← value.int
  match IntRange.tryFrom lo hi value.val with
  | some value => .ok value
  | none => .error "out of range integral type conversion attempted"

/-- A value decoded as the type. -/
def decode : (t : RustType) → Value → Except BoxDynError t.Val
  -- Any non-zero integer.
  | .bool, value => do return decide ((← value.int).val ≠ 0)
  | .i8, value => decodeNarrowInt _ _ value
  | .i16, value => decodeNarrowInt _ _ value
  | .i32, value => decodeNarrowInt _ _ value
  | .u8, value => decodeNarrowInt _ _ value
  | .u16, value => decodeNarrowInt _ _ value
  | .u32, value => decodeNarrowInt _ _ value
  | .i64, value => value.int
  | .f64, value => value.asReal
  | .f32, value => do return (← value.asReal).convert binary32
  | .str, value | .string, value => value.asText
  -- sqlx's, by way of `&str`.
  | .boxStr, value | .arcStr, value | .cowStr, value => value.asText
  | .slice, value | .vec, value => value.asBlob
  -- sqlx's, by way of `Vec<u8>`.
  | .boxSlice, value | .arcSlice, value => value.asBlob

end RustType

/-! ## `Option`, and `Row::try_get` -/

/-- A type a query binds or a row is read as. -/
inductive SqlType where
  | plain (t : RustType)
  | option (t : RustType)
deriving DecidableEq, Repr

namespace SqlType

@[reducible] def Val : SqlType → Type
  | .plain t => t.Val
  | .option t => Option t.Val

def name : SqlType → String
  | .plain t => t.name
  | .option t => s!"core::option::Option<{t.name}>"

def typeInfo : SqlType → TypeInfo
  | .plain t => t.typeInfo
  | .option t => t.typeInfo

def compatible : SqlType → TypeInfo → Bool
  | .plain t, ty => t.compatible ty
  | .option t, ty => ty.isNull || t.compatible ty

def encode : (t : SqlType) → t.Val → Encoder
  | .plain t, value => t.encode value
  | .option t, some value => t.encode value
  | .option _, none => fun values => (.ok .yes, values)

def decode : (t : SqlType) → Value → Except BoxDynError t.Val
  | .plain t, value => t.decode value
  | .option t, value => if value.isNull then .ok none else do return some (← t.decode value)

/-- The error for a value of a storage class the type is not compatible with. -/
def mismatchedTypes (t : SqlType) (ty : TypeInfo) : BoxDynError :=
  s!"mismatched types; Rust type `{t.name}` (as SQL type `{t.typeInfo.name}`) is not " ++
    s!"compatible with SQL type `{ty.name}`"

/-- The check-then-decode of `Row::try_get`: a value that is not NULL must be
of a compatible storage class. -/
def tryDecode (t : SqlType) (index : ColumnIndex) (value : Value) : Except Error t.Val :=
  if !value.isNull && !t.compatible value.typeInfo then
    .error (.columnDecode index (t.mismatchedTypes value.typeInfo))
  else (t.decode value).mapError (.columnDecode index)

end SqlType

/-- `Row::try_get`. -/
def Row.tryGet (row : Row) (t : SqlType) (index : ColumnIndex) : Except (Stop Error) t.Val := do
  let value ← row.tryGetRaw index
  returns (t.tryDecode index value)

end SqlxCloudflare
