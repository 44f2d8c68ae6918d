import SqlxCloudflare.Core.RoundTrip

/-!
# SqlxCloudflare.Core.Decoding

What decodes.  `Row::try_get` checks the storage class and then decodes;
`Row::try_get_unchecked`, which is sqlx's own and assumed here, only decodes.
The accessors accept exactly the classes that `Type::compatible` does, so the
two agree (`tryGet_unchecked`), and a value decodes exactly when its class is
compatible and, for an integer narrower than `i64`, it is in range
(`exists_decode_iff`).
-/

namespace SqlxCloudflare

open Fallible Ieee

/-! ## sqlx's getters -/

/-- A getter of a row's values, as any type. -/
abbrev Getter := (row : Row) → (t : SqlType) → ColumnIndex → Except (Stop Error) t.Val

/-- What sqlx documents of `Row::try_get_unchecked`: it decodes the raw value,
whatever its storage class. -/
structure Getter.Unchecked (get : Getter) : Prop where
  missing : ∀ row t index stop, row.tryGetRaw index = .error stop →
    get row t index = .error stop
  decodes : ∀ row t index value, row.tryGetRaw index = .ok value →
    get row t index = returns ((t.decode value).mapError (.columnDecode index))

/-! ## one type -/

namespace RustType

/-- The bounds of the integers narrower than `i64`. -/
def bounds : RustType → Option (ℤ × ℤ)
  | .i8 => some (-2 ^ 7, 2 ^ 7 - 1)
  | .i16 => some (-2 ^ 15, 2 ^ 15 - 1)
  | .i32 => some (-2 ^ 31, 2 ^ 31 - 1)
  | .u8 => some (0, 2 ^ 8 - 1)
  | .u16 => some (0, 2 ^ 16 - 1)
  | .u32 => some (0, 2 ^ 32 - 1)
  | _ => none

/-- An `INTEGER` is within the bounds of the type. -/
def InBounds (t : RustType) (value : Value) : Prop :=
  ∀ n lo hi, value = .integer n → t.bounds = some (lo, hi) → lo ≤ n.val ∧ n.val ≤ hi

theorem decodeNarrowInt_eq_ok_iff {lo hi : ℤ} {value : Value} {x : IntRange lo hi} :
    decodeNarrowInt lo hi value = .ok x ↔ ∃ n, value = .integer n ∧ n.val = x.val := by
  cases value with
  | integer n =>
      have hint : (Value.integer n).int = .ok n := rfl
      rw [decodeNarrowInt, hint, ok_bind]
      constructor
      · intro h
        cases htry : IntRange.tryFrom lo hi n.val with
        | none =>
            rw [htry] at h
            cases h
        | some y =>
            rw [htry] at h
            cases h
            exact ⟨n, rfl, (IntRange.val_of_tryFrom htry).symm⟩
      · rintro ⟨m, hm, hval⟩
        cases hm
        simp only [hval, IntRange.tryFrom_val]
  | null | real _ | text _ | blob _ => simp [decodeNarrowInt, Value.int, error_bind]

theorem exists_decodeNarrowInt_iff (lo hi : ℤ) (value : Value) :
    (∃ x, decodeNarrowInt lo hi value = .ok x) ↔
      ∃ n, value = .integer n ∧ lo ≤ n.val ∧ n.val ≤ hi := by
  simp only [decodeNarrowInt_eq_ok_iff]
  constructor
  · rintro ⟨x, n, rfl, hval⟩
    exact ⟨n, rfl, by rw [hval]; exact x.lo_le, by rw [hval]; exact x.le_hi⟩
  · rintro ⟨n, rfl, hlo, hhi⟩
    exact ⟨⟨n.val, hlo, hhi⟩, n, rfl, rfl⟩

/-- A value decodes exactly when its storage class is compatible and it is in
range. -/
theorem exists_decode_iff (t : RustType) (value : Value) :
    (∃ x, t.decode value = .ok x) ↔ t.compatible value.typeInfo = true ∧ t.InBounds value := by
  cases t with
  | i8 | i16 | i32 | u8 | u16 | u32 =>
      refine (exists_decodeNarrowInt_iff _ _ value).trans ?_
      cases value <;> simp [compatible, typeInfo, Value.typeInfo, InBounds, bounds]
  | bool =>
      cases value with
      | integer n => exact iff_of_true ⟨_, rfl⟩ ⟨rfl, by simp [InBounds, bounds]⟩
      | null | real _ | text _ | blob _ =>
          simp [decode, compatible, typeInfo, Value.typeInfo, Value.int]
  | i64 | f64 | f32 =>
      cases value <;>
        simp [decode, compatible, typeInfo, Value.typeInfo, InBounds, bounds, Value.int,
          Value.asReal, ok_bind, error_bind, pure, Except.pure]
  | str | string | boxStr | arcStr | cowStr =>
      cases value <;>
        simp [decode, compatible, typeInfo, Value.typeInfo, InBounds, bounds, Value.asText]
  | slice | vec | boxSlice | arcSlice =>
      cases value <;>
        simp [decode, compatible, Value.typeInfo, InBounds, bounds, Value.asBlob]

end RustType

/-! ## with `Option` -/

theorem Value.isNull_iff (value : Value) : value.isNull = true ↔ value = .null := by
  cases value <;> simp [Value.isNull]

namespace SqlType

/-- The values a type decodes. -/
def Accepts : SqlType → Value → Prop
  | .plain t, value => t.compatible value.typeInfo = true ∧ t.InBounds value
  | .option t, value => value = .null ∨ t.compatible value.typeInfo = true ∧ t.InBounds value

theorem exists_decode_iff (t : SqlType) (value : Value) :
    (∃ x, t.decode value = .ok x) ↔ t.Accepts value := by
  cases t with
  | plain t => exact t.exists_decode_iff value
  | option t =>
      by_cases hnull : value = .null
      · subst hnull
        exact iff_of_true ⟨none, rfl⟩ (.inl rfl)
      · have hisNull : value.isNull = false := by
          rw [Bool.eq_false_iff, ne_eq, Value.isNull_iff]
          exact hnull
        have hdecode : SqlType.decode (.option t) value = (do return some (← t.decode value)) := by
          rw [decode, hisNull]
          rfl
        simp only [Accepts, hnull, false_or, ← RustType.exists_decode_iff, hdecode, bind_eq_ok_iff]
        constructor
        · rintro ⟨_, x, hx, _⟩
          exact ⟨x, hx⟩
        · rintro ⟨x, hx⟩
          exact ⟨some x, x, hx, rfl⟩

/-- What decodes passes the check. -/
theorem compatible_of_decode {t : SqlType} {value : Value} {x : t.Val}
    (h : t.decode value = .ok x) : (!value.isNull && !t.compatible value.typeInfo) = false := by
  have haccepts := (t.exists_decode_iff value).mp ⟨x, h⟩
  cases t with
  | plain t => simp [compatible, haccepts.1]
  | option t =>
      rcases haccepts with rfl | ⟨hcompatible, _⟩
      · rfl
      · simp [compatible, hcompatible]

/-- The check refuses nothing that decodes. -/
theorem tryDecode_eq_ok_iff {t : SqlType} {index : ColumnIndex} {value : Value} {x : t.Val} :
    t.tryDecode index value = .ok x ↔ t.decode value = .ok x := by
  rw [tryDecode]
  constructor
  · intro h
    split at h
    · cases h
    · exact mapError_eq_ok_iff.mp h
  · intro h
    rw [compatible_of_decode h, h]
    rfl

theorem tryDecode_eq_error {t : SqlType} {index : ColumnIndex} {value : Value} {error : Error}
    (h : t.tryDecode index value = .error error) :
    ∃ source, error = .columnDecode index source := by
  rw [tryDecode] at h
  split at h
  · cases h
    exact ⟨_, rfl⟩
  · cases hdecode : t.decode value with
    | ok x =>
        rw [hdecode] at h
        cases h
    | error source =>
        rw [hdecode] at h
        cases h
        exact ⟨source, rfl⟩

end SqlType

/-! ## out of a row -/

/-- **The checked and the unchecked getter agree about what decodes**, and as
what: a column is read exactly when it is there and its value is one the type
accepts; and when it is there and is not, both give its index in their error. -/
theorem tryGet_unchecked {tryGetUnchecked : Getter} (h : tryGetUnchecked.Unchecked) (row : Row)
    (t : SqlType) (index : ColumnIndex) :
    (∀ x, row.tryGet t index = .ok x ↔ tryGetUnchecked row t index = .ok x) ∧
      ((∃ x, row.tryGet t index = .ok x) ↔
        ∃ value, row.tryGetRaw index = .ok value ∧ t.Accepts value) ∧
      ∀ value, row.tryGetRaw index = .ok value → ¬t.Accepts value →
        ∃ source source', row.tryGet t index = .error (.err (.columnDecode index source)) ∧
          tryGetUnchecked row t index = .error (.err (.columnDecode index source')) := by
  cases hraw : row.tryGetRaw index with
  | error stop =>
      have hget : row.tryGet t index = .error stop := by rw [Row.tryGet, hraw, error_bind]
      have hget' : tryGetUnchecked row t index = .error stop := h.missing row t index stop hraw
      simp [hget, hget']
  | ok value =>
      have hget : row.tryGet t index = returns (t.tryDecode index value) := by
        rw [Row.tryGet, hraw, ok_bind]
      have hget' : tryGetUnchecked row t index =
          returns ((t.decode value).mapError (.columnDecode index)) :=
        h.decodes row t index value hraw
      simp only [hget, hget', returns_eq_ok_iff, returns_eq_err_iff, SqlType.tryDecode_eq_ok_iff,
        mapError_eq_ok_iff]
      refine ⟨fun _ => trivial, ?_, ?_⟩
      · simp [SqlType.exists_decode_iff]
      · rintro _ ⟨⟩ hnot
        rw [← SqlType.exists_decode_iff] at hnot
        cases hdecode : t.decode value with
        | ok x => exact absurd ⟨x, hdecode⟩ hnot
        | error source' =>
            cases htry : t.tryDecode index value with
            | ok x => exact absurd ⟨x, SqlType.tryDecode_eq_ok_iff.mp htry⟩ hnot
            | error error =>
                obtain ⟨source, rfl⟩ := SqlType.tryDecode_eq_error htry
                exact ⟨source, source', rfl, rfl⟩

/-- The getter that only decodes. -/
def Getter.decoding : Getter := fun row t index => do
  let value ← row.tryGetRaw index
  returns ((t.decode value).mapError (.columnDecode index))

theorem Getter.unchecked_decoding : Getter.decoding.Unchecked where
  missing := by
    intro row t index stop hraw
    rw [decoding, hraw, error_bind]
  decodes := by
    intro row t index value hraw
    rw [decoding, hraw, ok_bind]

/-- A text that is asked for as an integer, by its column's name. -/
theorem tryGet_unchecked_text :
    ∃ source source',
      (oneColumn "name" (.text "a")).tryGet (.plain .i64) (.name "name") =
          .error (.err (.columnDecode (.name "name") source)) ∧
        Getter.decoding (oneColumn "name" (.text "a")) (.plain .i64) (.name "name") =
          .error (.err (.columnDecode (.name "name") source')) := by
  have hraw : (oneColumn "name" (.text "a")).tryGetRaw (.name "name") = .ok (.text "a") :=
    tryGetRaw_oneColumn (.inr rfl)
  have hnot : ¬(SqlType.plain .i64).Accepts (.text "a") := by
    simp [SqlType.Accepts, RustType.compatible, RustType.typeInfo, Value.typeInfo]
  exact (tryGet_unchecked Getter.unchecked_decoding _ _ _).2.2 _ hraw hnot

end SqlxCloudflare
