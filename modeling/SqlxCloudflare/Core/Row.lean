import SqlxCloudflare.Core.Error
import SqlxCloudflare.Panic

/-!
# SqlxCloudflare.Core.Row

The rows of one result.  `rows` is the core crate's: generic over the driver's
column and row types, it types each column by its first non-NULL value and
refuses a row that does not have one value per column.

`Row` and `Column` are what each driver instantiates it with: `DoRow` and
`D1Row` are one struct in each, and so are their columns.
-/

namespace SqlxCloudflare

open Fallible

/-- The rows of one result, from its column names and its rows of values. -/
def rows {C R : Type} (names : List String) (rows : List (List Value))
    (column : String → ℕ → TypeInfo → C) (row : List C → List Value → R) :
    Except Error (List R) :=
  let columns := names.mapIdx fun ordinal name =>
    let typeInfo := (((rows.filterMap (·[ordinal]?)).map Value.typeInfo).find?
      (· != .null)).getD .null
    column name ordinal typeInfo
  rows.mapM fun values =>
    if values.length ≠ columns.length then
      .error (.protocol
        s!"a row of {values.length} values came back for {columns.length} columns")
    else .ok (row columns values)

/-- A column of a result. -/
structure Column where
  name : String
  ordinal : ℕ
  typeInfo : TypeInfo
deriving DecidableEq

/-- A row of a result; every row of one result has the same columns. -/
structure Row where
  columns : List Column
  values : List Value
deriving DecidableEq

namespace Row

/-- The rows of one result: `from_result`. -/
def fromResult (names : List String) (values : List (List Value)) : Except Error (List Row) :=
  rows names values Column.mk Row.mk

/-- A result can be assembled when its rows have one value per column, and not
otherwise. -/
theorem exists_fromResult_iff {names : List String} {values : List (List Value)} :
    (∃ rows, fromResult names values = .ok rows) ↔ ∀ row ∈ values, row.length = names.length := by
  rw [fromResult, rows, exists_mapM_eq_ok_iff]
  refine forall₂_congr fun row _ => ?_
  rw [List.length_mapIdx]
  split <;> simp_all

/-- The last position at which `p` holds: Rust's `rposition`. -/
def rposition (p : Column → Bool) (columns : List Column) : Option ℕ :=
  (columns.reverse.findIdx? p).map (columns.length - 1 - ·)

/-- The position `index` stands for: itself, if there is such a column, or the
last column of that name. -/
def index (row : Row) : ColumnIndex → Except Error ℕ
  | .position index =>
    if index < row.columns.length then .ok index
    else .error (.columnIndexOutOfBounds index row.columns.length)
  | .name name =>
    match rposition (fun column => column.name == name) row.columns with
    | some index => .ok index
    | none => .error (.columnNotFound name)

/-- `values[i]`: an index past the end is a panic. -/
def valueAt (row : Row) (i : ℕ) : Except (Stop Error) Value :=
  match row.values[i]? with
  | some value => .ok value
  | none => .error (.panic ⟨"index out of bounds"⟩)

/-- `try_get_raw`. -/
def tryGetRaw (row : Row) (index : ColumnIndex) : Except (Stop Error) Value := do
  let index ← returns (row.index index)
  row.valueAt index

end Row

end SqlxCloudflare
