import SqlxCloudflare.Core.Row
import SqlxCloudflare.Filled

/-!
# SqlxCloudflare.Core.Access

Rows as they are assembled, and what is found in them.  `rows` gives every row
one list of columns, so a row has as many values as columns
(`Row.WellFormed`); the slice index of `tryGetRaw`, which nothing checks, then
stays inside the values whatever it was asked for.

* `TypedBy` -- the storage class a list of values gives its column;
* `rows_eq_ok_iff` -- what `rows` returns, and when;
* `Row.index_name` -- a name stands for the position a map filled with the
  names from left to right has for it.
-/

namespace SqlxCloudflare

open Fallible

/-! ## the type of a column -/

/-- The storage class of the first value that is not `NULL`, and `NULL` when
there is none. -/
inductive TypedBy : List Value → TypeInfo → Prop where
  | none (values : List Value) (h : ∀ v ∈ values, v = .null) : TypedBy values .null
  | first (pre : List Value) (value : Value) (post : List Value) (hpre : ∀ v ∈ pre, v = .null)
      (h : value ≠ .null) : TypedBy (pre ++ value :: post) value.typeInfo

theorem Value.typeInfo_eq_null_iff (value : Value) : value.typeInfo = .null ↔ value = .null := by
  cases value <;> simp [Value.typeInfo]

/-- The type `rows` gives a column, from the values in it. -/
def typeOf (values : List Value) : TypeInfo :=
  ((values.map Value.typeInfo).find? (· != .null)).getD .null

@[simp]
theorem typeOf_nil : typeOf [] = .null := rfl

@[simp]
theorem typeOf_null_cons (values : List Value) : typeOf (.null :: values) = typeOf values := rfl

theorem typeOf_cons {value : Value} (h : value ≠ .null) (values : List Value) :
    typeOf (value :: values) = value.typeInfo := by
  cases value with
  | null => exact absurd rfl h
  | integer _ | real _ | text _ | blob _ => rfl

theorem typeOf_append {pre : List Value} (hpre : ∀ v ∈ pre, v = .null) (values : List Value) :
    typeOf (pre ++ values) = typeOf values := by
  induction pre with
  | nil => rfl
  | cons v pre ih =>
      rw [hpre v (by simp), List.cons_append, typeOf_null_cons]
      exact ih fun u hu => hpre u (by simp [hu])

/-- A list of values gives its column one type. -/
theorem typedBy_iff {values : List Value} {type : TypeInfo} :
    TypedBy values type ↔ type = typeOf values := by
  constructor
  · intro h
    cases h with
    | none _ h =>
        have hnull := typeOf_append h []
        rw [List.append_nil] at hnull
        exact hnull.symm
    | first pre value post hpre h => rw [typeOf_append hpre, typeOf_cons h]
  · intro h
    subst h
    induction values with
    | nil => exact .none [] (by simp)
    | cons v values ih =>
        by_cases hv : v = .null
        · subst hv
          rw [typeOf_null_cons]
          generalize typeOf values = type at ih
          cases ih with
          | none _ h => exact .none _ (by simpa using h)
          | first pre value post hpre h =>
              exact .first (.null :: pre) value post (by simpa using hpre) h
        · rw [typeOf_cons hv]
          exact .first [] v values (by simp) hv

/-! ## the columns of a result -/

/-- The columns of a result. -/
def columnsOf {C : Type} (names : List String) (values : List (List Value))
    (column : String → ℕ → TypeInfo → C) : List C :=
  names.mapIdx fun ordinal name => column name ordinal (typeOf (values.filterMap (·[ordinal]?)))

@[simp]
theorem length_columnsOf {C : Type} (names : List String) (values : List (List Value))
    (column : String → ℕ → TypeInfo → C) : (columnsOf names values column).length = names.length :=
  List.length_mapIdx

theorem getElem?_columnsOf {C : Type} (names : List String) (values : List (List Value))
    (column : String → ℕ → TypeInfo → C) (i : ℕ) :
    (columnsOf names values column)[i]? =
      names[i]?.map fun name => column name i (typeOf (values.filterMap (·[i]?))) :=
  List.getElem?_mapIdx

/-- What `rows` does with one row of values. -/
def assemble {C R : Type} (columns : List C) (row : List C → List Value → R)
    (values : List Value) : Except Error R :=
  if values.length ≠ columns.length then
    .error (.protocol
      s!"a row of {values.length} values came back for {columns.length} columns")
  else .ok (row columns values)

theorem assemble_eq_ok_iff {C R : Type} {columns : List C} {row : List C → List Value → R}
    {values : List Value} {r : R} :
    assemble columns row values = .ok r ↔
      values.length = columns.length ∧ row columns values = r := by
  rw [assemble]
  by_cases hlength : values.length = columns.length
  · simp [hlength]
  · simp [hlength]

section

variable {C R : Type} {names : List String} {values : List (List Value)}
  {column : String → ℕ → TypeInfo → C} {row : List C → List Value → R}

theorem rows_eq_mapM (names : List String) (values : List (List Value))
    (column : String → ℕ → TypeInfo → C) (row : List C → List Value → R) :
    rows names values column row = values.mapM (assemble (columnsOf names values column) row) :=
  rfl

/-- What `rows` returns: a row for each row of values, all with the same
columns, provided each has one value per column. -/
theorem rows_eq_ok_iff {rs : List R} :
    rows names values column row = .ok rs ↔
      (∀ r ∈ values, r.length = names.length) ∧
        rs = values.map (row (columnsOf names values column)) := by
  rw [rows_eq_mapM, mapM_eq_ok_iff]
  simp only [assemble_eq_ok_iff, length_columnsOf]
  rw [List.forall₂_and_left, eq_comm (a := rs), ← List.forall₂_eq_eq_eq,
    List.forall₂_map_left_iff]

/-- It fails on a row of another length, and only on that. -/
theorem exists_rows_eq_error_iff :
    (∃ error, rows names values column row = .error error) ↔
      ∃ r ∈ values, r.length ≠ names.length := by
  cases hrows : rows names values column row with
  | error error =>
      simp only [Except.error.injEq, exists_eq', true_iff]
      by_contra hall
      have hok : rows names values column row = .ok _ :=
        rows_eq_ok_iff.mpr ⟨by simpa using hall, rfl⟩
      rw [hrows] at hok
      cases hok
  | ok rs =>
      have hall := (rows_eq_ok_iff.mp hrows).1
      simpa using hall

end

/-! ## access -/

namespace Row

/-- A row with one value per column. -/
structure WellFormed (row : Row) : Prop where
  length_values : row.values.length = row.columns.length

/-- The names of the row's columns. -/
def names (row : Row) : List String := row.columns.map Column.name

theorem WellFormed.length_names {row : Row} (h : row.WellFormed) :
    row.names.length = row.values.length := by
  rw [names, List.length_map, h.length_values]

theorem rposition_append_singleton (p : Column → Bool) (columns : List Column) (column : Column) :
    rposition p (columns ++ [column]) =
      if p column then some columns.length else rposition p columns := by
  rw [rposition, List.reverse_append, List.reverse_singleton, List.singleton_append,
    List.findIdx?_cons, List.length_append, List.length_singleton]
  by_cases hp : p column = true
  · simp [hp]
  · rw [if_neg hp, if_neg hp, Option.map_map, rposition]
    congr 1
    funext i
    simp only [Function.comp_apply]
    omega

/-- The column a name stands for is found as in a map filled with the names,
left to right. -/
theorem rposition_name (columns : List Column) (name : String) :
    rposition (fun column => column.name == name) columns =
      filled (columns.map Column.name).zipIdx name := by
  induction columns using List.reverseRecOn with
  | nil => rfl
  | append_singleton columns column ih =>
      have hentries : ((columns ++ [column]).map Column.name).zipIdx =
          (columns.map Column.name).zipIdx ++ [(column.name, columns.length)] := by
        simp [List.zipIdx_append]
      rw [rposition_append_singleton, hentries, filled_append_singleton, ih]
      by_cases hname : column.name = name
      · simp [hname]
      · simp [hname, Ne.symm hname]

theorem index_name (row : Row) (name : String) :
    row.index (.name name) =
      match filled row.names.zipIdx name with
      | some i => .ok i
      | none => .error (.columnNotFound name) := by
  rw [index, rposition_name]
  rfl

/-- What asking for a column comes to: a position inside the row, one that is
outside of it, or a name no column has. -/
theorem index_cases (row : Row) (index : ColumnIndex) :
    (∃ i, i < row.columns.length ∧ row.index index = .ok i) ∨
      (∃ i, index = .position i ∧ ¬i < row.columns.length ∧
        row.index index = .error (.columnIndexOutOfBounds i row.columns.length)) ∨
      ∃ name, index = .name name ∧ name ∉ row.names ∧
        row.index index = .error (.columnNotFound name) := by
  cases index with
  | position i =>
      by_cases hi : i < row.columns.length
      · exact .inl ⟨i, hi, if_pos hi⟩
      · exact .inr (.inl ⟨i, rfl, hi, if_neg hi⟩)
  | name name =>
      rw [index_name]
      cases hfilled : filled row.names.zipIdx name with
      | none => exact .inr (.inr ⟨name, rfl, filled_zipIdx_eq_none_iff.mp hfilled, rfl⟩)
      | some i =>
          have hget := (filled_zipIdx_eq_some_iff.mp hfilled).1
          have hlt := (List.getElem?_eq_some_iff.mp hget).1
          exact .inl ⟨i, by simpa [names] using hlt, rfl⟩

theorem tryGetRaw_of_index_eq_error {row : Row} {index : ColumnIndex} {error : Error}
    (h : row.index index = .error error) : row.tryGetRaw index = .error (.err error) := by
  rw [tryGetRaw, h, returns_error, error_bind]

/-- The slice index of `tryGetRaw` stays inside the values of a row that has
one for each column. -/
theorem tryGetRaw_of_index_eq_ok {row : Row} (hrow : row.WellFormed) {index : ColumnIndex} {i : ℕ}
    (hi : i < row.columns.length) (h : row.index index = .ok i) :
    ∃ value, row.values[i]? = some value ∧ row.tryGetRaw index = .ok value := by
  have hlt : i < row.values.length := by
    rw [hrow.length_values]
    exact hi
  refine ⟨row.values[i], List.getElem?_eq_getElem hlt, ?_⟩
  rw [tryGetRaw, h, returns_ok, ok_bind, valueAt, List.getElem?_eq_getElem hlt]

theorem tryGetRaw_ne_panic {row : Row} (hrow : row.WellFormed) (index : ColumnIndex)
    (panic : Panic) : row.tryGetRaw index ≠ .error (.panic panic) := by
  intro h
  rcases index_cases row index with ⟨i, hi, hindex⟩ | ⟨i, _, _, hindex⟩ | ⟨name, _, _, hindex⟩
  · obtain ⟨value, _, hvalue⟩ := tryGetRaw_of_index_eq_ok hrow hi hindex
    rw [hvalue] at h
    cases h
  · rw [tryGetRaw_of_index_eq_error hindex] at h
    cases h
  · rw [tryGetRaw_of_index_eq_error hindex] at h
    cases h

/-- A name gives the value a map filled with the row's values has under it. -/
theorem tryGetRaw_name {row : Row} (hrow : row.WellFormed) (name : String) :
    row.tryGetRaw (.name name) =
      match filled (row.names.zip row.values) name with
      | some value => .ok value
      | none => .error (.err (.columnNotFound name)) := by
  rw [filled_zip hrow.length_names]
  rcases index_cases row (.name name) with ⟨i, hi, hindex⟩ | ⟨i, h, _⟩ | ⟨_, h, hmem, hindex⟩
  · obtain ⟨value, hvalue, hok⟩ := tryGetRaw_of_index_eq_ok hrow hi hindex
    rw [index_name] at hindex
    cases hfilled : filled row.names.zipIdx name with
    | none => simp [hfilled] at hindex
    | some j =>
        have hj : j = i := by simpa [hfilled] using hindex
        simp [hok, hj, hvalue]
  · cases h
  · cases h
    rw [tryGetRaw_of_index_eq_error hindex, filled_zipIdx_eq_none_iff.mpr hmem]
    rfl

theorem tryGetRaw_position_eq_ok_iff {row : Row} (hrow : row.WellFormed) (i : ℕ) (value : Value) :
    row.tryGetRaw (.position i) = .ok value ↔
      i < row.columns.length ∧ row.values[i]? = some value := by
  by_cases hi : i < row.columns.length
  · have hindex : row.index (.position i) = .ok i := if_pos hi
    obtain ⟨v, hv, hok⟩ := tryGetRaw_of_index_eq_ok hrow hi hindex
    simp [hok, hi, hv]
  · have hindex : row.index (.position i) = .error _ := if_neg hi
    simp [tryGetRaw_of_index_eq_error hindex, hi]

/-- The value under a name is the one of its last column. -/
theorem tryGetRaw_name_eq_ok_iff {row : Row} (hrow : row.WellFormed) (name : String)
    (value : Value) :
    row.tryGetRaw (.name name) = .ok value ↔
      ∃ i : ℕ, row.names[i]? = some name ∧ (∀ j : ℕ, i < j → row.names[j]? ≠ some name) ∧
        row.values[i]? = some value := by
  have hfound : row.tryGetRaw (.name name) = .ok value ↔
      filled (row.names.zip row.values) name = some value := by
    rw [tryGetRaw_name hrow]
    cases filled (row.names.zip row.values) name with
    | none => simp
    | some v => simp
  rw [hfound, filled_zip hrow.length_names, Option.bind_eq_some_iff]
  simp only [filled_zipIdx_eq_some_iff, and_assoc]

theorem tryGetRaw_name_eq_columnNotFound_iff {row : Row} (hrow : row.WellFormed) (name : String) :
    row.tryGetRaw (.name name) = .error (.err (.columnNotFound name)) ↔ name ∉ row.names := by
  rcases index_cases row (.name name) with ⟨i, hi, hindex⟩ | ⟨i, h, _⟩ | ⟨_, h, hmem, hindex⟩
  · obtain ⟨value, _, hok⟩ := tryGetRaw_of_index_eq_ok hrow hi hindex
    have hmem : name ∈ row.names := by
      by_contra hnot
      rw [index_name, filled_zipIdx_eq_none_iff.mpr hnot] at hindex
      cases hindex
    simp [hok, hmem]
  · cases h
  · cases h
    simp [tryGetRaw_of_index_eq_error hindex, hmem]

/-- The rows of a result are well formed, and have its names. -/
theorem fromResult_eq_ok_iff {names : List String} {values : List (List Value)} {rs : List Row} :
    fromResult names values = .ok rs ↔
      (∀ r ∈ values, r.length = names.length) ∧
        rs = values.map (Row.mk (columnsOf names values Column.mk)) := rows_eq_ok_iff

theorem names_columnsOf (names : List String) (values : List (List Value)) :
    (columnsOf names values Column.mk).map Column.name = names := by
  refine List.ext_getElem? fun i => ?_
  rw [List.getElem?_map, getElem?_columnsOf, Option.map_map]
  cases names[i]? with
  | none => rfl
  | some name => rfl

/-- Every access to a row whose columns have these names is in bounds. -/
structure InBounds (row : Row) (names : List String) : Prop where
  never_panics : ∀ index panic, row.tryGetRaw index ≠ .error (.panic panic)
  position : ∀ i value, row.tryGetRaw (.position i) = .ok value ↔
    i < row.columns.length ∧ row.values[i]? = some value
  /-- A name gives the value of its last column. -/
  name : ∀ name value, row.tryGetRaw (.name name) = .ok value ↔
    ∃ i : ℕ, names[i]? = some name ∧ (∀ j : ℕ, i < j → names[j]? ≠ some name) ∧
      row.values[i]? = some value
  /-- It is what a map says that is filled with the names, left to right. -/
  name_filled : ∀ name, row.index (.name name) =
    match filled names.zipIdx name with
    | some i => .ok i
    | none => .error (.columnNotFound name)
  columnNotFound : ∀ name, row.tryGetRaw (.name name) = .error (.err (.columnNotFound name)) ↔
    name ∉ names

theorem WellFormed.inBounds {row : Row} (h : row.WellFormed) : row.InBounds row.names where
  never_panics := tryGetRaw_ne_panic h
  position := tryGetRaw_position_eq_ok_iff h
  name := tryGetRaw_name_eq_ok_iff h
  name_filled := index_name row
  columnNotFound := tryGetRaw_name_eq_columnNotFound_iff h

theorem wellFormed_columnsOf {names : List String} {values : List (List Value)}
    (hlengths : ∀ r ∈ values, r.length = names.length) {row : List Value} (hrow : row ∈ values) :
    (Row.mk (columnsOf names values Column.mk) row).WellFormed :=
  ⟨(hlengths row hrow).trans (length_columnsOf ..).symm⟩

/-- The value under a name, in a row of a result. -/
theorem tryGetRaw_columnsOf {names : List String} {values : List (List Value)}
    (hlengths : ∀ r ∈ values, r.length = names.length) {row : List Value} (hrow : row ∈ values)
    (name : String) :
    (Row.mk (columnsOf names values Column.mk) row).tryGetRaw (.name name) =
      match filled (names.zip row) name with
      | some value => .ok value
      | none => .error (.err (.columnNotFound name)) := by
  have hname := tryGetRaw_name (wellFormed_columnsOf hlengths hrow) name
  rw [Row.names, names_columnsOf] at hname
  exact hname

/-- The column asked for: sqlx's `try_column`. -/
def tryColumn (row : Row) (index : ColumnIndex) : Except (Stop Error) Column := do
  let index ← returns (row.index index)
  match row.columns[index]? with
  | some column => .ok column
  | none => .error (.panic ⟨"index out of bounds"⟩)

/-- The column under a name is typed by the values under it. -/
theorem tryColumn_name {names : List String} {values : List (List Value)}
    (hlengths : ∀ r ∈ values, r.length = names.length) (row : List Value) (name : String) :
    ((Row.mk (columnsOf names values Column.mk) row).tryColumn (.name name)).map Column.typeInfo =
      if name ∈ names then
        .ok (typeOf (values.filterMap fun r => filled (names.zip r) name))
      else .error (.err (.columnNotFound name)) := by
  have hindex := index_name (Row.mk (columnsOf names values Column.mk) row) name
  rw [Row.names, names_columnsOf] at hindex
  rw [tryColumn, hindex]
  cases hfilled : filled names.zipIdx name with
  | none =>
      rw [if_neg (filled_zipIdx_eq_none_iff.mp hfilled), returns_error, error_bind]
      rfl
  | some i =>
      have hget := (filled_zipIdx_eq_some_iff.mp hfilled).1
      have hvalues : values.filterMap (fun r => filled (names.zip r) name) =
          values.filterMap (·[i]?) := by
        refine List.filterMap_congr fun r hr => ?_
        rw [filled_zip (hlengths r hr).symm, hfilled, Option.bind_some]
      rw [if_pos (List.mem_of_getElem? hget), returns_ok, ok_bind, getElem?_columnsOf, hget,
        hvalues]
      rfl

end Row

/-! ## assembled rows -/

/-- **Assembled rows are well formed, and every access is in bounds.** -/
theorem rows_wellFormed (names : List String) (values : List (List Value)) :
    (∀ (C R : Type) (column : String → ℕ → TypeInfo → C) (row : List C → List Value → R),
      ((∃ error, rows names values column row = .error error) ↔
        ∃ r ∈ values, r.length ≠ names.length) ∧
      ∀ rs, rows names values column row = .ok rs →
        ∃ columns, rs = values.map (row columns) ∧ columns.length = names.length ∧
          ∀ i name, names[i]? = some name →
            ∃ type, TypedBy (values.filterMap (·[i]?)) type ∧
              columns[i]? = some (column name i type)) ∧
    ∀ rs, Row.fromResult names values = .ok rs → ∀ row ∈ rs, row.InBounds names := by
  constructor
  · intro C R column row
    refine ⟨exists_rows_eq_error_iff, fun rs hrs => ?_⟩
    refine ⟨columnsOf names values column, (rows_eq_ok_iff.mp hrs).2, length_columnsOf .., ?_⟩
    intro i name hname
    refine ⟨typeOf (values.filterMap (·[i]?)), typedBy_iff.mpr rfl, ?_⟩
    rw [getElem?_columnsOf, hname]
    rfl
  · intro rs hrs row hrow
    obtain ⟨hlengths, rfl⟩ := Row.fromResult_eq_ok_iff.mp hrs
    obtain ⟨r, hr, rfl⟩ := List.mem_map.mp hrow
    have hbounds := (Row.wellFormed_columnsOf hlengths hr).inBounds
    rw [Row.names, Row.names_columnsOf] at hbounds
    exact hbounds

/-- Two columns of one name: the row is in bounds all the same. -/
theorem rows_wellFormed_duplicate :
    ∃ row, Row.fromResult ["id", "id"] [[.integer (.lit 1 rfl), .null]] =
      .ok [row] ∧ row.InBounds ["id", "id"] := by
  have hlengths : ∀ r ∈ [[Value.integer (.lit 1 rfl), .null]],
      r.length = ["id", "id"].length := by simp
  obtain ⟨rs, hrs⟩ := Row.exists_fromResult_iff.mpr hlengths
  have hrows := (rows_wellFormed _ _).2 rs hrs
  obtain ⟨_, rfl⟩ := Row.fromResult_eq_ok_iff.mp hrs
  exact ⟨_, hrs, hrows _ (by simp)⟩

end SqlxCloudflare
