import SqlxCloudflare.Core.Access
import SqlxCloudflare.Core.Js

/-!
# SqlxCloudflare.Core.Limited

Reading at most so many rows of a result.  Each driver converts the first
`limit` rows and assembles those, which is not the same as assembling them all
and keeping the first `limit`: a column is typed by the rows that were kept.

`readLimited` is what the two drivers have in common, up to how one row is
read; `readLimited_some_iff` says when the limit changes nothing but the
number of rows.
-/

namespace SqlxCloudflare

open Fallible

/-- The first `limit` rows, or all of them. -/
def limited {α : Type} (limit : Option ℕ) (rows : List α) : List α :=
  match limit with
  | none => rows
  | some limit => rows.take limit

theorem limited_map {α β : Type} (f : α → β) (limit : Option ℕ) (rows : List α) :
    limited limit (rows.map f) = (limited limit rows).map f := by
  cases limit with
  | none => rfl
  | some limit => exact (List.map_take ..).symm

/-- The rows of a result, each read by `read`, at most `limit` of them. -/
def readLimited (read : JsValue → Except Error (List Value)) (limit : Option ℕ)
    (names : List String) (rows : List JsValue) : Except Error (List Row) := do
  let values ← (limited limit rows).mapM read
  Row.fromResult names values

theorem mem_of_mem_limited {α : Type} {limit : Option ℕ} {rows : List α} {row : α}
    (h : row ∈ limited limit rows) : row ∈ rows := by
  cases limit with
  | none => exact h
  | some limit => exact List.mem_of_mem_take h

/-- Rows that can all be read, as one value for each name, can be read under
any limit. -/
theorem exists_readLimited {read : JsValue → Except Error (List Value)} {names : List String}
    {rows : List JsValue}
    (h : ∀ row ∈ rows, ∃ values, read row = .ok values ∧ values.length = names.length)
    (limit : Option ℕ) : ∃ rs, readLimited read limit names rows = .ok rs := by
  have hreads : ∀ row ∈ limited limit rows, ∃ values, read row = .ok values := by
    intro row hrow
    obtain ⟨values, hvalues, _⟩ := h row (mem_of_mem_limited hrow)
    exact ⟨values, hvalues⟩
  obtain ⟨values, hvalues⟩ := exists_mapM_eq_ok_iff.mpr hreads
  have hlengths : ∀ row ∈ values, row.length = names.length := by
    intro row hrow
    obtain ⟨cells, hcells, hread⟩ := exists_mem_of_mapM_eq_ok hvalues hrow
    obtain ⟨row', hread', hlength⟩ := h cells (mem_of_mem_limited hcells)
    rw [hread] at hread'
    cases hread'
    exact hlength
  obtain ⟨rs, hrs⟩ := Row.exists_fromResult_iff.mpr hlengths
  exact ⟨rs, bind_eq_ok_iff.mpr ⟨values, hvalues, hrs⟩⟩

/-! ## the type of a column, from its first rows -/

/-- Some row has a value other than `NULL` in position `i`. -/
def Typed (rows : List (List Value)) (i : ℕ) : Prop :=
  ∃ row ∈ rows, ∃ value, row[i]? = some value ∧ value ≠ .null

theorem typeOf_eq_null_iff (values : List Value) :
    typeOf values = .null ↔ ∀ v ∈ values, v = .null := by
  induction values with
  | nil => simp
  | cons v values ih =>
      by_cases hv : v = .null
      · simp [hv, ih]
      · simp [typeOf_cons hv, Value.typeInfo_eq_null_iff, hv]

/-- The first values give a column its type, if one of them has one. -/
theorem typeOf_append_of_exists {pre : List Value} (hpre : ∃ v ∈ pre, v ≠ .null)
    (post : List Value) : typeOf (pre ++ post) = typeOf pre := by
  induction pre with
  | nil => simp at hpre
  | cons v pre ih =>
      by_cases hv : v = .null
      · subst hv
        rw [List.cons_append, typeOf_null_cons, typeOf_null_cons]
        exact ih (by simpa using hpre)
      · rw [List.cons_append, typeOf_cons hv, typeOf_cons hv]

/-- A column keeps its type in the first `n` rows when one of them has a value
to type it by, or no row has. -/
theorem typeOf_take_iff (rows : List (List Value)) (n i : ℕ) :
    typeOf ((rows.take n).filterMap (·[i]?)) = typeOf (rows.filterMap (·[i]?)) ↔
      (Typed rows i → Typed (rows.take n) i) := by
  have htyped : ∀ rows : List (List Value), Typed rows i ↔
      ∃ v ∈ rows.filterMap (·[i]?), v ≠ .null := by
    intro rows
    simp only [Typed, List.mem_filterMap]
    grind
  have hsplit : rows.filterMap (·[i]?) =
      (rows.take n).filterMap (·[i]?) ++ (rows.drop n).filterMap (·[i]?) := by
    rw [← List.filterMap_append, List.take_append_drop]
  rw [htyped, htyped]
  by_cases hfirst : ∃ v ∈ (rows.take n).filterMap (·[i]?), v ≠ .null
  · simp only [hfirst, implies_true, iff_true]
    rw [hsplit, typeOf_append_of_exists hfirst]
  · have hnull : typeOf ((rows.take n).filterMap (·[i]?)) = .null := by
      rw [typeOf_eq_null_iff]
      simpa using hfirst
    rw [hnull, eq_comm, typeOf_eq_null_iff]
    simp only [hfirst, imp_false]
    simp

/-! ## the rows that are kept -/

section

variable {names : List String} {rows : List (List Value)}

/-- The columns of the first `n` rows are those of all of them when every
column keeps its type. -/
theorem columnsOf_take_iff (hlengths : ∀ row ∈ rows, row.length = names.length) (n : ℕ) :
    columnsOf names (rows.take n) Column.mk = columnsOf names rows Column.mk ↔
      ∀ i, Typed rows i → Typed (rows.take n) i := by
  simp only [← typeOf_take_iff]
  constructor
  · intro h i
    by_cases hi : i < names.length
    · have hget := congrArg (·[i]?) h
      simp only [getElem?_columnsOf, List.getElem?_eq_getElem hi, Option.map_some,
        Option.some_inj, Column.mk.injEq] at hget
      exact hget.2.2
    -- Past the last column no row has a value.
    · have hnone : ∀ rows' : List (List Value), (∀ row ∈ rows', row ∈ rows) →
          rows'.filterMap (·[i]?) = [] := by
        intro rows' hsub
        rw [List.filterMap_eq_nil_iff]
        intro row hrow
        rw [List.getElem?_eq_none_iff, hlengths row (hsub row hrow)]
        omega
      rw [hnone rows fun _ h => h, hnone (rows.take n) fun _ h => List.mem_of_mem_take h]
  · intro h
    refine List.ext_getElem? fun i => ?_
    rw [getElem?_columnsOf, getElem?_columnsOf, h]

/-- Assembling the first `n` rows gives the first `n` rows of the result, when
every column keeps its type; without rows there is no column to compare. -/
theorem fromResult_take {rs : List Row} (h : Row.fromResult names rows = .ok rs) (n : ℕ) :
    ∃ rs', Row.fromResult names (rows.take n) = .ok rs' ∧ rs'.length ≤ n ∧
      (rs' = rs.take n ↔ n = 0 ∨ ∀ i, Typed rows i → Typed (rows.take n) i) := by
  obtain ⟨hlengths, rfl⟩ := Row.fromResult_eq_ok_iff.mp h
  refine ⟨_, Row.fromResult_eq_ok_iff.mpr
    ⟨fun row hrow => hlengths row (List.mem_of_mem_take hrow), rfl⟩, by simp, ?_⟩
  rw [← List.map_take, ← columnsOf_take_iff hlengths]
  cases htake : rows.take n with
  | nil =>
      rcases List.take_eq_nil_iff.mp htake with hn | hrows
      · simp [hn]
      · simp [hrows]
  | cons first rest =>
      have hn : n ≠ 0 := by
        intro hn
        simp [hn] at htake
      constructor
      · intro heq
        have hhead := congrArg List.head? heq
        simp at hhead
        exact .inr hhead
      · intro hcolumns
        rw [hcolumns.resolve_left hn]

end

/-! ## in terms of what was returned -/

/-- A value that is read as `NULL`. -/
def Nullish (value : JsValue) : Prop := value = .null ∨ value = .undefined

/-- The row has a value in position `i`, and it is not `NULL`. -/
def HasValue (i : ℕ) (row : JsValue) : Prop :=
  ∃ cells cell, row = .array cells ∧ cells[i]? = some cell ∧ ¬Nullish cell

/-- Every column that has a value in some row has one in the first `n`. -/
def KeepsTypes (n : ℕ) (rows : List JsValue) : Prop :=
  ∀ i, (∃ row ∈ rows, HasValue i row) → ∃ row ∈ rows.take n, HasValue i row

section

variable [JsDebug]

theorem eq_null_iff_of_fromJs {value : JsValue} {v : Value} (h : fromJs value = .ok v) :
    v = .null ↔ Nullish value := by
  cases value with
  | null | undefined =>
      cases h
      simp [Nullish]
  | number x =>
      cases h
      rcases fromNumber_cases x with ⟨n, hsafe, _, hinteger⟩ | hreal
      · simp [hinteger, Nullish]
      · simp [hreal, Nullish]
  | array elements =>
      obtain ⟨bytes, _, hbytes⟩ := bind_eq_ok_iff.mp h
      cases hbytes
      simp [Nullish]
  | boolean _ | string _ | arrayBuffer _ | uint8Array _ =>
      cases h
      simp [Nullish]
  | object _ | error _ _ | other _ => cases h

/-- How both drivers read a row: it is an array, and its cells are read in
order. -/
def ReadsRows (read : JsValue → Except Error (List Value)) : Prop :=
  ∀ row values, read row = .ok values ↔
    ∃ cells, row = .array cells ∧ cells.mapM fromJs = .ok values

variable {read : JsValue → Except Error (List Value)}

theorem hasValue_iff (hread : ReadsRows read) {row : JsValue} {values : List Value}
    (h : read row = .ok values) (i : ℕ) :
    HasValue i row ↔ ∃ value, values[i]? = some value ∧ value ≠ .null := by
  obtain ⟨cells, rfl, hcells⟩ := (hread row values).mp h
  constructor
  · intro ⟨cells', cell, hrow, hcell, hnullish⟩
    cases hrow
    obtain ⟨value, hvalue, hconverted⟩ := getElem?_of_mapM_eq_ok hcells hcell
    exact ⟨value, hvalue, fun hnull => hnullish ((eq_null_iff_of_fromJs hconverted).mp hnull)⟩
  · intro ⟨value, hvalue, hnull⟩
    have hlt : i < cells.length := by
      rw [← length_of_mapM_eq_ok hcells]
      exact (List.getElem?_eq_some_iff.mp hvalue).1
    have hcell : cells[i]? = some cells[i] := List.getElem?_eq_getElem hlt
    obtain ⟨value', hvalue', hconverted⟩ := getElem?_of_mapM_eq_ok hcells hcell
    rw [hvalue] at hvalue'
    cases hvalue'
    exact ⟨cells, _, rfl, hcell, fun h => hnull ((eq_null_iff_of_fromJs hconverted).mpr h)⟩

/-- A limit leaves the first rows as they are exactly when no column loses its
type. -/
theorem readLimited_some_iff (hread : ReadsRows read) {names : List String} {rows : List JsValue}
    {rs : List Row} (h : readLimited read none names rows = .ok rs) (n : ℕ) :
    ∃ rs', readLimited read (some n) names rows = .ok rs' ∧ rs'.length ≤ n ∧
      (rs' = rs.take n ↔ n = 0 ∨ KeepsTypes n rows) := by
  obtain ⟨values, hvalues, hrs⟩ := bind_eq_ok_iff.mp h
  obtain ⟨rs', hrs', hlength, hiff⟩ := fromResult_take hrs n
  have htake : (limited (some n) rows).mapM read = .ok (values.take n) := mapM_take hvalues n
  refine ⟨rs', bind_eq_ok_iff.mpr ⟨_, htake, hrs'⟩, hlength, ?_⟩
  have htyped : ∀ (rows : List JsValue) (values : List (List Value)), rows.mapM read = .ok values →
      ∀ i, Typed values i ↔ ∃ row ∈ rows, HasValue i row := by
    intro rows values hmap i
    exact exists_mem_iff_of_mapM_eq_ok hmap fun row value hrow => hasValue_iff hread hrow i
  rw [hiff]
  simp only [htyped _ _ hvalues, htyped _ _ htake, KeepsTypes, limited]

end

end SqlxCloudflare
