import SqlxCloudflare.Core.Limited
import SqlxCloudflare.Core.Query
import SqlxCloudflare.Core.RoundTrip

/-!
# SqlxCloudflare.Core.Table

A table as a program sees it: rows of Rust values bound to an insert, and rows
read back from a select.  What becomes of them in between is each driver's; the
two ends are the same for both.

* `exists_parameters` -- an insert that was sent carries its values, in order;
* `Row.holds_of_cells`, `holds_of_readLimited` -- rows whose parameters come
  back as they were, are read as the values that were bound.
-/

namespace SqlxCloudflare

open Fallible

/-! ## binding -/

/-- A value to be bound, with its type. -/
structure Bindable where
  type : SqlType
  value : type.Val

namespace Bindable

def encode (x : Bindable) : Encoder := x.type.encode x.value

def encoded (x : Bindable) : Value := x.type.encoded x.value

/-- The parameter the value is sent as, if it can be. -/
def SentAs (x : Bindable) (parameter : JsValue) : Prop := toJs x.encoded = .ok parameter

end Bindable

/-- `Query::bind`: one value more. -/
def Arguments.bind (arguments : Arguments) (x : Bindable) : Except BoxDynError Arguments :=
  match arguments.add x.encode with
  | (.ok (), arguments) => .ok arguments
  | (.error error, _) => .error error

/-- `sqlx::query`, with values bound in order. -/
def Query.binding (sql : String) (values : List Bindable) : Query :=
  ⟨sql, some <$> values.foldlM Arguments.bind .default⟩

/-- Binding a value appends what it is encoded to, or fails. -/
theorem bind_eq_ok {arguments arguments' : Arguments} {x : Bindable}
    (h : arguments.bind x = .ok arguments') :
    arguments' = ⟨arguments.values ++ [x.encoded]⟩ := by
  obtain ⟨type, value⟩ := x
  have hplain : ∀ (t : RustType) (x : t.Val) (arguments' : Arguments),
      (match arguments.add (t.encode x) with
        | (.ok (), arguments) => .ok arguments
        | (.error error, _) => .error error) = Except.ok arguments' →
        arguments' = ⟨arguments.values ++ [t.encoded x]⟩ := by
    intro t x arguments' h
    by_cases hfits : t.Fits x
    · simp only [Arguments.add, addArgument, RustType.encode_of_fits hfits] at h
      cases h
      rfl
    · obtain ⟨error, herror⟩ := RustType.encode_of_not_fits hfits arguments.values
      simp only [Arguments.add, addArgument, herror] at h
      cases h
  cases type with
  | plain t => exact hplain t value arguments' h
  | option t =>
      cases value with
      | none =>
          simp only [Arguments.bind, Bindable.encode, SqlType.encode, Arguments.add, addArgument,
            List.take_length] at h
          cases h
          rfl
      | some x => exact hplain t x arguments' h

theorem foldlM_bind_eq_ok {values : List Bindable} {arguments arguments' : Arguments}
    (h : values.foldlM Arguments.bind arguments = .ok arguments') :
    arguments'.values = arguments.values ++ values.map Bindable.encoded := by
  induction values generalizing arguments with
  | nil =>
      cases h
      simp
  | cons x values ih =>
      rw [List.foldlM_cons] at h
      obtain ⟨next, hnext, hrest⟩ := bind_eq_ok_iff.mp h
      rw [ih hrest, bind_eq_ok hnext]
      simp

/-- A query that was sent carries its values, in the order they were bound. -/
theorem exists_parameters {sql : String} {values : List Bindable} {parameters : List JsValue}
    (h : (Query.binding sql values).sent = some parameters) :
    List.Forall₂ Bindable.SentAs values parameters := by
  rcases sent_cases (.binding sql values) with ⟨_, hnone, _⟩ | ⟨arguments, hargs, hsent⟩
  · rw [hnone] at h
    cases h
  · rcases hsent with ⟨_, hnone, _⟩ | ⟨parameters', hsome, hbind⟩
    · rw [hnone] at h
      cases h
    · rw [hsome] at h
      cases h
      obtain ⟨bound, hbound, hpure⟩ := bind_eq_ok_iff.mp hargs
      cases hpure
      have hvalues : bound.values = values.map Bindable.encoded := by
        rw [foldlM_bind_eq_ok hbound]
        rfl
      rw [argumentsOf, hvalues, toJsArray, List.mapM_map] at hbind
      exact mapM_eq_ok_iff.mp hbind

/-! ## the table -/

/-- A table, by the statements a program has for it. -/
structure Schema where
  /-- Adds a row, of one parameter for each column. -/
  insert : String
  /-- Returns every row. -/
  select : String
  names : List String
  /-- The statements that have nothing to do with the table. -/
  elsewhere : String → Prop

/-- The rows that queries insert, one after another. -/
inductive Schema.Inserts (schema : Schema) : List Query → List (List Bindable) → Prop where
  | nil : Inserts schema [] []
  | insert {queries : List Query} {rows : List (List Bindable)} (values : List Bindable)
      (hlength : values.length = schema.names.length) (h : Inserts schema queries rows) :
      Inserts schema (.binding schema.insert values :: queries) (values :: rows)
  | other {queries : List Query} {rows : List (List Bindable)} (query : Query)
      (hquery : query.sql = schema.select ∨ schema.elsewhere query.sql)
      (h : Inserts schema queries rows) : Inserts schema (query :: queries) rows

/-! ## rows that come back -/

/-- The index asks for column `i`: by its position, or by its name, which is
the last column's of that name. -/
inductive Designates (names : List String) : ColumnIndex → ℕ → Prop where
  | position (i : ℕ) : Designates names (.position i) i
  | name (name : String) (i : ℕ) (h : names[i]? = some name)
      (hlast : ∀ j : ℕ, i < j → names[j]? ≠ some name) : Designates names (.name name) i

/-- The row is of these columns, and holds these values: each is read as it was
bound, unless its parameter is one that is not kept. -/
structure Row.Holds (row : Row) (keeps : JsValue → Prop) (names : List String)
    (values : List Bindable) : Prop where
  columns : row.names = names
  reads : ∀ (i : ℕ) x sent index, values[i]? = some x → x.SentAs sent → keeps sent →
    Designates names index i → ∃ y, row.tryGet x.type index = .ok y ∧ x.type.Same x.value y

/-- A row of a result, as the parameters it was stored with come back: those
that are kept as they were, in one of the shapes they may have. -/
def Stored (keeps : JsValue → Prop) (parameters : List JsValue) (row : JsValue) : Prop :=
  ∃ cells, row = .array cells ∧
    List.Forall₂ (fun sent back => keeps sent → ComesBackAs sent back) parameters cells

theorem tryGetRaw_of_designates {row : Row} (hrow : row.WellFormed) {index : ColumnIndex} {i : ℕ}
    (h : Designates row.names index i) {value : Value} (hvalue : row.values[i]? = some value) :
    row.tryGetRaw index = .ok value := by
  cases h with
  | position =>
      have hlt := (List.getElem?_eq_some_iff.mp hvalue).1
      rw [hrow.length_values] at hlt
      exact (Row.tryGetRaw_position_eq_ok_iff hrow i value).mpr ⟨hlt, hvalue⟩
  | name name _ hname hlast =>
      exact (Row.tryGetRaw_name_eq_ok_iff hrow name value).mpr ⟨i, hname, hlast, hvalue⟩

section

variable [JsDebug] {keeps : JsValue → Prop} {names : List String}

/-- A row whose cells are what its values were sent as, come back. -/
theorem Row.holds_of_cells {row : Row} (hrow : row.WellFormed) {values : List Bindable}
    {parameters cells : List JsValue} (hsent : List.Forall₂ Bindable.SentAs values parameters)
    (hcells : List.Forall₂ (fun sent back => keeps sent → ComesBackAs sent back) parameters cells)
    (hread : cells.mapM fromJs = .ok row.values) : row.Holds keeps row.names values where
  columns := rfl
  reads := by
    intro i x sent index hx hparameter hkept hindex
    obtain ⟨sent', hsent', hx'⟩ := getElem?_of_forall₂ hsent hx
    have hsame : sent' = sent := Except.ok.inj (hx'.symm.trans hparameter)
    subst hsame
    obtain ⟨back, hback, hcomes⟩ := getElem?_of_forall₂ hcells hsent'
    obtain ⟨value, hvalue, hfromJs⟩ := getElem?_of_mapM_eq_ok hread hback
    rw [fromJs_of_comesBackAs hparameter (hcomes hkept)] at hfromJs
    cases hfromJs
    obtain ⟨y, hy, hsame⟩ := x.type.tryDecode_normal x.value index
    refine ⟨y, ?_, hsame⟩
    rw [Row.tryGet, tryGetRaw_of_designates hrow hindex hvalue, ok_bind]
    exact returns_eq_ok_iff.mpr hy

omit [JsDebug] in
theorem forall₂_limited {α β : Type} {R : α → β → Prop} (limit : Option ℕ) {as : List α}
    {bs : List β} (h : List.Forall₂ R as bs) :
    List.Forall₂ R (limited limit as) (limited limit bs) := by
  cases limit with
  | none => exact h
  | some limit => exact List.forall₂_take limit h

/-- The rows of a result, read back under a limit: the first ones inserted. -/
theorem holds_of_readLimited {read : JsValue → Except Error (List Value)} (hreads : ReadsRows read)
    {inserted : List (List Bindable)} {stored : List (List JsValue)} {rows : List JsValue}
    (hsent : List.Forall₂ (List.Forall₂ Bindable.SentAs) inserted stored)
    (hstored : List.Forall₂ (Stored keeps) stored rows) {limit : Option ℕ} {rs : List Row}
    (h : readLimited read limit names rows = .ok rs) :
    List.Forall₂ (fun values (row : Row) => row.Holds keeps names values) (limited limit inserted)
      rs := by
  obtain ⟨read, hread, hrs⟩ := bind_eq_ok_iff.mp h
  rw [Row.fromResult, rows_eq_mapM] at hrs
  have hcells := forall₂_comp (forall₂_limited limit hsent) (forall₂_limited limit hstored)
  have hrows := forall₂_comp (mapM_eq_ok_iff.mp hread) (mapM_eq_ok_iff.mp hrs)
  refine (forall₂_comp hcells hrows).imp ?_
  rintro bound row ⟨cell, ⟨parameters, hsent, hcell⟩, values, hvalues, hrow⟩
  obtain ⟨cells, rfl, hcomes⟩ := hcell
  obtain ⟨_, hcell, hfromJs⟩ := (hreads _ _).mp hvalues
  cases hcell
  obtain ⟨hlength, rfl⟩ := assemble_eq_ok_iff.mp hrow
  let row : Row := ⟨columnsOf names read Column.mk, values⟩
  have hholds : row.Holds keeps row.names bound :=
    Row.holds_of_cells ⟨hlength⟩ hsent hcomes hfromJs
  rwa [Row.names, Row.names_columnsOf] at hholds

end

/-! ## a table of two columns -/

/-- The JavaScript values that parameters are sent as. -/
def JsValue.isParameter : JsValue → Bool
  | .null | .number _ | .string _ | .arrayBuffer _ => true
  | _ => false

/-- A row of two columns, as it was inserted. -/
structure Pair where
  key : JsValue
  value : JsValue
  isParameter : key.isParameter = true ∧ value.isParameter = true

namespace Pair

def schema : Schema where
  insert := "INSERT INTO pairs VALUES (?, ?)"
  select := "SELECT key, value FROM pairs"
  names := ["key", "value"]
  elsewhere _ := False

def cells (pair : Pair) : List JsValue := [pair.key, pair.value]

/-- The row of two parameters. -/
def ofParameters : List JsValue → Option Pair
  | [key, value] =>
    if h : key.isParameter = true ∧ value.isParameter = true then some ⟨key, value, h⟩ else none
  | _ => none

theorem cells_of_ofParameters {parameters : List JsValue} {pair : Pair}
    (h : ofParameters parameters = some pair) : pair.cells = parameters := by
  unfold ofParameters at h
  split at h
  · split at h
    · cases h
      rfl
    · cases h
  · cases h

theorem convertible_of_isParameter {parameter : JsValue} (h : parameter.isParameter = true) :
    Convertible parameter := by
  cases parameter with
  | null | number _ | string _ | arrayBuffer _ => trivial
  | undefined | boolean _ | uint8Array _ | array _ | object _ | error _ _ | other _ => cases h

theorem convertible_cells (pair : Pair) : ∀ cell ∈ pair.cells, Convertible cell := by
  intro cell hcell
  simp only [cells, List.mem_cons, List.not_mem_nil, or_false] at hcell
  rcases hcell with rfl | rfl
  · exact convertible_of_isParameter pair.isParameter.1
  · exact convertible_of_isParameter pair.isParameter.2

/-- Rows that come back as they are. -/
theorem stored_cells (keeps : JsValue → Prop) (pairs : List Pair) :
    List.Forall₂ (Stored keeps) (pairs.map cells) (pairs.map fun pair => .array pair.cells) := by
  rw [List.forall₂_map_left_iff, List.forall₂_map_right_iff, List.forall₂_same]
  exact fun pair _ => ⟨pair.cells, rfl, List.forall₂_same.mpr fun cell _ _ => .same cell⟩

end Pair

end SqlxCloudflare
