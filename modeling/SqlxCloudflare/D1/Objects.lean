import SqlxCloudflare.D1.Fetch

/-!
# SqlxCloudflare.D1.Objects

D1's two shapes of one result.  `raw()` gives arrays, which the executor reads
as they are; `batch()` gives objects, of which each holds the columns of one
row as its own properties, set in order.  Setting a key twice keeps its place
and its last value, and JavaScript lists the keys that are array indices
first, so the columns of a batch are others -- but what is found under a name
is the same (`paths_agree`).
-/

namespace SqlxCloudflare

open Fallible

/-! ## plain objects -/

/-- The array index a key is the decimal of, if it is one. -/
def arrayIndex? (key : String) : Option ℕ :=
  key.toNat?.filter fun index => toString index == key && index < 2 ^ 32 - 1

/-- The order JavaScript keeps own keys in: array indices ascending, then the
rest as they were added. -/
def propertyKeys (keys : List String) : List String :=
  (keys.filter fun key => (arrayIndex? key).isSome).mergeSort
      (fun a b => (arrayIndex? a).getD 0 ≤ (arrayIndex? b).getD 0) ++
    keys.filter fun key => !(arrayIndex? key).isSome

/-- An object with these own properties, set in order. -/
def JsObject.ofProperties (properties : List (String × JsValue)) : JsObject where
  ownKeys := propertyKeys ((assigned properties).map Prod.fst)
  get key := .ok (((assigned properties).lookup key).getD .undefined)

theorem perm_propertyKeys (keys : List String) : (propertyKeys keys).Perm keys :=
  ((List.mergeSort_perm _ _).append_right _).trans (List.filter_append_perm _ _)

/-- Without array indices, the keys are in the order they were added. -/
theorem propertyKeys_of_none {keys : List String} (h : ∀ key ∈ keys, arrayIndex? key = none) :
    propertyKeys keys = keys := by
  have hindices : keys.filter (fun key => (arrayIndex? key).isSome) = [] := by
    rw [List.filter_eq_nil_iff]
    intro key hkey
    simp [h key hkey]
  have hrest : keys.filter (fun key => !(arrayIndex? key).isSome) = keys := by
    rw [List.filter_eq_self]
    intro key hkey
    simp [h key hkey]
  rw [propertyKeys, hindices, hrest, List.mergeSort_nil, List.nil_append]

namespace JsObject

/-- A row as `batch()` delivers it. -/
def ofRow (names : List String) (cells : List JsValue) : JsObject := ofProperties (names.zip cells)

variable {names : List String} {cells : List JsValue}

theorem mem_ownKeys_ofRow (h : cells.length = names.length) (key : String) :
    key ∈ (ofRow names cells).ownKeys ↔ key ∈ names := by
  rw [ofRow, ofProperties, (perm_propertyKeys _).mem_iff, mem_keys_assigned,
    List.map_fst_zip h.ge]

theorem get_ofRow (names : List String) (cells : List JsValue) (key : String) :
    (ofRow names cells).get key = .ok ((filled (names.zip cells) key).getD .undefined) := by
  simp only [ofRow, ofProperties, lookup_assigned]

/-- Names that are pairwise different, and none an array index, are the keys. -/
theorem ownKeys_ofRow (h : cells.length = names.length) (hnodup : names.Nodup)
    (hindex : ∀ name ∈ names, arrayIndex? name = none) : (ofRow names cells).ownKeys = names := by
  have hkeys : (names.zip cells).map Prod.fst = names := List.map_fst_zip h.ge
  have hassigned : assigned (names.zip cells) = names.zip cells :=
    assigned_of_nodup (by rw [hkeys]; exact hnodup)
  rw [ofRow, ofProperties, hassigned, hkeys, propertyKeys_of_none hindex]

end JsObject

/-! ## reading them -/

namespace D1

/-- A result as `raw()` delivers it. -/
def arraysOf (names : List String) (cells : List (List JsValue)) : JsValue :=
  .array (.array (names.map .string) :: cells.map .array)

/-- A result as `batch()` delivers it, with no metadata. -/
def objectsOf (names : List String) (cells : List (List JsValue)) : D1Result where
  results := .ok (some (cells.map (JsObject.ofRow names)))
  metadata := .ok (.ofProperties [])

/-- A row of values in the order of other keys. -/
def reordered (names keys : List String) (row : List Value) : List Value :=
  keys.map fun key => (filled (names.zip row) key).getD .null

section

variable [JsDebug] {names keys : List String}

/-- An object is read, under any of the names, as the row it holds. -/
theorem valueAt_ofRow {cells : List JsValue} {row : List Value} (h : cells.length = names.length)
    (hrow : cells.mapM fromJs = .ok row) {key : String} (hkey : key ∈ names) :
    valueAt (JsObject.ofRow names cells) key = .ok ((filled (names.zip row) key).getD .null) := by
  have hlength := length_of_mapM_eq_ok hrow
  cases hfilled : filled names.zipIdx key with
  | none => exact absurd hkey (filled_zipIdx_eq_none_iff.mp hfilled)
  | some i =>
      have hi : i < cells.length := by
        rw [h]
        exact (List.getElem?_eq_some_iff.mp (filled_zipIdx_eq_some_iff.mp hfilled).1).1
      have hcell : cells[i]? = some cells[i] := List.getElem?_eq_getElem hi
      obtain ⟨value, hvalue, hconverted⟩ := getElem?_of_mapM_eq_ok hrow hcell
      rw [valueAt, JsObject.get_ofRow, filled_zip h.symm, filled_zip (by omega), hfilled]
      simp only [Option.bind_some, hcell, hvalue, Option.getD_some]
      exact hconverted

theorem mapM_valueAt_ofRow {cells : List JsValue} {row : List Value}
    (h : cells.length = names.length) (hrow : cells.mapM fromJs = .ok row)
    (hkeys : ∀ key ∈ keys, key ∈ names) :
    keys.mapM (valueAt (JsObject.ofRow names cells)) = .ok (reordered names keys row) := by
  rw [mapM_eq_ok_iff, reordered, List.forall₂_map_right_iff, List.forall₂_same]
  exact fun key hkey => valueAt_ofRow h hrow (hkeys key hkey)

/-- The rows as objects: each is read in the order of the first one's keys. -/
theorem rows_of_objects {result : D1Result} {cells : List (List JsValue)}
    {values : List (List Value)} (hlengths : ∀ row ∈ cells, row.length = names.length)
    (hvalues : cells.mapM (fun row => row.mapM fromJs) = .ok values)
    (hresults : result.results = .ok (some (cells.map (JsObject.ofRow names)))) :
    ∃ keys, (∀ key, key ∈ keys ↔ key ∈ names) ∧
      (names.Nodup → (∀ name ∈ names, arrayIndex? name = none) → keys = names) ∧
      rows result = Row.fromResult keys (values.map (reordered names keys)) := by
  cases cells with
  | nil =>
      cases hvalues
      refine ⟨names, fun _ => Iff.rfl, fun _ _ => rfl, ?_⟩
      rw [rows, hresults]
      rfl
  | cons first rest =>
      have hfirst : first.length = names.length := hlengths first (by simp)
      refine ⟨(JsObject.ofRow names first).ownKeys, JsObject.mem_ownKeys_ofRow hfirst,
        JsObject.ownKeys_ofRow hfirst, ?_⟩
      generalize hkeys : (JsObject.ofRow names first).ownKeys = keys
      have hmem : ∀ key ∈ keys, key ∈ names := by
        intro key hkey
        rw [← hkeys] at hkey
        exact (JsObject.mem_ownKeys_ofRow hfirst key).mp hkey
      have hread : ((first :: rest).map (JsObject.ofRow names)).mapM
          (fun object => keys.mapM (valueAt object)) =
            .ok (values.map (reordered names keys)) := by
        rw [List.mapM_map, mapM_eq_ok_iff, List.forall₂_map_right_iff]
        have hall := (List.forall₂_and_left _ _).mpr ⟨hlengths, mapM_eq_ok_iff.mp hvalues⟩
        exact hall.imp fun cells row h => mapM_valueAt_ofRow h.1 h.2 hmem
      have hcolumns : columnNames (JsObject.ofRow names first).keys = .ok keys := by
        rw [columnNames_keys, hkeys]
      rw [List.map_cons] at hread hresults
      simp only [rows, hresults, Except.mapError, ok_bind, hcolumns, hread]

/-- The rows as arrays: they are read as they are. -/
theorem fetch_of_arrays {DB P : Type} {cells : List (List JsValue)} {values : List (List Value)}
    (hlengths : ∀ row ∈ values, row.length = names.length)
    (hvalues : cells.mapM (fun row => row.mapM fromJs) = .ok values)
    {statements : D1Statements DB P} {statement : P} {s s' : DB}
    (hraw : statements.raw statement s = (.resolves (arraysOf names cells), s')) :
    outcome (fetch statements statement none s) =
      .ok (values.map (Row.mk (columnsOf names values Column.mk))) := by
  have hnames : (array (JsValue.array (names.map .string)).asArray >>= columnNames) = .ok names :=
    stringNames_map_string _ names
  have hread : (limited none (cells.map .array)).mapM readRow = .ok values := by
    rw [limited, List.mapM_map]
    exact hvalues
  rw [fetch_of_resolves hraw, outcome_lift, arraysOf, readRaw_cons, hnames, ok_bind, readLimited,
    hread, ok_bind, Row.fromResult_eq_ok_iff]
  exact ⟨hlengths, rfl⟩

end

/-! ## what is found in them -/

/-- The same found under a name in both rows: a value and the type of its
column, or no such column. -/
def SameUnder (a b : Row) (name : String) : Prop :=
  (∃ value type, a.tryGetRaw (.name name) = .ok value ∧ b.tryGetRaw (.name name) = .ok value ∧
    (a.tryColumn (.name name)).map Column.typeInfo = .ok type ∧
    (b.tryColumn (.name name)).map Column.typeInfo = .ok type) ∨
  a.tryGetRaw (.name name) = .error (.err (.columnNotFound name)) ∧
    b.tryGetRaw (.name name) = .error (.err (.columnNotFound name))

section

variable {names keys : List String} {values : List (List Value)}

/-- The columns may be others, but what is found under a name is not. -/
theorem sameUnder_reordered (hlengths : ∀ row ∈ values, row.length = names.length)
    (hkeys : ∀ key, key ∈ keys ↔ key ∈ names) {row : List Value} (hrow : row ∈ values)
    (name : String) :
    SameUnder (Row.mk (columnsOf names values Column.mk) row)
      (Row.mk (columnsOf keys (values.map (reordered names keys)) Column.mk)
        (reordered names keys row)) name := by
  have hfilled : ∀ r ∈ values,
      filled (keys.zip (reordered names keys r)) name = filled (names.zip r) name :=
    fun r hr => filled_zip_getD (hlengths r hr).symm hkeys .null name
  have hlengths' : ∀ r ∈ values.map (reordered names keys), r.length = keys.length := by
    intro r hr
    obtain ⟨r', _, rfl⟩ := List.mem_map.mp hr
    simp [reordered]
  have hvalue := Row.tryGetRaw_columnsOf hlengths hrow name
  have hvalue' := Row.tryGetRaw_columnsOf hlengths' (List.mem_map_of_mem hrow) name
  have htype := Row.tryColumn_name hlengths row name
  have htype' := Row.tryColumn_name hlengths' (reordered names keys row) name
  have hvalues : (values.map (reordered names keys)).filterMap (fun r => filled (keys.zip r) name) =
      values.filterMap fun r => filled (names.zip r) name := by
    rw [List.filterMap_map]
    exact List.filterMap_congr hfilled
  rw [hvalues] at htype'
  rw [hfilled row hrow] at hvalue'
  by_cases hmem : name ∈ names
  · rw [if_pos hmem] at htype
    rw [if_pos ((hkeys name).mpr hmem)] at htype'
    cases hfound : filled (names.zip row) name with
    | none => exact absurd hmem ((filled_zip_eq_none_iff (hlengths row hrow).symm).mp hfound)
    | some value =>
        rw [hfound] at hvalue hvalue'
        exact .inl ⟨value, _, hvalue, hvalue', htype, htype'⟩
  · rw [(filled_zip_eq_none_iff (hlengths row hrow).symm).mpr hmem] at hvalue hvalue'
    exact .inr ⟨hvalue, hvalue'⟩

/-- In the order of the names themselves, a row is the row it was. -/
theorem reordered_self (hnodup : names.Nodup) {row : List Value}
    (h : row.length = names.length) : reordered names names row = row := by
  refine List.ext_getElem? fun i => ?_
  rw [reordered, List.getElem?_map]
  cases hname : names[i]? with
  | none =>
      have hi : names.length ≤ i := List.getElem?_eq_none_iff.mp hname
      rw [List.getElem?_eq_none (by omega)]
      rfl
  | some name =>
      have hi : i < row.length := by
        rw [h]
        exact (List.getElem?_eq_some_iff.mp hname).1
      rw [Option.map_some, filled_zip_of_nodup h.symm hnodup hname, List.getElem?_eq_getElem hi]
      rfl

end

/-! ## the two paths -/

/-- **The two ways D1's rows are read agree.**  From the arrays of `raw()` and
from the objects of `batch()` come as many rows, in which the same is found
under every name; and the same rows, when the names are pairwise different and
none of them an array index. -/
theorem paths_agree [JsDebug] {DB P : Type} {names : List String} {cells : List (List JsValue)}
    (hlengths : ∀ row ∈ cells, row.length = names.length)
    (hconvertible : ∀ row ∈ cells, ∀ cell ∈ row, Convertible cell)
    {statements : D1Statements DB P} {statement : P} {s s' : DB}
    (hraw : statements.raw statement s = (.resolves (arraysOf names cells), s'))
    {result : D1Result}
    (hresults : result.results = .ok (some (cells.map (JsObject.ofRow names)))) :
    ∃ rs rs', outcome (fetch statements statement none s) = .ok rs ∧ rows result = .ok rs' ∧
      rs.length = rs'.length ∧
      (∀ (i : ℕ) a b, rs[i]? = some a → rs'[i]? = some b → ∀ name, SameUnder a b name) ∧
      (names.Nodup → (∀ name ∈ names, arrayIndex? name = none) → rs = rs') := by
  have hread : ∃ values, cells.mapM (fun row => row.mapM fromJs) = .ok values := by
    simp only [exists_mapM_eq_ok_iff, exists_fromJs_iff]
    exact hconvertible
  obtain ⟨values, hvalues⟩ := hread
  have hlengths' : ∀ row ∈ values, row.length = names.length := by
    intro row hrow
    obtain ⟨cells', hcells, hmap⟩ := exists_mem_of_mapM_eq_ok hvalues hrow
    rw [length_of_mapM_eq_ok hmap, hlengths cells' hcells]
  obtain ⟨keys, hkeys, hself, hrows⟩ := rows_of_objects hlengths hvalues hresults
  have hrows' : rows result = .ok ((values.map (reordered names keys)).map
      (Row.mk (columnsOf keys (values.map (reordered names keys)) Column.mk))) := by
    rw [hrows, Row.fromResult_eq_ok_iff]
    refine ⟨fun row hrow => ?_, rfl⟩
    obtain ⟨row', _, rfl⟩ := List.mem_map.mp hrow
    simp [reordered]
  refine ⟨_, _, fetch_of_arrays hlengths' hvalues hraw, hrows', by simp, ?_, ?_⟩
  · intro i a b ha hb name
    rw [List.getElem?_map] at ha
    rw [List.map_map, List.getElem?_map] at hb
    cases hrow : values[i]? with
    | none => simp [hrow] at ha
    | some row =>
        rw [hrow] at ha hb
        cases ha
        cases hb
        exact sameUnder_reordered hlengths' hkeys (List.mem_of_getElem? hrow) name
  · intro hnodup hindex
    have hvalues' : values.map (reordered names names) = values := by
      refine (List.map_congr_left fun row hrow => ?_).trans (List.map_id values)
      exact reordered_self hnodup (hlengths' row hrow)
    rw [hself hnodup hindex, hvalues']

/-- A row of two columns named `id`, of which the object keeps the second, and
one named `0`, which it lists first. -/
theorem paths_agree_duplicate :
    letI := JsDebug.describing
    ∃ rs rs',
      outcome (fetch (.answering (arraysOf ["id", "id", "0"] [[.string "a", .string "b", .null]]))
        () none ()) = .ok rs ∧
      rows (objectsOf ["id", "id", "0"] [[.string "a", .string "b", .null]]) = .ok rs' ∧
      ∀ (i : ℕ) a b, rs[i]? = some a → rs'[i]? = some b → ∀ name, SameUnder a b name := by
  let := JsDebug.describing
  have hlengths : ∀ row ∈ [[JsValue.string "a", .string "b", .null]],
      row.length = ["id", "id", "0"].length := by simp
  have hconvertible : ∀ row ∈ [[JsValue.string "a", .string "b", .null]],
      ∀ cell ∈ row, Convertible cell := by simp [Convertible]
  have hraw : (D1Statements.answering (arraysOf ["id", "id", "0"]
      [[.string "a", .string "b", .null]])).raw () () = (.resolves (arraysOf _ _), ()) := rfl
  have hresults : (objectsOf ["id", "id", "0"] [[.string "a", .string "b", .null]]).results =
      .ok (some (List.map (JsObject.ofRow _) _)) := rfl
  obtain ⟨rs, rs', hfetch, hrows, _, hsame, _⟩ := paths_agree hlengths hconvertible hraw hresults
  exact ⟨rs, rs', hfetch, hrows, hsame⟩

end D1

end SqlxCloudflare
