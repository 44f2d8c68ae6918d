import SqlxCloudflare.Core.Access
import SqlxCloudflare.Core.Limited
import SqlxCloudflare.Core.Query

/-!
# SqlxCloudflare.Core.Faults

What can be wrong at the two ends of a query, for both drivers, and the error
that says so: with a value that is bound, and with the column names and rows
that came back.

* `raises_toJsArray` -- the errors of binding are those of integers a
  JavaScript number does not hold;
* `fromJs_eq_error_iff`, `raises_readLimited` -- those of reading are of what
  was read.
-/

namespace SqlxCloudflare

open Fallible

/-! ## binding -/

/-- One of the values cannot be bound. -/
inductive Unbindable (values : List Value) : Error → Prop where
  | integer (n : I64) (source : BoxDynError) (hmem : .integer n ∈ values) (hfar : ¬Safe n.val)
      (h : safeInteger n = .error source) : Unbindable values (.encode source)

theorem raises_toJsArray (values : List Value) :
    Raises (Unbindable values) (toJsArray values) := by
  refine raises_mapM fun value hmem => ?_
  cases value with
  | integer n =>
      refine (raises_mapError fun source hsource => ?_).bind fun _ _ => raises_ok _
      have hfar : ¬Safe n.val := by
        intro hsafe
        rw [safeInteger_of_safe hsafe] at hsource
        cases hsource
      exact .integer n source hmem hfar hsource
  | null | real _ | text _ | blob _ => exact raises_ok _

/-! ## reading -/

section

variable [JsDebug]

/-- A value that cannot be read: of no type there is a `Value` for, or an array
with an element that is not a byte. -/
inductive Unreadable : JsValue → Error → Prop where
  | type (value : JsValue) (harray : value.asArray = none) (h : ¬Convertible value) :
      Unreadable value (.decode
        s!"a value of an unexpected JavaScript type came back: {JsDebug.debug value}")
  | element (elements : List JsValue) (element : JsValue) (hmem : element ∈ elements)
      (h : ¬∃ number, element.asF64 = some number ∧ isByte number) :
      Unreadable (.array elements) (.decode "a BLOB element came back that is not a byte")

/-- `from_js` fails on these values, and says so. -/
theorem fromJs_eq_error_iff {value : JsValue} {error : Error} :
    fromJs value = .error error ↔ Unreadable value error := by
  constructor
  · intro h
    cases value with
    | array elements =>
        rcases bind_eq_error_iff.mp h with hbytes | ⟨_, _, hpure⟩
        · obtain ⟨pre, element, post, _, rfl, _, helement⟩ := mapM_eq_error_iff.mp hbytes
          have hnot : ¬∃ number, element.asF64 = some number ∧ isByte number := by
            intro hbyte
            obtain ⟨byte, hok⟩ := (exists_byteFromNumber_iff element).mpr hbyte
            rw [hok] at helement
            cases helement
          have herror : error = .decode "a BLOB element came back that is not a byte" := by
            rw [byteFromNumber] at helement
            split at helement
            · cases helement
            · cases helement
              rfl
          rw [herror]
          exact .element _ element (by simp) hnot
        · cases hpure
    | object _ | error _ _ | other _ =>
        cases h
        exact .type _ rfl id
    | undefined | null | boolean _ | number _ | string _ | arrayBuffer _ | uint8Array _ => cases h
  · intro h
    cases h with
    | type value harray h =>
        cases value with
        | array elements => cases harray
        | object _ | error _ _ | other _ => rfl
        | undefined | null | boolean _ | number _ | string _ | arrayBuffer _ | uint8Array _ =>
            exact absurd trivial h
    | element elements element hmem h =>
        have hnot : ¬Convertible (.array elements) := fun hall => h (hall element hmem)
        cases hread : fromJs (.array elements) with
        | ok v => exact absurd ((exists_fromJs_iff _).mp ⟨v, hread⟩) hnot
        | error error =>
            rcases bind_eq_error_iff.mp hread with hbytes | ⟨_, _, hpure⟩
            · obtain ⟨_, element', _, _, _, _, helement⟩ := mapM_eq_error_iff.mp hbytes
              rw [byteFromNumber] at helement
              split at helement
              · cases helement
              · cases helement
                rfl
            · cases hpure

/-- What is wrong with a result, of its column names and the rows of it that
are read; `noName` and `noRow` are the driver's own texts. -/
inductive UnreadableTable (noName noRow : String) (names rows : List JsValue) : Error → Prop where
  | name (name : JsValue) (hmem : name ∈ names) (h : name.asString = none) :
      UnreadableTable noName noRow names rows (.protocol noName)
  | row (row : JsValue) (hmem : row ∈ rows) (h : row.asArray = none) :
      UnreadableTable noName noRow names rows (.protocol noRow)
  | cell (cells : List JsValue) (cell : JsValue) (error : Error) (hmem : .array cells ∈ rows)
      (hcell : cell ∈ cells) (h : Unreadable cell error) :
      UnreadableTable noName noRow names rows error
  | ragged (cells : List JsValue) (hmem : .array cells ∈ rows)
      (h : cells.length ≠ names.length) :
      UnreadableTable noName noRow names rows (.protocol
        s!"a row of {cells.length} values came back for {names.length} columns")

variable {noName noRow : String} {names rows : List JsValue}

theorem raises_stringNames :
    Raises (UnreadableTable noName noRow names rows) (stringNames noName names) := by
  refine raises_mapM fun name hmem => ?_
  split
  · exact raises_ok _
  · next hname => exact raises_error (.name name hmem hname)

/-- A driver's reading of a row fails where there is no array or a cell cannot
be read. -/
theorem raises_mapM_fromJs {cells : List JsValue} (hmem : .array cells ∈ rows) :
    Raises (UnreadableTable noName noRow names rows) (cells.mapM fromJs) :=
  raises_mapM fun cell hcell error herror =>
    .cell cells cell error hmem hcell (fromJs_eq_error_iff.mp herror)

/-- The rows that are read, once the column names are. -/
theorem raises_readLimited {read : JsValue → Except Error (List Value)} (hread : ReadsRows read)
    {limit : Option ℕ}
    (hrow : ∀ row ∈ limited limit rows,
      Raises (UnreadableTable noName noRow names (limited limit rows)) (read row))
    {taken : List String} (hnames : stringNames noName names = .ok taken) :
    Raises (UnreadableTable noName noRow names (limited limit rows))
      (readLimited read limit taken rows) := by
  refine (raises_mapM hrow).bind fun values hvalues => raises_mapM fun row hmem => ?_
  have hlength : taken.length = names.length := length_of_mapM_eq_ok hnames
  obtain ⟨row', hrow', hvalue⟩ := exists_mem_of_mapM_eq_ok hvalues hmem
  obtain ⟨cells, rfl, hcells⟩ := (hread row' row).mp hvalue
  rw [List.length_mapIdx, hlength, length_of_mapM_eq_ok hcells]
  split
  · next hne => exact raises_error (.ragged cells hrow' hne)
  · exact raises_ok _

end

end SqlxCloudflare
