import SqlxCloudflare.Core.Limited
import SqlxCloudflare.Do.Drained

/-!
# SqlxCloudflare.Do.Reading

What `fetch` returns, from the rows its cursor yields: the loop that steps the
cursor and converts as it goes returns what converting the first `limit` rows
of a list does (`outcome_fetch_of_toEnd`).
-/

namespace SqlxCloudflare

open Fallible

variable {DB : Type} [JsDebug]

theorem readsRows_readRow : ReadsRows readRow := by
  intro row values
  cases row with
  | array cells =>
      rw [readRow, JsValue.asArray]
      simp
  | _ => simp [readRow, JsValue.asArray]

/-! ## the loop -/

omit [JsDebug] in
theorem wanted_zero (limit : Option ℕ) (rows : List JsValue) :
    wanted limit 0 rows = limited limit rows := by
  cases limit with
  | none => rfl
  | some limit => rw [wanted, Nat.sub_zero, limited]

/-- The loop only returns rows when the iterator ends well. -/
theorem toEnd_of_readRows {iterator left : RawIterator DB} {limit : Option ℕ}
    {rows rs : List (List Value)} (h : readRows limit rows iterator = .ok rs left) :
    ∃ final, iterator.toEnd = .ok iterator.rows final := by
  induction iterator generalizing rows with
  | ended db => exact ⟨db, rfl⟩
  | last db final => exact ⟨final, rfl⟩
  | throws db error final => cases h
  | yields db row rest ih =>
      have hrest : ∃ final, rest.toEnd = .ok rest.rows final := by
        rw [readRows] at h
        by_cases hwants : wants limit rows.length = true
        · rw [if_pos hwants] at h
          cases hrow : readRow row with
          | ok values =>
              simp only [hrow] at h
              exact ih h
          | error error => simp [hrow] at h
        · rw [if_neg hwants] at h
          exact ih h
      obtain ⟨final, hfinal⟩ := hrest
      exact ⟨final, by rw [RawIterator.toEnd, hfinal, RawIterator.rows]⟩

/-- The loop fails where the first of the rows wanted cannot be converted. -/
theorem readRows_of_error {limit : Option ℕ} {iterator : RawIterator DB} {values : List JsValue}
    {final : DB} (hend : iterator.toEnd = .ok values final) {rows : List (List Value)}
    {error : Error} (h : (wanted limit rows.length values).mapM readRow = .error error) :
    ∃ left, readRows limit rows iterator = .error error left := by
  induction iterator generalizing rows values with
  | ended db | last _ db =>
      cases hend
      rw [wanted_nil, List.mapM_nil] at h
      cases h
  | throws db error final' => cases hend
  | yields db row rest ih =>
      rw [RawIterator.toEnd] at hend
      cases hrest : rest.toEnd with
      | error error final' =>
          rw [hrest] at hend
          cases hend
      | ok values' final' =>
          rw [hrest] at hend
          cases hend
          rw [readRows]
          by_cases hwants : wants limit rows.length = true
          · rw [wanted_cons_of_wants hwants, List.mapM_cons, bind_eq_error_iff] at h
            rw [if_pos hwants]
            rcases h with hrow | ⟨row', hrow, hlater⟩
            · exact ⟨rest, by simp only [hrow]⟩
            · simp only [hrow]
              rcases bind_eq_error_iff.mp hlater with hlater | ⟨_, _, hpure⟩
              · refine ih hrest ?_
                rw [List.length_append]
                exact hlater
              · cases hpure
          · rw [wanted_of_not_wants hwants] at h
            cases h

/-! ## `fetch` -/

section

variable {storage : SqlStorage DB} {sql : String} {arguments : List Value}
  {parameters : List JsValue} {db final : DB} {cursor : Cursor DB} {values : List JsValue}

/-- What `fetch` returns when its cursor ends well. -/
theorem outcome_fetch_of_toEnd (hbind : toJsArray arguments = .ok parameters)
    (hexec : storage.exec sql parameters db = .ok cursor)
    (hend : cursor.raw.toEnd = .ok values final) (limit : Option ℕ) :
    outcome (fetch storage sql arguments limit db) =
      (columnNames cursor.columnNames >>= fun names =>
        readLimited readRow limit names values) >>= fun rows =>
          .ok (rows, asU64 cursor.rowsWritten) := by
  cases hnames : columnNames cursor.columnNames with
  | error error =>
      rw [fetch_of_columnNames_error hbind hexec hnames]
      rfl
  | ok names =>
      rw [ok_bind, readLimited, ← wanted_zero]
      cases hvalues : (wanted limit 0 values).mapM readRow with
      | error error =>
          have hrows : ∃ left, readRows limit [] cursor.raw = .error error left :=
            readRows_of_error hend hvalues
          obtain ⟨left, hrows⟩ := hrows
          rw [fetch_of_readCursor_error hbind hexec (readCursor_of_readRows_error hnames hrows)]
          rfl
      | ok new =>
          have hrows : readRows limit [] cursor.raw = .ok new (.ended final) :=
            readRows_of_toEnd hend hvalues
          rw [ok_bind]
          cases hresult : Row.fromResult names new with
          | ok rs =>
              rw [fetch_of_completes hbind ⟨hexec, hend⟩ hnames hvalues hresult]
              rfl
          | error error =>
              have hcursor : readCursor cursor limit cursor.raw = .error error (.ended final) := by
                rw [readCursor_of_readRows hnames hrows, hresult]
              rw [fetch_of_readCursor_error hbind hexec hcursor]
              rfl

/-- A cursor whose rows `fetch` returns has ended well. -/
theorem toEnd_of_fetch (hbind : toJsArray arguments = .ok parameters)
    (hexec : storage.exec sql parameters db = .ok cursor) {limit : Option ℕ}
    {result : List Row × U64} (h : outcome (fetch storage sql arguments limit db) = .ok result) :
    ∃ final, cursor.raw.toEnd = .ok cursor.raw.rows final := by
  cases hnames : columnNames cursor.columnNames with
  | error error =>
      rw [fetch_of_columnNames_error hbind hexec hnames] at h
      cases h
  | ok names =>
      cases hrows : readRows limit [] cursor.raw with
      | ok rs left => exact toEnd_of_readRows hrows
      | error error left =>
          have hcursor := readCursor_of_readRows_error hnames hrows
          rw [fetch_of_readCursor_error hbind hexec hcursor] at h
          cases h

end

end SqlxCloudflare
