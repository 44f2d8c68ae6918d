import SqlxCloudflare.D1.Fetch
import SqlxCloudflare.Do.Executor
import SqlxCloudflare.Do.Reading

/-!
# SqlxCloudflare.Drivers.Limit

`limit` in both drivers.  It is there to save converting rows nobody will
read, but the rows that are not converted no longer type their columns: a
column that is `NULL` in every row kept is reported as `NULL`, whatever comes
after.

* `D1.readRaw_some`, `fetch_some` -- a limited fetch, in each driver, from an
  unlimited one;
* `fetch_limit_iff` -- so when the limit changes nothing but how many rows
  come back.
-/

namespace SqlxCloudflare

open Fallible

/-- Of at most one row, the first is all there is. -/
theorem head?_eq_iff {α : Type} {rs' rs : List α} (h : rs'.length ≤ 1) :
    rs'.head? = rs.head? ↔ rs' = rs.take 1 := by
  match rs', rs with
  | [], [] | [], _ :: _ => simp
  | [a], [] | [a], b :: _ => simp
  | _ :: _ :: _, _ => simp at h

/-! ## each driver -/

variable [JsDebug]

namespace D1

/-- The rows of an answer of `raw()`, without the column names. -/
def rawRows (result : JsValue) : List JsValue := (result.asArray.getD []).tail

theorem readRaw_some {result : JsValue} {rs : List Row} (h : readRaw none result = .ok rs)
    (n : ℕ) :
    ∃ rs', readRaw (some n) result = .ok rs' ∧ rs'.length ≤ n ∧
      (rs' = rs.take n ↔ n = 0 ∨ KeepsTypes n (rawRows result)) := by
  cases result with
  | array elements =>
      cases elements with
      | nil =>
          cases h
          exact ⟨[], rfl, by simp, by simp [KeepsTypes, rawRows, JsValue.asArray]⟩
      | cons names rows =>
          rw [readRaw_cons] at h
          obtain ⟨names', hnames, hrows⟩ := bind_eq_ok_iff.mp h
          obtain ⟨rs', hrs', hlength, hiff⟩ := readLimited_some_iff readsRows_readRow hrows n
          refine ⟨rs', ?_, hlength, hiff⟩
          rw [readRaw_cons]
          exact bind_eq_ok_iff.mpr ⟨names', hnames, hrs'⟩
  | _ => cases h

variable {DB P : Type} {statements : D1Statements DB P} {statement : P} {s s' : DB}
  {result : JsValue} {rs : List Row}

theorem fetch_some (hraw : statements.raw statement s = (.resolves result, s'))
    (h : outcome (fetch statements statement none s) = .ok rs) (n : ℕ) :
    ∃ rs', outcome (fetch statements statement (some n) s) = .ok rs' ∧ rs'.length ≤ n ∧
      (rs' = rs.take n ↔ n = 0 ∨ KeepsTypes n (rawRows result)) := by
  rw [fetch_of_resolves hraw, outcome_lift] at h
  rw [fetch_of_resolves hraw, outcome_lift]
  exact readRaw_some h n

/-- The executor's `fetch_optional`, from its `fetch_many`. -/
theorem fetchOptional_of_fetchMany {db : D1Database DB P} {query : Query}
    (hprepare : Executor.prepare db query = .ok statement)
    (hraw : statements.raw statement s = (.resolves result, s'))
    (h : outcome (Executor.fetchMany db statements query s) = .ok rs) :
    outcome (Executor.fetchOptional db statements query s) = .ok rs.head? ↔
      KeepsTypes 1 (rawRows result) := by
  rw [Executor.fetchMany, hprepare, run_bind_of_ok (run_lift_ok _ _)] at h
  obtain ⟨rs', hsome, hlength, hiff⟩ := fetch_some hraw h 1
  obtain ⟨t, ht⟩ := outcome_eq_ok_iff.mp hsome
  rw [Executor.fetchOptional, hprepare, run_bind_of_ok (run_lift_ok _ _), run_bind_of_ok ht,
    run_pure, outcome, Except.ok.injEq, head?_eq_iff hlength, hiff]
  simp

end D1

section

variable {DB : Type} {storage : SqlStorage DB} {sql : String} {arguments : List Value}
  {parameters : List JsValue} {db : DB} {cursor : Cursor DB}

theorem fetch_some (hbind : toJsArray arguments = .ok parameters)
    (hexec : storage.exec sql parameters db = .ok cursor) {rs : List Row} {written : U64}
    (h : outcome (fetch storage sql arguments none db) = .ok (rs, written)) (n : ℕ) :
    ∃ rs', outcome (fetch storage sql arguments (some n) db) = .ok (rs', written) ∧
      rs'.length ≤ n ∧ (rs' = rs.take n ↔ n = 0 ∨ KeepsTypes n cursor.raw.rows) := by
  obtain ⟨final, hend⟩ := toEnd_of_fetch hbind hexec h
  rw [outcome_fetch_of_toEnd hbind hexec hend] at h
  obtain ⟨rs₀, hread, hpair⟩ := bind_eq_ok_iff.mp h
  cases hpair
  obtain ⟨names, hnames, hrows⟩ := bind_eq_ok_iff.mp hread
  obtain ⟨rs', hrs', hlength, hiff⟩ := readLimited_some_iff readsRows_readRow hrows n
  refine ⟨rs', ?_, hlength, hiff⟩
  rw [outcome_fetch_of_toEnd hbind hexec hend]
  exact bind_eq_ok_iff.mpr ⟨rs', bind_eq_ok_iff.mpr ⟨names, hnames, hrs'⟩, rfl⟩

theorem fetchOptional_of_fetchMany {query : Query} {arguments : Option Arguments}
    (htake : take query = .ok (sql, arguments))
    (hbind : toJsArray (argumentsOf arguments) = .ok parameters)
    (hexec : storage.exec sql parameters db = .ok cursor) {rs : List Row}
    (h : outcome (Executor.fetchMany storage query db) = .ok rs) :
    outcome (Executor.fetchOptional storage query db) = .ok rs.head? ↔
      KeepsTypes 1 cursor.raw.rows := by
  have hmany : Executor.fetchMany storage query db =
      (fetch storage sql (argumentsOf arguments) none >>= fun fetched => pure fetched.1) db := by
    rw [Executor.fetchMany, htake, run_bind_of_ok (run_lift_ok _ _)]
  have hoptional : Executor.fetchOptional storage query db =
      (fetch storage sql (argumentsOf arguments) (some 1) >>= fun fetched =>
        pure fetched.1.head?) db := by
    rw [Executor.fetchOptional, htake, run_bind_of_ok (run_lift_ok _ _)]
  rw [hmany] at h
  rw [hoptional]
  cases hall : fetch storage sql (argumentsOf arguments) none db with
  | error error db' =>
      rw [run_bind_of_error hall] at h
      cases h
  | ok fetched db' =>
      obtain ⟨all, written⟩ := fetched
      rw [run_bind_of_ok hall] at h
      cases h
      obtain ⟨rs', hsome, hlength, hiff⟩ :=
        fetch_some hbind hexec (outcome_eq_ok_iff.mpr ⟨db', hall⟩) 1
      obtain ⟨t, ht⟩ := outcome_eq_ok_iff.mp hsome
      rw [run_bind_of_ok ht, run_pure, outcome, Except.ok.injEq, head?_eq_iff hlength, hiff]
      simp

end

/-! ## both -/

/-- **When a limit changes nothing but how many rows come back**, in D1's
`fetch`, in the Durable Object's, and in the `fetch_optional` of each: when no
row comes back, or every column with a value in some row has one in a row that
does. -/
theorem fetch_limit_iff :
    (∀ (DB P : Type) (statements : D1Statements DB P) (statement : P) (s s' : DB)
      (result : JsValue) (rs : List Row),
      statements.raw statement s = (.resolves result, s') →
        outcome (D1.fetch statements statement none s) = .ok rs → ∀ n,
          (outcome (D1.fetch statements statement (some n) s) = .ok (rs.take n) ↔
            n = 0 ∨ KeepsTypes n (D1.rawRows result))) ∧
    (∀ (DB : Type) (storage : SqlStorage DB) (sql : String) (arguments : List Value)
      (parameters : List JsValue) (db : DB) (cursor : Cursor DB) (rs : List Row) (written : U64),
      toJsArray arguments = .ok parameters → storage.exec sql parameters db = .ok cursor →
        outcome (fetch storage sql arguments none db) = .ok (rs, written) → ∀ n,
          (outcome (fetch storage sql arguments (some n) db) = .ok (rs.take n, written) ↔
            n = 0 ∨ KeepsTypes n cursor.raw.rows)) ∧
    (∀ (DB P : Type) (db : D1Database DB P) (statements : D1Statements DB P) (query : Query)
      (statement : P) (s s' : DB) (result : JsValue) (rs : List Row),
      D1.Executor.prepare db query = .ok statement →
        statements.raw statement s = (.resolves result, s') →
          outcome (D1.Executor.fetchMany db statements query s) = .ok rs →
            (outcome (D1.Executor.fetchOptional db statements query s) = .ok rs.head? ↔
              KeepsTypes 1 (D1.rawRows result))) ∧
    ∀ (DB : Type) (storage : SqlStorage DB) (query : Query) (sql : String)
      (arguments : Option Arguments) (parameters : List JsValue) (db : DB) (cursor : Cursor DB)
      (rs : List Row),
      take query = .ok (sql, arguments) → toJsArray (argumentsOf arguments) = .ok parameters →
        storage.exec sql parameters db = .ok cursor →
          outcome (Executor.fetchMany storage query db) = .ok rs →
            (outcome (Executor.fetchOptional storage query db) = .ok rs.head? ↔
              KeepsTypes 1 cursor.raw.rows) := by
  refine ⟨?_, ?_, ?_, ?_⟩
  · intro DB P statements statement s s' result rs hraw hall n
    obtain ⟨rs', hsome, _, hiff⟩ := D1.fetch_some hraw hall n
    rw [hsome, Except.ok.injEq, hiff]
  · intro DB storage sql arguments parameters db cursor rs written hbind hexec hall n
    obtain ⟨rs', hsome, _, hiff⟩ := fetch_some hbind hexec hall n
    rw [hsome, ← hiff]
    simp
  · intro DB P db statements query statement s s' result rs hprepare hraw hall
    exact D1.fetchOptional_of_fetchMany hprepare hraw hall
  · intro DB storage query sql arguments parameters db cursor rs htake hbind hexec hall
    exact fetchOptional_of_fetchMany htake hbind hexec hall

/-! ## a column with a value in one row -/

/-- A result of one column and two rows. -/
def twoRows (first second : JsValue) : JsValue :=
  .array [.array [.string "v"], .array [first], .array [second]]

/-- A storage whose statements answer with it. -/
def twoRowsStorage (first second : JsValue) : SqlStorage Unit where
  exec _ _ _ := .ok
    { columnNames := [.string "v"]
      raw := .yields () (.array [first]) (.yields () (.array [second]) (.last () ()))
      rowsWritten := .zero false }

omit [JsDebug] in
/-- The value comes first: limited to it, the column keeps its type. -/
theorem fetch_limit_value_first :
    letI := JsDebug.describing
    (∃ rs, outcome (D1.fetch (.answering (twoRows (.string "a") .null)) () none ()) = .ok rs ∧
      outcome (D1.fetch (.answering (twoRows (.string "a") .null)) () (some 1) ()) =
        .ok (rs.take 1)) ∧
    ∃ rs written,
      outcome (fetch (twoRowsStorage (.string "a") .null) "SELECT v FROM t" [] none ()) =
        .ok (rs, written) ∧
      outcome (fetch (twoRowsStorage (.string "a") .null) "SELECT v FROM t" [] (some 1) ()) =
        .ok (rs.take 1, written) := by
  let := JsDebug.describing
  have hkeeps : KeepsTypes 1 [.array [.string "a"], .array [.null]] := by
    intro i ⟨row, hrow, cells, cell, hcells, hcell, hvalue⟩
    rcases List.mem_cons.mp hrow with hfirst | hrest
    · exact ⟨row, by simp [hfirst], cells, cell, hcells, hcell, hvalue⟩
    · rw [List.mem_singleton.mp hrest] at hcells
      cases hcells
      have hmem := List.mem_singleton.mp (List.mem_of_getElem? hcell)
      exact absurd (.inl hmem) hvalue
  have hraw : (D1Statements.answering (twoRows (.string "a") .null)).raw () () =
      (.resolves (twoRows (.string "a") .null), ()) := rfl
  constructor
  · exact ⟨_, rfl, (fetch_limit_iff.1 Unit Unit _ () () () _ _ hraw rfl 1).mpr (.inr hkeeps)⟩
  · exact ⟨_, _, rfl, (fetch_limit_iff.2.1 Unit (twoRowsStorage (.string "a") .null)
      "SELECT v FROM t" [] [] () _ _ _ rfl rfl rfl 1).mpr (.inr hkeeps)⟩

omit [JsDebug] in
/-- The value comes second: limited to the row before it, the column is typed
`NULL`. -/
theorem not_fetch_limit :
    letI := JsDebug.describing
    ¬∀ (result : JsValue) (rs : List Row) (n : ℕ),
      outcome (D1.fetch (.answering result) () none ()) = .ok rs →
        outcome (D1.fetch (.answering result) () (some n) ()) = .ok (rs.take n) := by
  let := JsDebug.describing
  intro h
  have hall : outcome (D1.fetch (.answering (twoRows .null (.string "a"))) () none ()) =
      .ok [⟨[⟨"v", 0, .text⟩], [.null]⟩, ⟨[⟨"v", 0, .text⟩], [.text "a"]⟩] := rfl
  have hfirst : outcome (D1.fetch (.answering (twoRows .null (.string "a"))) () (some 1) ()) =
      .ok [⟨[⟨"v", 0, .null⟩], [.null]⟩] := rfl
  have htake := h _ _ 1 hall
  rw [hfirst] at htake
  simp at htake

end SqlxCloudflare
