import SqlxCloudflare.D1.Js

/-!
# SqlxCloudflare.D1.Batch

`execute_batch` and `fetch_batch` of the D1 driver: one call of `batch()`,
which is atomic by itself, and then the conversion of what it answers -- by
when everything has been applied.

* `runBatch_of_prepared_error`, `runBatch_of_prepared` -- what comes before the
  call of `batch()`;
* `batch_cases` -- the two ways the call can go;
* `truthful_iff` -- a failure means nothing was applied exactly when every
  result can be converted, or there was nothing to apply.
-/

namespace SqlxCloudflare

open Fallible Ieee

/-- A connection to a D1 database. -/
structure D1Connection (DB P : Type) where
  db : D1Database DB P

/-- The database after every one of the statements, in order. -/
def D1Database.applyAll {DB P : Type} (db : D1Database DB P) (statements : List P) (s : DB) : DB :=
  statements.foldl (fun s statement => db.apply statement s) s

/-- The behaviour of `batch()`: it throws or rejects with nothing applied, or
it resolves with everything applied and one result for each statement. -/
structure D1Database.Batches {DB P : Type} (db : D1Database DB P) : Prop where
  throws : ∀ {statements s error s'}, db.batch statements s = (.throws error, s') → s' = s
  rejects : ∀ {statements s error s'}, db.batch statements s = (.rejects error, s') → s' = s
  resolves : ∀ {statements s results s'}, db.batch statements s = (.resolves results, s') →
    s' = db.applyAll statements s ∧
      ∃ answers, results = some answers ∧ answers.length = statements.length

namespace D1Connection

section

variable {DB P : Type} [JsDebug]

def runBatch (connection : D1Connection DB P) (queries : List Query) :
    EStateM Error DB (List (BatchResult Row)) := do
  let queries ← lift (queries.mapM takeOwned)
  if queries.isEmpty then
    return []
  else
    let statements ← lift (queries.mapM fun (sql, arguments) =>
      D1.prepare connection.db sql arguments.values)
    D1.batch connection.db statements

/-- Runs `queries` as one D1 batch, and returns what each did. -/
def executeBatch (connection : D1Connection DB P) (queries : List Query) :
    EStateM Error DB (List QueryResult) :=
  List.map (fun result => result.intoParts.2) <$> connection.runBatch queries

/-- Runs `queries` as one D1 batch, and streams each statement's rows along
with what it did: a failure is the one item. -/
def fetchBatch (connection : D1Connection DB P) (queries : List Query) (s : DB) :
    List (Except Error (BatchResult Row)) × DB :=
  match connection.runBatch queries s with
  | .ok results s => (results.map .ok, s)
  | .error error s => ([.error error], s)

/-! ## what a report should mean -/

/-- The statements of `queries`, prepared and bound. -/
def prepared (connection : D1Connection DB P) (queries : List Query) : Except Error (List P) := do
  let queries ← queries.mapM takeOwned
  queries.mapM fun (sql, arguments) => D1.prepare connection.db sql arguments.values

/-- Everything was applied, and there is one entry for each query, in order:
the conversion of D1's result for its statement. -/
def Applied (connection : D1Connection DB P) (queries : List Query) (s : DB)
    (entries : List (BatchResult Row)) (s' : DB) : Prop :=
  ∃ statements answers, connection.prepared queries = .ok statements ∧
    (queries ≠ [] → connection.db.batch statements s = (.resolves (some answers), s')) ∧
    List.Forall₂ (fun answer entry => D1.entry answer = .ok entry) answers entries ∧
    entries.length = queries.length ∧ s' = connection.db.applyAll statements s

/-- What the driver reports of a batch is what became of it: a failure left the
database as it was, and a success applied everything. -/
structure Truthful (connection : D1Connection DB P) (queries : List Query) (s : DB) : Prop where
  execute_error : ∀ error s', connection.executeBatch queries s = .error error s' → s' = s
  execute_ok : ∀ results s', connection.executeBatch queries s = .ok results s' →
    ∃ entries, results = entries.map BatchResult.result ∧
      connection.Applied queries s entries s'
  fetch_error : ∀ error s', connection.fetchBatch queries s = ([.error error], s') → s' = s
  fetch_ok : ∀ entries s', connection.fetchBatch queries s = (entries.map .ok, s') →
    connection.Applied queries s entries s'

/-- If `batch()` resolves, every result it answers with can be read; or else
the statements change nothing. -/
def ReadableOrUnchanged (connection : D1Connection DB P) (queries : List Query) (s : DB) :
    Prop :=
  queries ≠ [] → ∀ statements answers s', connection.prepared queries = .ok statements →
    connection.db.batch statements s = (.resolves (some answers), s') →
      (∀ answer ∈ answers, answer.Readable) ∨ connection.db.applyAll statements s = s

variable {connection : D1Connection DB P} {queries : List Query} {s s' : DB}

theorem executeBatch_eq_error_iff {error : Error} :
    connection.executeBatch queries s = .error error s' ↔
      connection.runBatch queries s = .error error s' := by
  cases hrun : connection.runBatch queries s with
  | error error' t =>
      rw [executeBatch, run_map_of_error hrun]
      simp
  | ok entries t => simp [executeBatch, run_map_of_ok hrun]

theorem executeBatch_eq_ok_iff {results : List QueryResult} :
    connection.executeBatch queries s = .ok results s' ↔
      ∃ entries, connection.runBatch queries s = .ok entries s' ∧
        results = entries.map BatchResult.result := by
  cases hrun : connection.runBatch queries s with
  | error error t => simp [executeBatch, run_map_of_error hrun]
  | ok entries t =>
      rw [executeBatch, run_map_of_ok hrun]
      constructor
      · intro h
        cases h
        exact ⟨entries, rfl, rfl⟩
      · intro ⟨entries', hentries, hresults⟩
        cases hentries
        rw [hresults]
        rfl

theorem fetchBatch_eq_error_iff {error : Error} :
    connection.fetchBatch queries s = ([.error error], s') ↔
      connection.runBatch queries s = .error error s' := by
  rw [fetchBatch]
  cases connection.runBatch queries s with
  | error error' t => simp
  | ok entries t => cases entries <;> simp

theorem fetchBatch_eq_ok_iff {entries : List (BatchResult Row)} :
    connection.fetchBatch queries s = (entries.map .ok, s') ↔
      connection.runBatch queries s = .ok entries s' := by
  rw [fetchBatch]
  cases connection.runBatch queries s with
  | error error t => cases entries <;> simp
  | ok entries' t =>
      have hmap : entries'.map (.ok : _ → Except Error _) = entries.map .ok ↔ entries' = entries :=
        (List.map_injective_iff.mpr fun _ _ => Except.ok.inj).eq_iff
      simp [hmap]

/-- Both calls report what `run_batch` does. -/
theorem truthful_iff_runBatch : connection.Truthful queries s ↔
    (∀ error s', connection.runBatch queries s = .error error s' → s' = s) ∧
      ∀ entries s', connection.runBatch queries s = .ok entries s' →
        connection.Applied queries s entries s' := by
  constructor
  · intro h
    constructor
    · intro error s' hrun
      exact h.execute_error error s' (executeBatch_eq_error_iff.mpr hrun)
    · intro entries s' hrun
      exact h.fetch_ok entries s' (fetchBatch_eq_ok_iff.mpr hrun)
  · intro ⟨herror, hok⟩
    constructor
    · intro error s' h
      exact herror error s' (executeBatch_eq_error_iff.mp h)
    · intro results s' h
      obtain ⟨entries, hrun, hresults⟩ := executeBatch_eq_ok_iff.mp h
      exact ⟨entries, hresults, hok entries s' hrun⟩
    · intro error s' h
      exact herror error s' (fetchBatch_eq_error_iff.mp h)
    · intro entries s' h
      exact hok entries s' (fetchBatch_eq_ok_iff.mp h)

/-! ## the stages -/

/-- A query that cannot be sent: nothing is run. -/
theorem runBatch_of_prepared_error {error : Error}
    (h : connection.prepared queries = .error error) (s : DB) :
    connection.runBatch queries s = .error error s := by
  rcases bind_eq_error_iff.mp h with htake | ⟨taken, htake, hprepare⟩
  · rw [runBatch, htake, run_bind_of_error (run_lift_error _ _)]
  · have hne : taken.isEmpty = false := by
      cases taken with
      | nil => cases hprepare
      | cons first rest => rfl
    rw [runBatch, htake, run_bind_of_ok (run_lift_ok _ _)]
    simp only [hne, hprepare]
    exact run_bind_of_error (run_lift_error _ _)

/-- The statements are handed to `batch()` once all of them are prepared. -/
theorem runBatch_of_prepared {statements : List P}
    (h : connection.prepared queries = .ok statements) (hne : queries ≠ []) (s : DB) :
    connection.runBatch queries s = D1.batch connection.db statements s := by
  obtain ⟨taken, htake, hprepare⟩ := bind_eq_ok_iff.mp h
  have hisEmpty : taken.isEmpty = false := by
    have hlength := length_of_mapM_eq_ok htake
    cases taken with
    | nil => exact absurd (List.length_eq_zero_iff.mp hlength.symm) hne
    | cons first rest => rfl
  rw [runBatch, htake, run_bind_of_ok (run_lift_ok _ _)]
  simp only [hisEmpty, hprepare]
  exact run_bind_of_ok (run_lift_ok _ _)

/-- As many statements as queries. -/
theorem length_prepared {statements : List P} (h : connection.prepared queries = .ok statements) :
    statements.length = queries.length := by
  obtain ⟨taken, htake, hprepare⟩ := bind_eq_ok_iff.mp h
  rw [length_of_mapM_eq_ok hprepare, length_of_mapM_eq_ok htake]

/-- `batch()` resolves: the statements have been applied, and the conversion
of their results decides. -/
theorem batch_of_resolves {db : D1Database DB P} {statements : List P} {answers : List D1Result}
    (h : db.batch statements s = (.resolves (some answers), s')) :
    D1.batch db statements s = lift (answers.mapM D1.entry) s' := by
  have hsettle : D1.settle db statements s = .ok (some answers) s' := by rw [D1.settle, h]
  rw [D1.batch, run_bind_of_ok hsettle, D1.array, run_bind_of_ok (run_lift_ok _ _)]

/-- A failed call of `batch()`, and one whose results are converted. -/
theorem batch_cases {db : D1Database DB P} (hdb : db.Batches) (statements : List P) (s : DB) :
    (∃ error, D1.batch db statements s = .error error s ∧
        ∀ answers s', db.batch statements s ≠ (.resolves (some answers), s')) ∨
      ∃ answers, db.batch statements s =
          (.resolves (some answers), db.applyAll statements s) ∧
        answers.length = statements.length := by
  rcases hcall : db.batch statements s with ⟨answer, s'⟩
  cases answer with
  | throws error =>
      obtain rfl := hdb.throws hcall
      have hsettle : D1.settle db statements s' = .error (databaseError error) s' := by
        rw [D1.settle, hcall]
      exact .inl ⟨_, run_bind_of_error hsettle, by simp⟩
  | rejects error =>
      obtain rfl := hdb.rejects hcall
      have hsettle : D1.settle db statements s' = .error (databaseError error) s' := by
        rw [D1.settle, hcall]
      exact .inl ⟨_, run_bind_of_error hsettle, by simp⟩
  | resolves results =>
      obtain ⟨rfl, answers, rfl, hlength⟩ := hdb.resolves hcall
      exact .inr ⟨answers, rfl, hlength⟩

/-! ## the batch -/

/-- The results that can be read are reported as applied. -/
theorem applied_of_resolves {statements : List P} {answers : List D1Result}
    {entries : List (BatchResult Row)} (hprepared : connection.prepared queries = .ok statements)
    (hcall : connection.db.batch statements s =
      (.resolves (some answers), connection.db.applyAll statements s))
    (hlength : answers.length = statements.length)
    (hentries : answers.mapM D1.entry = .ok entries) :
    connection.Applied queries s entries (connection.db.applyAll statements s) := by
  refine ⟨statements, answers, hprepared, fun _ => hcall, mapM_eq_ok_iff.mp hentries, ?_, rfl⟩
  rw [length_of_mapM_eq_ok hentries, hlength, length_prepared hprepared]

/-- Once everything has been applied, the report is the truth exactly when the
conversion succeeds, or there was nothing to undo. -/
theorem report_iff_of_resolves {statements : List P} {answers : List D1Result}
    (hprepared : connection.prepared queries = .ok statements)
    (hcall : connection.db.batch statements s =
      (.resolves (some answers), connection.db.applyAll statements s))
    (hlength : answers.length = statements.length) :
    ((∀ error s', D1.batch connection.db statements s = .error error s' → s' = s) ∧
        ∀ entries s', D1.batch connection.db statements s = .ok entries s' →
          connection.Applied queries s entries s') ↔
      (∀ answer ∈ answers, answer.Readable) ∨ connection.db.applyAll statements s = s := by
  have hreadable : (∀ answer ∈ answers, answer.Readable) ↔
      ∃ entries, answers.mapM D1.entry = .ok entries := by
    simp only [exists_mapM_eq_ok_iff, D1.exists_entry_iff]
  rw [batch_of_resolves hcall, hreadable]
  cases hentries : answers.mapM D1.entry with
  | error error =>
      constructor
      · exact fun h => .inr (h.1 error _ rfl)
      · rintro (⟨entries, h⟩ | hsame)
        · cases h
        · refine ⟨fun error' s' h => ?_, fun entries s' h => by cases h⟩
          cases h
          exact hsame
  | ok entries =>
      refine iff_of_true ⟨fun error s' h => (by cases h), fun entries' s' h => ?_⟩
        (.inl ⟨entries, rfl⟩)
      cases h
      exact applied_of_resolves hprepared hcall hlength hentries

/-- **A batch's report is the truth** exactly when every result D1 answers with
can be read, or the statements changed nothing anyway: whatever fails before
the call of `batch()` or in it leaves the database as it was, and what fails
after it does not. -/
theorem truthful_iff (connection : D1Connection DB P) (hdb : connection.db.Batches)
    (queries : List Query) (s : DB) :
    connection.Truthful queries s ↔ connection.ReadableOrUnchanged queries s := by
  rw [truthful_iff_runBatch]
  by_cases hne : queries = []
  · -- nothing to run
    subst hne
    refine iff_of_true ⟨fun error s' h => (by cases h), fun entries s' h => ?_⟩
      fun h => absurd rfl h
    cases h
    exact ⟨[], [], rfl, fun h => absurd rfl h, .nil, rfl, rfl⟩
  cases hprepared : connection.prepared queries with
  | error error =>
      -- before the call
      rw [runBatch_of_prepared_error hprepared]
      refine iff_of_true ⟨fun error' s' h => ?_, fun entries s' h => by cases h⟩ ?_
      · cases h
        rfl
      · intro _ statements answers s' h
        rw [hprepared] at h
        cases h
  | ok statements =>
      rw [runBatch_of_prepared hprepared hne]
      rcases batch_cases hdb statements s with ⟨error, hbatch, hnot⟩ | ⟨answers, hcall, hlength⟩
      · -- in the call
        rw [hbatch]
        refine iff_of_true ⟨fun error' s' h => ?_, fun entries s' h => by cases h⟩ ?_
        · cases h
          rfl
        · intro _ statements' answers s' h hcall
          rw [hprepared] at h
          cases h
          exact absurd hcall (hnot answers s')
      · -- after it
        rw [report_iff_of_resolves hprepared hcall hlength]
        constructor
        · intro h _ statements' answers' s' h' hcall'
          rw [hprepared] at h'
          cases h'
          rw [hcall] at hcall'
          cases hcall'
          exact h
        · exact fun h => h hne statements answers _ hprepared hcall

end

end D1Connection

/-! ## on a database that counts its rows -/

/-- The result of inserting a first row, which returns it as the column `id`. -/
def D1Result.inserted (id : JsValue) : D1Result where
  results := .ok (some [⟨["id"], fun _ => .ok id⟩])
  metadata := .ok ⟨["changes", "last_row_id"], fun _ => .ok (.number (Binary.ofInt binary64 1))⟩

/-- A database of one table, of which the number of rows is kept: every
statement inserts one and returns its `id`. -/
def D1Database.inserting (id : JsValue) : D1Database ℕ String where
  prepare := .ok
  bind sql _ := .ok sql
  apply _ count := count + 1
  batch statements count :=
    (.resolves (some (statements.map fun _ => .inserted id)), count + statements.length)

theorem D1Database.applyAll_inserting (id : JsValue) (statements : List String) (count : ℕ) :
    (inserting id).applyAll statements count = count + statements.length := by
  induction statements generalizing count with
  | nil => rfl
  | cons statement statements ih =>
      have hrest : (inserting id).applyAll (statement :: statements) count =
          (inserting id).applyAll statements (count + 1) := rfl
      rw [hrest, ih, List.length_cons]
      omega

theorem D1Database.batches_inserting (id : JsValue) : (inserting id).Batches where
  throws h := by cases h
  rejects h := by cases h
  resolves h := by
    cases h
    exact ⟨(applyAll_inserting id _ _).symm, _, rfl, List.length_map _⟩

namespace D1Connection

/-- An insert that returns its id as text. -/
theorem truthful_insert :
    letI := JsDebug.describing
    (⟨.inserting (.string "1")⟩ : D1Connection ℕ String).Truthful
      [⟨"INSERT INTO t (id) VALUES ('1') RETURNING id", .ok none⟩] 0 := by
  let := JsDebug.describing
  refine (truthful_iff _ (D1Database.batches_inserting _) _ _).mpr ?_
  intro _ statements answers s' hprepared hcall
  refine .inl fun answer hanswer => ?_
  cases hcall
  obtain ⟨_, _, rfl⟩ := List.mem_map.mp hanswer
  refine ⟨⟨_, rfl, fun first rest heq object hobject name _ => ?_⟩, _, rfl⟩
  cases heq
  obtain rfl := List.mem_singleton.mp hobject
  exact ⟨_, rfl, trivial⟩

/-- An insert that returns a `BigInt`: the row is there, and the batch is
reported as failed. -/
theorem not_truthful :
    letI := JsDebug.describing
    ¬∀ db : D1Database ℕ String, db.Batches →
      ∀ queries s, (⟨db⟩ : D1Connection ℕ String).Truthful queries s := by
  let := JsDebug.describing
  intro h
  have htruthful := h (.inserting (.other "BigInt(1)")) (D1Database.batches_inserting _)
    [⟨"INSERT INTO t (id) VALUES (1) RETURNING id", .ok none⟩] 0
  have hunchanged : 1 = 0 := htruthful.execute_error _ 1 rfl
  cases hunchanged

end D1Connection

end SqlxCloudflare
