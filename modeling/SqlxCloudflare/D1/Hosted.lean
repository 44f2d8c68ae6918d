import SqlxCloudflare.D1.Table
import SqlxCloudflare.Drivers.Engine

/-!
# SqlxCloudflare.D1.Hosted

An engine behind D1.  `D1Connection.Hosts` says what D1 answers with for each
of the engine's effects -- arrays from `raw()`, metadata from `run()`, and
both, with the rows as objects, from `batch()` -- and `session_hosted` that
the driver then tells exactly what the engine does.
-/

namespace SqlxCloudflare

open Executor Fallible

variable {S DB P : Type}

/-! ## what D1 answers with -/

/-- A row's values, as D1 delivers them. -/
def D1.cellsOf (row : List Value) : List JsValue :=
  row.map (delivered fun bytes => .array (bytes.map .ofByte))

/-- The metadata counts the rows that were changed. -/
def D1Result.Counts (result : D1Result) (e : Effect S) : Prop :=
  ∃ object, result.metadata = .ok object ∧
    object.get "changes" = .ok (.number (I64.asF64 e.affected))

/-- A batch's result for a statement. -/
structure D1Result.Delivers (result : D1Result) (e : Effect S) : Prop where
  results : result.results =
    .ok (some ((e.rows.map D1.cellsOf).map (JsObject.ofRow e.names)))
  counts : result.Counts e

/-- D1 has the engine's database, of which `view` is what there is to see, and
answers with what its statements come to. -/
structure D1Connection.Hosts (connection : D1Connection DB P) (statements : D1Statements DB P)
    (engine : Engine S) where
  view : DB → S
  /-- Preparing a statement compiles nothing, and what a query sends can be
  bound. -/
  prepares : ∀ (query : Query) parameters, query.sent = some parameters →
    ∃ p, connection.db.Prepares query.sql parameters p
  raw : ∀ query p, connection.db.PreparesQuery query p → ∀ s,
    (∀ e, engine.query query (view s) = some e →
      ∃ s', statements.raw p s = (.resolves (D1.rawOf e.names e.rows), s') ∧ view s' = e.final) ∧
    (engine.query query (view s) = none →
      ∃ answer s', statements.raw p s = (answer, s') ∧ D1.Failed answer ∧ view s' = view s)
  run : ∀ query p, connection.db.PreparesQuery query p → ∀ s,
    (∀ e, engine.query query (view s) = some e →
      ∃ result s', statements.run p s = (.resolves result, s') ∧ result.Counts e ∧
        view s' = e.final) ∧
    (engine.query query (view s) = none →
      ∃ answer s', statements.run p s = (answer, s') ∧ D1.Failed answer ∧ view s' = view s)
  batch : ∀ queries ps, queries ≠ [] →
    List.Forall₂ connection.db.PreparesQuery queries ps → ∀ s,
    (∀ es final, engine.runAll queries (view s) = some (es, final) →
      ∃ results s', connection.db.batch ps s = (.resolves (some results), s') ∧
        List.Forall₂ D1Result.Delivers results es ∧ view s' = final) ∧
    (engine.runAll queries (view s) = none →
      ∃ error s', (connection.db.batch ps s = (.throws error, s') ∨
        connection.db.batch ps s = (.rejects error, s')) ∧ view s' = view s)

section

variable [JsDebug]

/-! ## what the driver makes of it -/

omit [JsDebug] in
/-- The same under a name, is the same found. -/
theorem under_of_sameUnder {a b : Row} {name : String} (h : D1.SameUnder a b name) :
    a.under name = b.under name := by
  rcases h with ⟨value, type, ha, hb, htype, htype'⟩ | ⟨ha, hb⟩
  · have hunder : ∀ row : Row, row.tryGetRaw (.name name) = .ok value →
        (row.tryColumn (.name name)).map Column.typeInfo = .ok type →
          row.under name = .ok (value, type) := by
      intro row hvalue hcolumn
      cases hfound : row.tryColumn (.name name) with
      | error error =>
          rw [hfound] at hcolumn
          cases hcolumn
      | ok column =>
          rw [hfound] at hcolumn
          cases hcolumn
          rw [Row.under, hvalue, ok_bind, hfound]
          rfl
    rw [hunder a ha htype, hunder b hb htype']
  · rw [Row.under, Row.under, ha, hb]
    rfl

namespace D1

theorem mapM_fromJs_cellsOf (row : List Value) :
    (cellsOf row).mapM fromJs = .ok (row.map Value.crossed) := by
  rw [← Effect.mapM_fromJs_delivered, cellsOf, List.mapM_map, List.mapM_map]
  exact congrArg row.mapM (funext fromJs_delivered)

/-- `raw()`'s rows are the engine's. -/
theorem readRaw_rawOf (e : Effect S) (limit : Option ℕ) :
    readRaw limit (rawOf e.names e.rows) = .ok (e.table limit) := by
  have hnames : (array (JsValue.array (e.names.map .string)).asArray >>= columnNames) =
      .ok e.names := stringNames_map_string _ e.names
  rw [rawOf, readRaw_cons, hnames, ok_bind, SqlxCloudflare.readLimited_rowOf, e.readLimited_rowOf]

/-- The metadata's count is the engine's. -/
theorem queryResult_of_counts {result : D1Result} {e : Effect S} (h : result.Counts e) :
    ∃ told, queryResult result = .ok told ∧ told.rowsAffected.val = e.affected.val := by
  obtain ⟨object, hmetadata, hchanges⟩ := h
  have hnumber : number object "changes" = some (I64.asF64 e.affected) := by
    rw [number, hchanges]
    rfl
  have hresult : queryResult result =
      .ok ⟨asU64 (I64.asF64 e.affected), (number object "last_row_id").map wholeNumberI64⟩ := by
    rw [queryResult, hmetadata, Except.mapError, ok_bind, hnumber]
    rfl
  refine ⟨_, hresult, ?_⟩
  have hhi := e.affected.le_hi
  exact val_asU64 (toRat?_asF64 e.counted.2) e.counted.1 (by omega)

/-- The rows of a batch's statement are the engine's, by name. -/
theorem rows_of_delivers {result : D1Result} {e : Effect S} (h : result.Delivers e) :
    ∃ rs, rows result = .ok rs ∧ rs.map Row.under = (e.table none).map Row.under := by
  have hlengths : ∀ row ∈ e.rows.map cellsOf, row.length = e.names.length := by
    intro row hrow
    obtain ⟨row', hrow', rfl⟩ := List.mem_map.mp hrow
    rw [cellsOf, List.length_map]
    exact e.rectangular row' hrow'
  have hvalues : (e.rows.map cellsOf).mapM (fun row => row.mapM fromJs) = .ok (e.values none) := by
    rw [List.mapM_map, mapM_eq_ok_iff, Effect.values, List.forall₂_map_right_iff, limited,
      List.forall₂_same]
    exact fun row _ => mapM_fromJs_cellsOf row
  obtain ⟨keys, hkeys, _, hrows⟩ := rows_of_objects hlengths hvalues h.results
  have hlengths' : ∀ row ∈ (e.values none).map (reordered e.names keys),
      row.length = keys.length := by
    intro row hrow
    obtain ⟨row', _, rfl⟩ := List.mem_map.mp hrow
    rw [reordered, List.length_map]
  refine ⟨_, hrows.trans (Row.fromResult_eq_ok_iff.mpr ⟨hlengths', rfl⟩), ?_⟩
  rw [Effect.table, List.map_map, List.map_map, List.map_map]
  refine List.map_congr_left fun row hrow => funext fun name => (under_of_sameUnder ?_).symm
  exact sameUnder_reordered (fun _ => Effect.length_of_mem_values) hkeys hrow name

theorem entry_of_delivers {result : D1Result} {e : Effect S} (h : result.Delivers e) :
    ∃ told, entry result = .ok told ∧ told.tells = e.entry := by
  obtain ⟨rs, hrows, hunder⟩ := rows_of_delivers h
  obtain ⟨told, htold, haffected⟩ := queryResult_of_counts h.counts
  refine ⟨⟨rs, told⟩, by rw [entry, hrows, ok_bind, htold]; rfl, ?_⟩
  rw [BatchResult.tells, Effect.entry, hunder, haffected]

end D1

/-! ## an operation -/

def D1.Reply.tells : D1.Reply → Told
  | .answer result => .ofResult Answer.tells result
  | .results result => .ofResult .ofResults result
  | .items list => .ofItems list
  | .statement result =>
    .ofResult (fun statement => .answered (statement.map D1Statement.sql)) result

/-- A statement whose parameters can be sent is prepared. -/
theorem prepare_of_prepares {db : D1Database DB P} {sql : String} {arguments : List Value}
    {parameters : List JsValue} {p : P} (hbind : toJsArray arguments = .ok parameters)
    (h : db.Prepares sql parameters p) : D1.prepare db sql arguments = .ok p := by
  have hlength := length_of_mapM_eq_ok hbind
  cases h with
  | unbound _ h =>
      obtain rfl := List.length_eq_zero_iff.mp hlength.symm
      rw [D1.prepare, h]
      rfl
  | bound _ statement _ hne h hbound =>
      cases arguments with
      | nil => exact absurd (List.length_eq_zero_iff.mp hlength) hne
      | cons value values =>
          rw [D1.prepare, h, Except.mapError, ok_bind, hbind, ok_bind, hbound]
          rfl

namespace D1Connection

variable {connection : D1Connection DB P} {statements : D1Statements DB P} {engine : Engine S}

theorem exists_prepare (hosts : connection.Hosts statements engine) {query : Query}
    {parameters : List JsValue} (hsent : query.sent = some parameters) :
    ∃ p, D1.Executor.prepare connection.db query = .ok p := by
  obtain ⟨p, hp⟩ := hosts.prepares query parameters hsent
  rcases sent_cases query with ⟨_, hnone, _⟩ | ⟨arguments, hargs, ⟨_, hnone, _⟩ | ⟨_, hsome, hbind⟩⟩
  · rw [hnone] at hsent
    cases hsent
  · rw [hnone] at hsent
    cases hsent
  · rw [hsome] at hsent
    cases hsent
    refine ⟨p, ?_⟩
    rw [D1.Executor.prepare, hargs, Except.mapError, ok_bind, prepare_of_prepares hbind hp]

theorem exists_prepared (hosts : connection.Hosts statements engine) {queries : List Query}
    (hsent : ∀ query ∈ queries, ∃ parameters, query.sent = some parameters) :
    ∃ ps, connection.prepared queries = .ok ps := by
  have htakes : ∀ query ∈ queries, ∃ statement, takeOwned query = .ok statement := by
    intro query hquery
    rcases takeOwned_cases query with hok | ⟨source, hargs, _⟩
    · exact hok
    · obtain ⟨parameters, hsome⟩ := hsent query hquery
      rw [Query.sent, hargs] at hsome
      cases hsome
  obtain ⟨taken, htaken⟩ := exists_mapM_eq_ok_iff.mpr htakes
  have hprepares : ∀ statement ∈ taken,
      ∃ p, D1.prepare connection.db statement.1 statement.2.values = .ok p := by
    intro statement hstatement
    obtain ⟨query, hquery, htake⟩ := exists_mem_of_mapM_eq_ok htaken hstatement
    obtain ⟨parameters, hsome⟩ := hsent query hquery
    obtain ⟨p, hp⟩ := hosts.prepares query parameters hsome
    obtain ⟨hsql, hsends⟩ := sent_of_takeOwned htake
    rw [← hsql] at hp
    refine ⟨p, prepare_of_prepares ?_ hp⟩
    rw [hsends] at hsome
    cases hbind : toJsArray statement.2.values with
    | error error =>
        rw [hbind] at hsome
        cases hsome
    | ok parameters' =>
        rw [hbind] at hsome
        cases hsome
        rfl
  obtain ⟨ps, hps⟩ := exists_mapM_eq_ok_iff.mpr hprepares
  exact ⟨ps, bind_eq_ok_iff.mpr ⟨taken, htaken, hps⟩⟩

variable {query : Query} {p : P} {s : DB}

/-- What `raw()` is read as. -/
theorem fetch_hosted (hosts : connection.Hosts statements engine)
    (hprepares : connection.db.PreparesQuery query p) (limit : Option ℕ) :
    (∀ e, engine.query query (hosts.view s) = some e →
      ∃ s', D1.fetch statements p limit s = .ok (e.table limit) s' ∧ hosts.view s' = e.final) ∧
    (engine.query query (hosts.view s) = none →
      ∃ error s', D1.fetch statements p limit s = .error error s' ∧
        hosts.view s' = hosts.view s) := by
  refine ⟨fun e he => ?_, fun hnone => ?_⟩
  · obtain ⟨s', hraw, hview⟩ := (hosts.raw query p hprepares s).1 e he
    refine ⟨s', ?_, hview⟩
    rw [D1.fetch_of_resolves hraw, D1.readRaw_rawOf, run_lift_ok]
  · obtain ⟨answer, s', hraw, hfailed, hview⟩ := (hosts.raw query p hprepares s).2 hnone
    obtain ⟨error, herror⟩ := D1.await_of_failed hraw hfailed
    exact ⟨error, s', run_bind_of_error herror, hview⟩

/-- What `run()` is read as. -/
theorem run_hosted (hosts : connection.Hosts statements engine)
    (hprepares : connection.db.PreparesQuery query p) :
    (∀ e, engine.query query (hosts.view s) = some e →
      ∃ told s', D1.run statements p s = .ok told s' ∧
        told.rowsAffected.val = e.affected.val ∧ hosts.view s' = e.final) ∧
    (engine.query query (hosts.view s) = none →
      ∃ error s', D1.run statements p s = .error error s' ∧ hosts.view s' = hosts.view s) := by
  refine ⟨fun e he => ?_, fun hnone => ?_⟩
  · obtain ⟨result, s', hrun, hcounts, hview⟩ := (hosts.run query p hprepares s).1 e he
    obtain ⟨told, htold, haffected⟩ := D1.queryResult_of_counts hcounts
    refine ⟨told, s', ?_, haffected, hview⟩
    rw [D1.run_of_resolves hrun, htold, run_lift_ok]
  · obtain ⟨answer, s', hrun, hfailed, hview⟩ := (hosts.run query p hprepares s).2 hnone
    obtain ⟨error, herror⟩ := D1.await_of_failed hrun hfailed
    exact ⟨error, s', run_bind_of_error herror, hview⟩

/-- The call of a prepared statement tells what the engine does. -/
theorem callPrepared_hosted (hosts : connection.Hosts statements engine)
    (hprepares : connection.db.PreparesQuery query p) (method : Method) (s : DB) :
    (Told.ofResult Answer.tells (outcome (D1.Executor.callPrepared statements method p s)),
        hosts.view (stateOf (D1.Executor.callPrepared statements method p s))) =
      engine.perform (.call method query) (hosts.view s) := by
  have hrun := run_hosted hosts hprepares (s := s)
  have hfetch := fun limit => fetch_hosted hosts hprepares (s := s) limit
  rw [Engine.perform]
  cases hquery : engine.query query (hosts.view s) with
  | some e =>
      cases method with
      | execute | executeMany =>
          obtain ⟨told, s', htold, haffected, hview⟩ := hrun.1 e hquery
          simp only [D1.Executor.callPrepared, run_map_of_ok htold, outcome, stateOf,
            Told.ofResult, Answer.tells, List.map_cons, List.map_nil, haffected, hview,
            Effect.tells]
      | fetchMany =>
          obtain ⟨s', hrows, hview⟩ := (hfetch none).1 e hquery
          simp only [D1.Executor.callPrepared, run_map_of_ok hrows, outcome, stateOf,
            Told.ofResult, Answer.tells, hview, Effect.tells]
      | fetchOptional =>
          obtain ⟨s', hrows, hview⟩ := (hfetch (some 1)).1 e hquery
          simp only [D1.Executor.callPrepared, run_map_of_ok hrows, outcome, stateOf,
            Told.ofResult, Answer.tells, hview, Effect.tells, Effect.toList_head?_table]
  | none =>
      cases method with
      | execute | executeMany =>
          obtain ⟨error, s', herror, hview⟩ := hrun.2 hquery
          simp only [D1.Executor.callPrepared, run_map_of_error herror, outcome, stateOf,
            Told.ofResult, hview]
      | fetchMany =>
          obtain ⟨error, s', herror, hview⟩ := (hfetch none).2 hquery
          simp only [D1.Executor.callPrepared, run_map_of_error herror, outcome, stateOf,
            Told.ofResult, hview]
      | fetchOptional =>
          obtain ⟨error, s', herror, hview⟩ := (hfetch (some 1)).2 hquery
          simp only [D1.Executor.callPrepared, run_map_of_error herror, outcome, stateOf,
            Told.ofResult, hview]

/-- The entries of a batch are the engine's. -/
theorem exists_entries {S : Type} {results : List D1Result} {es : List (Effect S)}
    (h : List.Forall₂ D1Result.Delivers results es) :
    ∃ entries, results.mapM D1.entry = .ok entries ∧
      entries.map BatchResult.tells = es.map Effect.entry := by
  induction h with
  | nil => exact ⟨[], rfl, rfl⟩
  | cons hdelivers _ ih =>
      obtain ⟨entry, hentry, htells⟩ := D1.entry_of_delivers hdelivers
      obtain ⟨entries, hentries, hrest⟩ := ih
      refine ⟨entry :: entries, ?_, by rw [List.map_cons, List.map_cons, htells, hrest]⟩
      rw [List.mapM_cons, hentry, ok_bind, hentries]
      rfl

/-- A batch does all of the engine's queries, or none. -/
theorem runBatch_hosted (hosts : connection.Hosts statements engine) (queries : List Query)
    (s : DB) :
    (∀ es final, engine.runAll queries (hosts.view s) = some (es, final) →
      ∃ entries s', connection.runBatch queries s = .ok entries s' ∧
        entries.map BatchResult.tells = es.map Effect.entry ∧ hosts.view s' = final) ∧
    (engine.runAll queries (hosts.view s) = none →
      ∃ error s', connection.runBatch queries s = .error error s' ∧
        hosts.view s' = hosts.view s) := by
  cases hprepared : connection.prepared queries with
  | error error =>
      have hnone : engine.runAll queries (hosts.view s) = none := by
        by_contra hsome
        have hsent : ∀ query ∈ queries, ∃ parameters, query.sent = some parameters := by
          intro query hquery
          cases hquery' : query.sent with
          | some parameters => exact ⟨parameters, rfl⟩
          | none => exact absurd (Engine.runAll_of_not_sent hquery hquery' _) hsome
        obtain ⟨ps, hps⟩ := exists_prepared hosts hsent
        rw [hprepared] at hps
        cases hps
      refine ⟨fun es final hsome => ?_, fun _ => ?_⟩
      · rw [hnone] at hsome
        cases hsome
      · exact ⟨error, s, runBatch_of_prepared_error hprepared s, rfl⟩
  | ok ps =>
      by_cases hne : queries = []
      · subst hne
        refine ⟨fun es final hsome => ?_, fun hnone => by cases hnone⟩
        cases hsome
        exact ⟨[], s, rfl, rfl, rfl⟩
      rw [runBatch_of_prepared hprepared hne]
      obtain ⟨hsome, hnone⟩ := hosts.batch queries ps hne (preparesQuery_of_prepared hprepared) s
      refine ⟨fun es final hes => ?_, fun hfails => ?_⟩
      · obtain ⟨results, s', hbatch, hdelivers, hview⟩ := hsome es final hes
        obtain ⟨entries, hentries, htells⟩ := exists_entries hdelivers
        refine ⟨entries, s', ?_, htells, hview⟩
        rw [batch_of_resolves hbatch, hentries, run_lift_ok]
      · obtain ⟨error, s', hbatch, hview⟩ := hnone hfails
        have hsettle : D1.settle connection.db ps s = .error (databaseError error) s' := by
          rcases hbatch with hbatch | hbatch <;> rw [D1.settle, hbatch]
        exact ⟨databaseError error, s', run_bind_of_error hsettle, hview⟩

/-- **D1's driver tells what the engine does**, operation by operation. -/
theorem perform_hosted (hosts : connection.Hosts statements engine) (op : D1.Operation) (s : DB) :
    ((connection.perform statements op s).1.tells,
        hosts.view (connection.perform statements op s).2) =
      engine.perform op (hosts.view s) := by
  cases op with
  | call method query =>
      simp only [perform, D1.Executor.call_eq, D1.Reply.tells]
      cases hprepare : D1.Executor.prepare connection.db query with
      | ok p =>
          rw [run_bind_of_ok (run_lift_ok _ _)]
          exact callPrepared_hosted hosts (preparesQuery_of_prepare hprepare) method s
      | error error =>
          have hnone : query.sent = none := by
            cases hsent : query.sent with
            | none => rfl
            | some parameters =>
                obtain ⟨p, hp⟩ := exists_prepare hosts hsent
                rw [hprepare] at hp
                cases hp
          rw [run_bind_of_error (run_lift_error _ _), Engine.perform,
            Engine.query_of_not_sent hnone]
          rfl
  | executeBatch queries =>
      have hbatch := runBatch_hosted hosts queries s
      simp only [perform, executeBatch, D1.Reply.tells, Engine.perform]
      cases hrun : engine.runAll queries (hosts.view s) with
      | some ran =>
          obtain ⟨entries, s', hentries, htells, hview⟩ := hbatch.1 ran.1 ran.2 hrun
          simp only [run_map_of_ok hentries, outcome, stateOf, Told.ofResult,
            ofResults_of_tells htells, hview]
      | none =>
          obtain ⟨error, s', herror, hview⟩ := hbatch.2 hrun
          simp only [run_map_of_error herror, outcome, stateOf, Told.ofResult, hview]
  | fetchBatch queries =>
      have hbatch := runBatch_hosted hosts queries s
      simp only [perform, fetchBatch, D1.Reply.tells, Engine.perform]
      cases hrun : engine.runAll queries (hosts.view s) with
      | some ran =>
          obtain ⟨entries, s', hentries, htells, hview⟩ := hbatch.1 ran.1 ran.2 hrun
          simp only [hentries, ofItems_of_tells htells, hview]
      | none =>
          obtain ⟨error, s', herror, hview⟩ := hbatch.2 hrun
          simp only [herror, hview]
          rfl
  | formality formality => cases formality <;> rfl

theorem session_hosted (hosts : connection.Hosts statements engine) (ops : List D1.Operation)
    (s : DB) :
    ((Server.session (connection.perform statements) ops s).1.map D1.Reply.tells,
        hosts.view (Server.session (connection.perform statements) ops s).2) =
      Server.session engine.perform ops (hosts.view s) :=
  Server.session_view (perform_hosted hosts) ops s

end D1Connection

end

/-! ## an engine as D1 -/

/-- What a statement that cannot be run is rejected with. -/
def notRun : JsValue := .error "D1_ERROR" (.error "SQLITE_ERROR" .undefined)

/-- The result of a statement, with its rows as objects. -/
def Effect.result (e : Effect S) : D1Result where
  results := .ok (some ((e.rows.map D1.cellsOf).map (JsObject.ofRow e.names)))
  metadata := .ok (.ofProperties [("changes", .number (I64.asF64 e.affected))])

theorem Effect.delivers_result (e : Effect S) : e.result.Delivers e where
  results := rfl
  counts := ⟨_, rfl, rfl⟩

namespace Engine

/-- Statements with their parameters, one after another. -/
def runEach (engine : Engine S) : List (String × List JsValue) → S → Option (List (Effect S) × S)
  | [], s => some ([], s)
  | p :: ps, s => do
    let e ← engine.run p.1 p.2 s
    let (es, final) ← engine.runEach ps e.final
    return (e :: es, final)

/-- The engine as a D1 database; a statement is its SQL and its parameters. -/
def database (engine : Engine S) : D1Database S (String × List JsValue) where
  prepare sql := .ok (sql, [])
  bind p parameters := .ok (p.1, parameters)
  apply p s := (engine.run p.1 p.2 s).elim s Effect.final
  batch ps s :=
    -- D1 rejects a batch of no statements.
    if ps.isEmpty then (.rejects notRun, s)
    else
      match engine.runEach ps s with
      | some (es, final) => (.resolves (some (es.map Effect.result)), final)
      | none => (.rejects notRun, s)

def methods (engine : Engine S) : D1Statements S (String × List JsValue) where
  raw p s :=
    match engine.run p.1 p.2 s with
    | some e => (.resolves (D1.rawOf e.names e.rows), e.final)
    | none => (.rejects notRun, s)
  run p s :=
    match engine.run p.1 p.2 s with
    | some e => (.resolves e.result, e.final)
    | none => (.rejects notRun, s)

variable {engine : Engine S}

theorem run_of_preparesQuery {query : Query} {p : String × List JsValue}
    (h : engine.database.PreparesQuery query p) (s : S) :
    engine.query query s = engine.run p.1 p.2 s := by
  obtain ⟨parameters, hsent, hprepares⟩ := h
  rw [Engine.query, hsent, Option.bind_some]
  cases hprepares with
  | unbound _ hprepare =>
      cases hprepare
      rfl
  | bound _ statement _ _ hprepare hbind =>
      cases hprepare
      cases hbind
      rfl

theorem runEach_of_preparesQuery {queries : List Query} {ps : List (String × List JsValue)}
    (h : List.Forall₂ engine.database.PreparesQuery queries ps) (s : S) :
    engine.runAll queries s = engine.runEach ps s := by
  induction h generalizing s with
  | nil => rfl
  | cons hquery _ ih => simp only [runAll, runEach, run_of_preparesQuery hquery, ih]

/-- Any engine is hosted so. -/
def hostsD1 (engine : Engine S) :
    (⟨engine.database⟩ : D1Connection S (String × List JsValue)).Hosts engine.methods engine where
  view := id
  prepares query parameters _ := by
    by_cases hne : parameters = []
    · subst hne
      exact ⟨(query.sql, []), .unbound _ rfl⟩
    · exact ⟨(query.sql, parameters), .bound _ (query.sql, []) _ hne rfl rfl⟩
  raw query p hprepares s := by
    refine ⟨fun e he => ?_, fun hnone => ?_⟩
    · rw [run_of_preparesQuery hprepares, id] at he
      exact ⟨e.final, by simp only [methods, he], rfl⟩
    · rw [run_of_preparesQuery hprepares, id] at hnone
      exact ⟨.rejects notRun, s, by simp only [methods, hnone], trivial, rfl⟩
  run query p hprepares s := by
    refine ⟨fun e he => ?_, fun hnone => ?_⟩
    · rw [run_of_preparesQuery hprepares, id] at he
      exact ⟨e.result, e.final, by simp only [methods, he], e.delivers_result.counts, rfl⟩
    · rw [run_of_preparesQuery hprepares, id] at hnone
      exact ⟨.rejects notRun, s, by simp only [methods, hnone], trivial, rfl⟩
  batch queries ps hne hprepares s := by
    have hps : ps ≠ [] := by
      rintro rfl
      cases hprepares
      exact hne rfl
    refine ⟨fun es final hes => ?_, fun hnone => ?_⟩
    · rw [runEach_of_preparesQuery hprepares, id] at hes
      refine ⟨es.map Effect.result, final, by simp [database, hps, hes], ?_, rfl⟩
      rw [List.forall₂_map_left_iff, List.forall₂_same]
      exact fun e _ => e.delivers_result
    · rw [runEach_of_preparesQuery hprepares, id] at hnone
      exact ⟨notRun, s, .inr (by simp [database, hnone]), rfl⟩

end Engine

end SqlxCloudflare
