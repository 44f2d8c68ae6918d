import SqlxCloudflare.D1.Concurrent
import SqlxCloudflare.Do.Table

/-!
# SqlxCloudflare.D1.Table

A table in D1, written and read by any number of futures at once.  Whatever
the order they are made, polled, served and dropped in, a select returns the
rows of the inserts that were acknowledged before it was served, as the values
they were inserted with (`concurrent_reads`).
-/

namespace SqlxCloudflare

open Executor Fallible

variable {DB P : Type}

/-! ## prepared statements -/

/-- `p` is the statement `sql`, with `parameters` bound. -/
inductive D1Database.Prepares (db : D1Database DB P) (sql : String) : List JsValue → P → Prop where
  | unbound (p : P) (h : db.prepare sql = .ok p) : Prepares db sql [] p
  | bound (parameters : List JsValue) (statement p : P) (hne : parameters ≠ [])
      (h : db.prepare sql = .ok statement) (hbind : db.bind statement parameters = .ok p) :
      Prepares db sql parameters p

/-- `p` is the query's statement, with its parameters bound. -/
def D1Database.PreparesQuery (db : D1Database DB P) (query : Query) (p : P) : Prop :=
  ∃ parameters, query.sent = some parameters ∧ db.Prepares query.sql parameters p

section

variable [JsDebug] {db : D1Database DB P}

theorem prepares_of_prepare {sql : String} {arguments : List Value} {p : P}
    (h : D1.prepare db sql arguments = .ok p) :
    ∃ parameters, toJsArray arguments = .ok parameters ∧ db.Prepares sql parameters p := by
  obtain ⟨statement, hprepare, hrest⟩ := bind_eq_ok_iff.mp h
  rw [mapError_eq_ok_iff] at hprepare
  cases arguments with
  | nil =>
      cases hrest
      exact ⟨[], rfl, .unbound _ hprepare⟩
  | cons value values =>
      obtain ⟨parameters, hparameters, hbind⟩ := bind_eq_ok_iff.mp hrest
      rw [mapError_eq_ok_iff] at hbind
      refine ⟨parameters, hparameters, .bound _ _ _ ?_ hprepare hbind⟩
      rintro rfl
      have hlength := length_of_mapM_eq_ok hparameters
      cases hlength

theorem preparesQuery_of_prepare {query : Query} {p : P}
    (h : D1.Executor.prepare db query = .ok p) : db.PreparesQuery query p := by
  obtain ⟨arguments, hargs, hprepare⟩ := bind_eq_ok_iff.mp h
  rw [mapError_eq_ok_iff] at hargs
  obtain ⟨parameters, hparameters, hprepares⟩ := prepares_of_prepare hprepare
  refine ⟨parameters, ?_, hprepares⟩
  simp only [Query.sent, hargs, hparameters, Except.toOption]

theorem preparesQuery_of_prepared {connection : D1Connection DB P} {queries : List Query}
    {ps : List P} (h : connection.prepared queries = .ok ps) :
    List.Forall₂ connection.db.PreparesQuery queries ps := by
  obtain ⟨taken, htake, hprepare⟩ := bind_eq_ok_iff.mp h
  refine (forall₂_comp (mapM_eq_ok_iff.mp htake) (mapM_eq_ok_iff.mp hprepare)).imp ?_
  rintro query p ⟨⟨sql, arguments⟩, hquery, hp⟩
  obtain ⟨hsql, hsent⟩ := sent_of_takeOwned hquery
  obtain ⟨parameters, hparameters, hprepares⟩ := prepares_of_prepare hp
  cases hsql
  exact ⟨parameters, by rw [hsent, hparameters]; rfl, hprepares⟩

end

/-! ## what was acknowledged -/

/-- The queries of an operation. -/
def D1.Operation.queries : D1.Operation → List Query
  | .call _ query => [query]
  | .executeBatch queries | .fetchBatch queries => queries
  | .formality _ => []

/-- The queries that were acknowledged, of operations and their replies. -/
def D1.acknowledged : List D1.Operation → List D1.Reply → List Query
  | op :: ops, reply :: replies =>
    (if reply.acknowledges then op.queries else []) ++ D1.acknowledged ops replies
  | _, _ => []

namespace D1Connection

section

variable [JsDebug] {connection : D1Connection DB P} {statements : D1Statements DB P}

/-- A batch that succeeds was prepared. -/
theorem preparesQuery_of_runBatch {queries : List Query} {s : DB}
    {results : List (BatchResult Row)} {s' : DB}
    (h : connection.runBatch queries s = .ok results s') :
    List.Forall₂ connection.db.PreparesQuery queries
      ((connection.prepared queries).toOption.getD []) := by
  cases hprepared : connection.prepared queries with
  | ok ps => exact preparesQuery_of_prepared hprepared
  | error error =>
      rw [runBatch_of_prepared_error hprepared] at h
      cases h

/-- An operation that is acknowledged was prepared. -/
theorem preparesQuery_of_acknowledges {op : D1.Operation} {s : DB}
    (h : (connection.perform statements op s).1.acknowledges = true) :
    List.Forall₂ connection.db.PreparesQuery op.queries (connection.statementsOf op) := by
  cases op with
  | call method query =>
      simp only [perform, D1.Executor.call_eq] at h
      rw [D1.Operation.queries, statementsOf]
      cases hprepare : D1.Executor.prepare connection.db query with
      | ok p => exact .cons (preparesQuery_of_prepare hprepare) .nil
      | error error =>
          rw [hprepare, run_bind_of_error (run_lift_error _ _)] at h
          cases h
  | executeBatch queries =>
      cases hrun : connection.runBatch queries s with
      | ok results s' => exact preparesQuery_of_runBatch hrun
      | error error s' =>
          simp only [perform, executeBatch, run_map_of_error hrun] at h
          cases h
  | fetchBatch queries =>
      cases hrun : connection.runBatch queries s with
      | ok results s' => exact preparesQuery_of_runBatch hrun
      | error error s' =>
          simp only [perform, fetchBatch, hrun] at h
          cases h
  | formality formality => exact .nil

/-- What was acknowledged is what was applied. -/
theorem preparesQuery_acknowledged (ops : List D1.Operation) (s : DB) :
    List.Forall₂ connection.db.PreparesQuery
      (D1.acknowledged ops (Server.session (connection.perform statements) ops s).1)
      (connection.recount ops (Server.session (connection.perform statements) ops s).1) := by
  induction ops generalizing s with
  | nil => exact .nil
  | cons op ops ih =>
      simp only [Server.session, D1.acknowledged, recount]
      split
      · next h => exact List.rel_append (preparesQuery_of_acknowledges h) (ih _)
      · exact ih _

end

/-! ## a table of the database -/

/-- A table, kept by D1: its rows are the parameters they were inserted with,
and a select returns them all. -/
structure Table (connection : D1Connection DB P) (statements : D1Statements DB P)
    (schema : Schema) where
  rows : DB → List (List JsValue)
  /-- The parameters that come back as they were. -/
  keeps : JsValue → Prop
  inserts : ∀ parameters p s, parameters.length = schema.names.length →
    connection.db.Prepares schema.insert parameters p →
      rows (connection.db.apply p s) = rows s ++ [parameters]
  leaves : ∀ sql parameters p s, sql = schema.select ∨ schema.elsewhere sql →
    connection.db.Prepares sql parameters p → rows (connection.db.apply p s) = rows s
  selects : ∀ p s result s', connection.db.Prepares schema.select [] p →
    statements.raw p s = (.resolves result, s') →
      (rows s = [] ∧ result = .array []) ∨ ∃ cells,
        result = .array (.array (schema.names.map .string) :: cells) ∧
          List.Forall₂ (Stored keeps) (rows s) cells

section

variable [JsDebug] {connection : D1Connection DB P} {statements : D1Statements DB P}
  {schema : Schema}

omit [JsDebug] in
/-- The table grows by the rows that were inserted. -/
theorem rows_applyAll (table : connection.Table statements schema) {queries : List Query}
    {inserted : List (List Bindable)} (hinserts : schema.Inserts queries inserted) {ps : List P}
    (hprepares : List.Forall₂ connection.db.PreparesQuery queries ps) (s : DB) :
    ∃ stored, table.rows (connection.db.applyAll ps s) = table.rows s ++ stored ∧
      List.Forall₂ (List.Forall₂ Bindable.SentAs) inserted stored := by
  induction hinserts generalizing ps s with
  | nil =>
      cases hprepares
      exact ⟨[], (List.append_nil _).symm, .nil⟩
  | insert values hlength _ ih =>
      cases hprepares with
      | cons hprepare hrest =>
          obtain ⟨parameters, hsent, hprepare⟩ := hprepare
          have hparameters := exists_parameters hsent
          have hfirst := table.inserts _ _ s (hparameters.length_eq ▸ hlength) hprepare
          obtain ⟨stored, hrows, hstored⟩ := ih hrest (connection.db.apply _ s)
          refine ⟨parameters :: stored, ?_, .cons hparameters hstored⟩
          rw [hfirst, List.append_assoc] at hrows
          exact hrows
  | other query hquery _ ih =>
      cases hprepares with
      | cons hprepare hrest =>
          obtain ⟨parameters, hsent, hprepare⟩ := hprepare
          have hfirst := table.leaves _ _ _ s hquery hprepare
          obtain ⟨stored, hrows, hstored⟩ := ih hrest (connection.db.apply _ s)
          rw [hfirst] at hrows
          exact ⟨stored, hrows, hstored⟩

/-- The rows `fetch` returns of a select. -/
theorem holds_of_fetch (table : connection.Table statements schema)
    {inserted : List (List Bindable)} {p : P} {s s' : DB}
    (hsent : List.Forall₂ (List.Forall₂ Bindable.SentAs) inserted (table.rows s))
    (hprepare : connection.db.Prepares schema.select [] p) {limit : Option ℕ} {rs : List Row}
    (h : D1.fetch statements p limit s = .ok rs s') :
    List.Forall₂ (fun values (row : Row) => row.Holds table.keeps schema.names values)
      (limited limit inserted) rs := by
  rcases hraw : statements.raw p s with ⟨answer, t⟩
  cases answer with
  | throws error | rejects error =>
      obtain ⟨thrown, hthrown⟩ := D1.await_of_failed hraw trivial
      rw [D1.fetch, run_bind_of_error hthrown] at h
      cases h
  | resolves result =>
      have hread : D1.readRaw limit result = .ok rs := by
        have houtcome := congrArg outcome h
        rwa [D1.fetch_of_resolves hraw, outcome_lift] at houtcome
      rcases table.selects p s result t hprepare hraw with ⟨hnone, rfl⟩ | ⟨cells, rfl, hstored⟩
      · rw [hnone] at hsent
        cases hsent
        cases hread
        cases limit with
        | none => exact .nil
        | some limit =>
            rw [limited, List.take_nil]
            exact .nil
      · have hnames : (D1.array (JsValue.array (schema.names.map .string)).asArray >>=
            D1.columnNames) = .ok schema.names := stringNames_map_string _ schema.names
        rw [D1.readRaw_cons, hnames, ok_bind] at hread
        exact holds_of_readLimited D1.readsRows_readRow hsent hstored hread

/-- What a select answers. -/
theorem holds_of_call (table : connection.Table statements schema)
    {inserted : List (List Bindable)} {s s' : DB}
    (hsent : List.Forall₂ (List.Forall₂ Bindable.SentAs) inserted (table.rows s))
    {method : Method} {answer : Answer}
    (h : D1.Executor.call connection.db statements method (.binding schema.select []) s =
      .ok answer s') :
    answer.Holds table.keeps schema.names inserted := by
  rw [D1.Executor.call_eq] at h
  cases hprepare : D1.Executor.prepare connection.db (.binding schema.select []) with
  | error error =>
      rw [hprepare, run_bind_of_error (run_lift_error _ _)] at h
      cases h
  | ok p =>
      rw [hprepare, run_bind_of_ok (run_lift_ok _ _)] at h
      obtain ⟨_, hnothing, hprepares⟩ := preparesQuery_of_prepare hprepare
      cases hnothing
      cases method with
      | execute =>
          obtain ⟨result, _, rfl⟩ := run_map_eq_ok h
          trivial
      | executeMany =>
          obtain ⟨result, _, rfl⟩ := run_map_eq_ok h
          trivial
      | fetchMany =>
          obtain ⟨rs, hfetch, rfl⟩ := run_map_eq_ok h
          exact holds_of_fetch table hsent hprepares hfetch
      | fetchOptional =>
          obtain ⟨rs, hfetch, rfl⟩ := run_map_eq_ok h
          exact forall₂_head (holds_of_fetch table hsent hprepares hfetch)

/-- A select in a session returns what the calls before it inserted. -/
theorem holds_of_session (d : connection.Documented statements)
    (table : connection.Table statements schema) {s : DB} (hempty : table.rows s = [])
    {ops : List D1.Operation} {k : ℕ} {method : Method}
    (hop : ops[k]? = some (.call method (.binding schema.select []))) {answer : Answer}
    (hreply : (Server.session (connection.perform statements) ops s).1[k]? =
      some (.answer (.ok answer)))
    {inserted : List (List Bindable)}
    (hinserts : schema.Inserts (D1.acknowledged (ops.take k)
      ((Server.session (connection.perform statements) ops s).1.take k)) inserted) :
    answer.Holds table.keeps schema.names inserted := by
  obtain ⟨hvalues, hvalue⟩ := Server.session_at (connection.perform statements) hop s
  rw [hvalue, perform] at hreply
  rw [hvalues] at hinserts
  have hanswer := D1.Reply.answer.inj (Option.some.inj hreply)
  obtain ⟨s', hcall⟩ := outcome_eq_ok_iff.mp hanswer
  obtain ⟨stored, hrows, hsent⟩ := rows_applyAll table hinserts (preparesQuery_acknowledged _ s) s
  rw [← session_refines d, hempty, List.nil_append] at hrows
  rw [← hrows] at hsent
  exact holds_of_call table hsent hcall

/-- **A table reads back as it was written**, in every interleaving of the
futures of a connection to a D1 that answers as documented, which begins with
the table empty: a select that has resolved was served, and if of the queries
acknowledged before it none was but the schema's insert, its select and those
elsewhere -- no DELETE or UPDATE of the table -- the rows it returned are those
of the inserts, in order.  A value that was bound as a parameter the table
keeps reads as it was bound. -/
theorem concurrent_reads (connection : D1Connection DB P) (statements : D1Statements DB P)
    (d : connection.Documented statements) (table : connection.Table statements schema) (s : DB)
    (hempty : table.rows s = []) (labels : List (Server.Label D1.Operation))
    {t : Server D1.Operation D1.Reply DB}
    (hrun : Machine.run (Server.step (connection.service statements)) (.start s) labels = some t) :
    ∃ replies : List D1.Reply, replies.length = t.served.length ∧
      (∀ i op reply, t.Resolved i op reply → (∀ entry ∈ t.served, entry.1 ≠ i) ∨
        ∃ k : ℕ, t.served[k]? = some (i, op) ∧ replies[k]? = some reply) ∧
      ∀ i method answer,
        t.Resolved i (.call method (.binding schema.select [])) (.answer (.ok answer)) →
          ∃ k : ℕ, t.served[k]? = some (i, .call method (.binding schema.select [])) ∧
            ∀ inserted, schema.Inserts (D1.acknowledged ((t.served.map Prod.snd).take k)
                (replies.take k)) inserted →
              answer.Holds table.keeps schema.names inserted := by
  have hsound : t.Sound (connection.service statements) s := Server.sound_of_run hrun
  have htold : ∀ i op reply, t.Resolved i op reply →
      (connection.service statements op = .ready reply ∧ Server.Unserved t.served i) ∨
        Server.Answers (connection.service statements) s t.served i op reply := by
    rintro i op reply ⟨dropped, hfuture⟩
    exact hsound.told i _ hfuture
  refine ⟨(Server.session (connection.perform statements) (t.served.map Prod.snd) s).1, ?_,
    fun i op reply hi => ?_, fun i method answer hi => ?_⟩
  · rw [Server.length_session, List.length_map]
  · rw [perform_eq_alone]
    exact (htold i op reply hi).imp And.right id
  · rcases htold i _ _ hi with ⟨hready, _⟩ | ⟨k, hk, hreply⟩
    · rw [service] at hready
      split at hready <;> cases hready
    · rw [← perform_eq_alone] at hreply
      have hop : (t.served.map Prod.snd)[k]? = some (.call method (.binding schema.select [])) := by
        rw [List.getElem?_map, hk]
        rfl
      exact ⟨k, hk, fun inserted hinserts => holds_of_session d table hempty hop hreply hinserts⟩

end

end D1Connection

/-! ## a database of one such table -/

/-- The statements of a database of pairs: an insert that has no parameters
yet, one that has, and a select. -/
inductive PairStatement where
  | unbound
  | insert (pair : Pair)
  | select

namespace PairStatement

def apply : PairStatement → List Pair → List Pair
  | .insert pair, pairs => pairs ++ [pair]
  | .unbound, pairs | .select, pairs => pairs

/-- Whether the statement can be run. -/
def isBound : PairStatement → Bool
  | .unbound => false
  | .insert _ | .select => true

/-- What D1 says a statement did. -/
def result (statement : PairStatement) : D1Result where
  results := .ok none
  metadata := .ok ⟨["changes"], fun _ =>
    .ok (.number (Ieee.Binary.ofInt Ieee.binary64
      (match statement with | .insert _ => 1 | _ => 0)))⟩

def notBound : JsValue :=
  .error "D1_ERROR: Wrong number of parameter bindings for SQL query." .undefined

def database : D1Database (List Pair) PairStatement where
  prepare sql :=
    if sql = Pair.schema.insert then .ok .unbound
    else if sql = Pair.schema.select then .ok .select
    else .error (.error "D1_ERROR: syntax error" .undefined)
  bind statement parameters :=
    match statement, Pair.ofParameters parameters with
    | .unbound, some pair => .ok (.insert pair)
    | _, _ => .error notBound
  apply := apply
  batch statements pairs :=
    if statements.all isBound then
      (.resolves (some (statements.map result)),
        statements.foldl (fun pairs statement => statement.apply pairs) pairs)
    else (.rejects notBound, pairs)

def methods : D1Statements (List Pair) PairStatement where
  raw statement pairs :=
    match statement with
    | .unbound => (.rejects notBound, pairs)
    | .insert pair => (.resolves (.array []), pairs ++ [pair])
    | .select => (.resolves (D1.arraysOf Pair.schema.names (pairs.map Pair.cells)), pairs)
  run statement pairs :=
    match statement with
    | .unbound => (.rejects notBound, pairs)
    | statement => (.resolves statement.result, statement.apply pairs)

def connection : D1Connection (List Pair) PairStatement := ⟨database⟩

theorem documented : connection.Documented methods where
  raw := by
    intro p s answer s' h
    cases p with
    | unbound =>
        cases h
        exact .inl ⟨trivial, rfl⟩
    | insert pair =>
        cases h
        exact .inr ⟨_, rfl, .inl rfl, rfl⟩
    | select =>
        cases h
        refine .inr ⟨_, rfl, .inr ⟨_, _, rfl, fun row hrow => ?_⟩, rfl⟩
        obtain ⟨pair, _, rfl⟩ := List.mem_map.mp hrow
        exact ⟨rfl, pair.convertible_cells⟩
  run := by
    intro p s answer s' h
    cases p with
    | unbound =>
        cases h
        exact .inl ⟨trivial, rfl⟩
    | insert pair | select =>
        cases h
        exact .inr ⟨_, _, rfl, rfl, rfl⟩
  batches := by
    constructor
    · intro ps s error s' h
      simp only [connection, database] at h
      split at h <;> cases h
    · intro ps s error s' h
      simp only [connection, database] at h
      split at h <;> cases h
      rfl
    · intro ps s results s' h
      simp only [connection, database] at h
      split at h <;> cases h
      exact ⟨rfl, _, rfl, List.length_map _⟩
  readable := by
    intro ps s answers s' h answer hanswer
    simp only [connection, database] at h
    split at h <;> cases h
    obtain ⟨statement, _, rfl⟩ := List.mem_map.mp hanswer
    exact ⟨⟨none, rfl, fun first rest heq => by cases heq⟩, _, rfl⟩

/-- What its texts prepare. -/
theorem prepares_cases {sql : String} {parameters : List JsValue} {p : PairStatement}
    (h : connection.db.Prepares sql parameters p) :
    (sql = Pair.schema.insert ∧ parameters = [] ∧ p = .unbound) ∨
      (sql = Pair.schema.insert ∧ ∃ pair : Pair, pair.cells = parameters ∧ p = .insert pair) ∨
      (sql = Pair.schema.select ∧ p = .select) := by
  have hprepare : ∀ statement, database.prepare sql = .ok statement →
      (sql = Pair.schema.insert ∧ statement = .unbound) ∨
        (sql = Pair.schema.select ∧ statement = .select) := by
    intro statement hok
    simp only [database] at hok
    split at hok
    · next hinsert =>
        cases hok
        exact .inl ⟨hinsert, rfl⟩
    · split at hok
      · next hselect =>
          cases hok
          exact .inr ⟨hselect, rfl⟩
      · cases hok
  cases h with
  | unbound _ hok =>
      rcases hprepare p hok with ⟨hsql, rfl⟩ | ⟨hsql, rfl⟩
      · exact .inl ⟨hsql, rfl, rfl⟩
      · exact .inr (.inr ⟨hsql, rfl⟩)
  | bound _ statement _ _ hok hbind =>
      rcases hprepare statement hok with ⟨hsql, rfl⟩ | ⟨hsql, rfl⟩
      · simp only [connection, database] at hbind
        cases hpair : Pair.ofParameters parameters with
        | none =>
            rw [hpair] at hbind
            cases hbind
        | some pair =>
            rw [hpair] at hbind
            cases hbind
            exact .inr (.inl ⟨hsql, pair, Pair.cells_of_ofParameters hpair, rfl⟩)
      · cases hbind

def table : connection.Table methods Pair.schema where
  rows pairs := pairs.map Pair.cells
  keeps _ := True
  inserts := by
    intro parameters p s hlength h
    rcases prepares_cases h with ⟨_, rfl, _⟩ | ⟨_, pair, rfl, rfl⟩ | ⟨hsql, _⟩
    · cases hlength
    · exact List.map_append ..
    · exact absurd hsql (by decide)
  leaves := by
    intro sql parameters p s hsql h
    obtain rfl := hsql.resolve_right id
    rcases prepares_cases h with ⟨hsql, _⟩ | ⟨hsql, _⟩ | ⟨_, rfl⟩
    · exact absurd hsql (by decide)
    · exact absurd hsql (by decide)
    · rfl
  selects := by
    intro p s result s' h hraw
    rcases prepares_cases h with ⟨hsql, _⟩ | ⟨hsql, _⟩ | ⟨_, rfl⟩
    · exact absurd hsql (by decide)
    · exact absurd hsql (by decide)
    · cases hraw
      refine .inr ⟨_, rfl, ?_⟩
      rw [List.map_map]
      exact Pair.stored_cells _ s

end PairStatement

namespace D1Connection

/-- Two inserts, of which the one that was made last is served first, and a
select between the two. -/
theorem concurrent_reads_insert :
    letI := JsDebug.describing
    ∃ (t : Server D1.Operation D1.Reply (List Pair)) (answer : Answer),
      t.Resolved 2 (.call .fetchMany (.binding Pair.schema.select [])) (.answer (.ok answer)) ∧
        answer.Holds (fun _ => True) Pair.schema.names [Pairs.bound "b" [1, 255]] := by
  let := JsDebug.describing
  have hrun : ∃ (t : Server D1.Operation D1.Reply (List Pair)) (answer : Answer),
      Machine.run (Server.step (PairStatement.connection.service PairStatement.methods)) (.start [])
        [.make (.call .fetchMany (Pairs.insert "a" [])),
          .make (.call .fetchMany (Pairs.insert "b" [1, 255])),
          .make (.call .fetchMany (.binding Pair.schema.select [])),
          .poll 0, .poll 1, .poll 2, .serve 1, .serve 2, .serve 0, .poll 1, .poll 2] = some t ∧
        t.Resolved 1 (.call .fetchMany (Pairs.insert "b" [1, 255])) (.answer (.ok (.rows []))) ∧
        t.Resolved 2 (.call .fetchMany (.binding Pair.schema.select [])) (.answer (.ok answer)) ∧
        t.served = [(1, .call .fetchMany (Pairs.insert "b" [1, 255])),
          (2, .call .fetchMany (.binding Pair.schema.select [])),
          (0, .call .fetchMany (Pairs.insert "a" []))] :=
    ⟨_, _, rfl, ⟨_, rfl⟩, ⟨_, rfl⟩, rfl⟩
  obtain ⟨t, answer, hrun, hinsert, hselect, hserved⟩ := hrun
  obtain ⟨replies, _, htold, hreads⟩ := concurrent_reads PairStatement.connection
    PairStatement.methods PairStatement.documented PairStatement.table [] rfl _ hrun
  obtain ⟨k, hk, hholds⟩ := hreads 2 _ _ hselect
  have hreply : replies[0]? = some (.answer (.ok (.rows []))) := by
    rcases htold 1 _ _ hinsert with hunserved | ⟨j, hj, hreply⟩
    · exact absurd rfl (hunserved (1, _) (by rw [hserved]; exact List.mem_cons_self))
    · rw [hserved] at hj
      rcases j with _ | _ | _ | j
      · exact hreply
      all_goals cases hj
  rw [hserved] at hk hholds
  rcases k with _ | _ | _ | k
  · cases hk
  · have htake : replies.take 1 = [.answer (.ok (.rows []))] := by
      rw [List.take_one, List.head?_eq_getElem?, hreply]
      rfl
    rw [htake] at hholds
    exact ⟨t, answer, hselect, hholds _ (.insert (Pairs.bound "b" [1, 255]) rfl .nil)⟩
  all_goals cases hk

end D1Connection

end SqlxCloudflare
