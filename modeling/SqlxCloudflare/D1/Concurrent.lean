import SqlxCloudflare.D1.Connection
import SqlxCloudflare.D1.Objects

/-!
# SqlxCloudflare.D1.Concurrent

The futures of one D1 connection.  The binding is stateless, so a shared
reference is enough to run a query, and any number of futures may be in the
middle of one: made, polled in any order, waiting for D1, dropped.  D1 serves
the requests they have sent one at a time, in an order of its own.

* `concurrent_linearizable` -- whatever the order, it is as if the operations
  that were served had been awaited one after another;
* `callPrepared_refines`, `perform_refines` -- what one operation leaves, of a D1
  that answers as documented;
* `concurrent_recounted` -- so the database is what was acknowledged.
-/

namespace SqlxCloudflare

open Executor Fallible

variable {DB P : Type}

namespace D1Connection

/-! ## in any order -/

section

variable [JsDebug]

/-- **One connection serves concurrent queries.**  In every interleaving of its
futures and of D1, the database is what the operations that were served leave
one after another, each served once; a future that has resolved got its reply
in that session, or without asking D1, as it does on every database; and an
operation that resolved before another was polled comes before it. -/
theorem concurrent_linearizable (connection : D1Connection DB P)
    (statements : D1Statements DB P) (s : DB) (before after : List (Server.Label D1.Operation))
    {t u : Server D1.Operation D1.Reply DB}
    (hbefore : Machine.run (Server.step (connection.service statements)) (.start s) before = some t)
    (hafter : Machine.run (Server.step (connection.service statements)) t after = some u) :
    u.state = (Server.session (connection.perform statements) (u.served.map Prod.snd) s).2 ∧
      (u.served.map Prod.fst).Nodup ∧
      (∀ i op reply, u.Resolved i op reply →
        ((∀ s, connection.perform statements op s = (reply, s)) ∧
            ∀ entry ∈ u.served, entry.1 ≠ i) ∨
          ∃ k : ℕ, u.served[k]? = some (i, op) ∧
            (Server.session (connection.perform statements) (u.served.map Prod.snd) s).1[k]? =
              some reply) ∧
      ∀ (i j m n : ℕ) op reply a b, t.Resolved i op reply → t.Unpolled j →
        u.served[m]? = some (i, a) → u.served[n]? = some (j, b) → m < n := by
  rw [perform_eq_alone]
  obtain ⟨hstate, hnodup, hresolved, hbefore⟩ := Server.linearizable hbefore hafter
  refine ⟨hstate, hnodup, fun i op reply hi => ?_, hbefore⟩
  rcases hresolved i op reply hi with ⟨hready, hunserved⟩ | hanswers
  · refine .inl ⟨fun s => ?_, hunserved⟩
    rw [Server.alone, hready, Server.Poll.alone]
  · exact .inr hanswers

end

end D1Connection

/-! ## a D1 that answers as documented -/

namespace D1

/-- The promise did not resolve. -/
def Failed {α : Type} : Promised α → Prop
  | .throws _ | .rejects _ => True
  | .resolves _ => False

/-- A result of `raw()` as it is documented: an array of the column names, which
are strings, and of rows of one value for each, of the types SQLite's values
cross as. -/
def Tabular (result : JsValue) : Prop :=
  result = .array [] ∨ ∃ (names : List String) (cells : List (List JsValue)),
    result = .array (.array (names.map .string) :: cells.map .array) ∧
      ∀ row ∈ cells, row.length = names.length ∧ ∀ cell ∈ row, Convertible cell

end D1

/-- The behaviour of D1: a statement's promise fails with nothing applied, or
resolves with the statement applied and a result of the shape documented; and
so does a batch's. -/
structure D1Connection.Documented (connection : D1Connection DB P)
    (statements : D1Statements DB P) : Prop where
  raw : ∀ p s answer s', statements.raw p s = (answer, s') →
    (D1.Failed answer ∧ s' = s) ∨
      ∃ result, answer = .resolves result ∧ D1.Tabular result ∧ s' = connection.db.apply p s
  run : ∀ p s answer s', statements.run p s = (answer, s') →
    (D1.Failed answer ∧ s' = s) ∨
      ∃ result object, answer = .resolves result ∧ result.metadata = .ok object ∧
        s' = connection.db.apply p s
  batches : connection.db.Batches
  readable : ∀ ps s answers s', connection.db.batch ps s = (.resolves (some answers), s') →
    ∀ answer ∈ answers, answer.Readable

section

variable [JsDebug] {connection : D1Connection DB P} {statements : D1Statements DB P}

namespace D1

/-- A promise that fails is an error, and what is left is left. -/
theorem await_of_failed {α : Type} {call : DB → Promised α × DB} {answer : Promised α} {s s' : DB}
    (h : call s = (answer, s')) (hfailed : Failed answer) :
    ∃ error, await call s = .error error s' := by
  cases answer with
  | throws error => exact ⟨databaseError error, by rw [await, h]⟩
  | rejects error => exact ⟨databaseError error, by rw [await, h]⟩
  | resolves value => cases hfailed

/-- A result of the shape documented can be read, whatever the limit. -/
theorem exists_readRaw {result : JsValue} (h : Tabular result) (limit : Option ℕ) :
    ∃ rs, readRaw limit result = .ok rs := by
  rcases h with rfl | ⟨names, cells, rfl, hcells⟩
  · exact ⟨[], rfl⟩
  · have hnames : (array (JsValue.array (names.map .string)).asArray >>= columnNames) =
        .ok names := stringNames_map_string _ names
    rw [readRaw_cons, hnames, ok_bind]
    refine exists_readLimited (fun row hrow => ?_) limit
    obtain ⟨cells', hcells', rfl⟩ := List.mem_map.mp hrow
    obtain ⟨hlength, hconvertible⟩ := hcells cells' hcells'
    have hreads : ∀ cell ∈ cells', ∃ value, fromJs cell = .ok value :=
      fun cell hcell => (exists_fromJs_iff cell).mpr (hconvertible cell hcell)
    obtain ⟨values, hvalues⟩ := exists_mapM_eq_ok_iff.mpr hreads
    exact ⟨values, (readsRows_readRow _ _).mpr ⟨cells', rfl, hvalues⟩,
      (length_of_mapM_eq_ok hvalues).trans hlength⟩

/-- The statements are applied, or the result is an error and they are not. -/
def AppliedOrNot {α : Type} (db : D1Database DB P) (ps : List P) (s : DB)
    (result : EStateM.Result Error DB α) : Prop :=
  (∃ value, result = .ok value (db.applyAll ps s)) ∨ ∃ error, result = .error error s

omit [JsDebug] in
theorem AppliedOrNot.map {α β : Type} {db : D1Database DB P} {ps : List P} {s : DB}
    {x : EStateM Error DB α} (h : AppliedOrNot db ps s (x s)) (f : α → β) :
    AppliedOrNot db ps s ((f <$> x) s) := by
  rcases h with ⟨value, hx⟩ | ⟨error, hx⟩
  · exact .inl ⟨f value, run_map_of_ok hx⟩
  · exact .inr ⟨error, run_map_of_error hx⟩

theorem fetch_refines (d : connection.Documented statements) (p : P) (limit : Option ℕ) (s : DB) :
    AppliedOrNot connection.db [p] s (fetch statements p limit s) := by
  rcases hraw : statements.raw p s with ⟨answer, s'⟩
  rcases d.raw p s answer s' hraw with ⟨hfailed, rfl⟩ | ⟨result, rfl, htabular, rfl⟩
  · obtain ⟨error, herror⟩ := await_of_failed hraw hfailed
    exact .inr ⟨error, run_bind_of_error herror⟩
  · obtain ⟨rs, hrs⟩ := exists_readRaw htabular limit
    exact .inl ⟨rs, by rw [fetch_of_resolves hraw, hrs]; rfl⟩

theorem run_refines (d : connection.Documented statements) (p : P) (s : DB) :
    AppliedOrNot connection.db [p] s (run statements p s) := by
  rcases hrun : statements.run p s with ⟨answer, s'⟩
  rcases d.run p s answer s' hrun with ⟨hfailed, rfl⟩ | ⟨result, object, rfl, hobject, rfl⟩
  · obtain ⟨error, herror⟩ := await_of_failed hrun hfailed
    exact .inr ⟨error, run_bind_of_error herror⟩
  · obtain ⟨report, hreport⟩ := (exists_queryResult_iff result).mpr ⟨object, hobject⟩
    exact .inl ⟨report, by rw [run_of_resolves hrun, hreport]; rfl⟩

/-- Whatever the method, one statement is applied, or the call is an error. -/
theorem callPrepared_refines (d : connection.Documented statements) (method : Method) (p : P)
    (s : DB) :
    AppliedOrNot connection.db [p] s (Executor.callPrepared statements method p s) := by
  cases method with
  | execute => exact (run_refines d p s).map _
  | executeMany => exact (run_refines d p s).map _
  | fetchMany => exact (fetch_refines d p none s).map _
  | fetchOptional => exact (fetch_refines d p (some 1) s).map _

theorem batch_refines (d : connection.Documented statements) (ps : List P) (s : DB) :
    AppliedOrNot connection.db ps s (batch connection.db ps s) := by
  rcases D1Connection.batch_cases d.batches ps s with
    ⟨error, herror, _⟩ | ⟨answers, hcall, _⟩
  · exact .inr ⟨error, herror⟩
  · have hentries : ∀ answer ∈ answers, ∃ result, entry answer = .ok result :=
      fun answer hanswer =>
        (exists_entry_iff answer).mpr (d.readable ps s answers _ hcall answer hanswer)
    obtain ⟨entries, hall⟩ := exists_mapM_eq_ok_iff.mpr hentries
    exact .inl ⟨entries, by rw [D1Connection.batch_of_resolves hcall, hall]; rfl⟩

/-- The reply says that the operation's statements were applied. -/
def Reply.acknowledges : Reply → Bool
  | .answer result => result.isOk
  | .results result => result.isOk
  | .items list => list.all Except.isOk
  | .statement _ => false

end D1

namespace D1Connection

/-- The statements of an operation, if all of it could be prepared. -/
def statementsOf (connection : D1Connection DB P) : D1.Operation → List P
  | .call _ query => (D1.Executor.prepare connection.db query).toOption.toList
  | .executeBatch queries | .fetchBatch queries => (connection.prepared queries).toOption.getD []
  | .formality _ => []

theorem runBatch_refines (d : connection.Documented statements) (queries : List Query) (s : DB) :
    D1.AppliedOrNot connection.db ((connection.prepared queries).toOption.getD []) s
      (connection.runBatch queries s) := by
  cases hprepared : connection.prepared queries with
  | error error => exact .inr ⟨error, runBatch_of_prepared_error hprepared s⟩
  | ok ps =>
      by_cases hne : queries = []
      · subst hne
        cases hprepared
        exact .inl ⟨[], rfl⟩
      · rw [runBatch_of_prepared hprepared hne]
        exact D1.batch_refines d ps s

/-- **An operation is what its reply says**: its statements are applied when
the reply acknowledges them, and otherwise none is. -/
theorem perform_refines (d : connection.Documented statements) (op : D1.Operation) (s : DB) :
    (connection.perform statements op s).2 =
      if (connection.perform statements op s).1.acknowledges
      then connection.db.applyAll (connection.statementsOf op) s else s := by
  cases op with
  | call method query =>
      simp only [perform, D1.Executor.call_eq, statementsOf]
      cases hprepare : D1.Executor.prepare connection.db query with
      | error error =>
          rw [run_bind_of_error (run_lift_error _ _)]
          rfl
      | ok p =>
          rw [run_bind_of_ok (run_lift_ok _ _)]
          rcases D1.callPrepared_refines d method p s with ⟨value, hcall⟩ | ⟨error, hcall⟩
          · rw [hcall]
            rfl
          · rw [hcall]
            rfl
  | executeBatch queries =>
      rcases runBatch_refines d queries s with ⟨results, hrun⟩ | ⟨error, hrun⟩
      · simp only [perform, executeBatch, run_map_of_ok hrun]
        rfl
      · simp only [perform, executeBatch, run_map_of_error hrun]
        rfl
  | fetchBatch queries =>
      rcases runBatch_refines d queries s with ⟨results, hrun⟩ | ⟨error, hrun⟩
      · have hall : (results.map (.ok : _ → Except Error _)).all Except.isOk = true := by
          rw [List.all_map]
          exact List.all_eq_true.mpr fun result _ => rfl
        simp only [perform, fetchBatch, hrun, D1.Reply.acknowledges, hall]
        rfl
      · simp only [perform, fetchBatch, hrun]
        rfl
  | formality formality => rfl

/-- The statements that were acknowledged, of operations and their replies. -/
def recount (connection : D1Connection DB P) : List D1.Operation → List D1.Reply → List P
  | op :: ops, reply :: replies =>
    if reply.acknowledges then connection.statementsOf op ++ connection.recount ops replies
    else connection.recount ops replies
  | _, _ => []

omit [JsDebug] in
theorem applyAll_append (db : D1Database DB P) (ps ps' : List P) (s : DB) :
    db.applyAll (ps ++ ps') s = db.applyAll ps' (db.applyAll ps s) := List.foldl_append

/-- Operations one after another leave the statements their replies
acknowledge. -/
theorem session_refines (d : connection.Documented statements) (ops : List D1.Operation) (s : DB) :
    (Server.session (connection.perform statements) ops s).2 =
      connection.db.applyAll
        (connection.recount ops (Server.session (connection.perform statements) ops s).1) s := by
  induction ops generalizing s with
  | nil => rfl
  | cons op ops ih =>
      have hstep := perform_refines d op s
      simp only [Server.session, ih, recount]
      split
      · next hacknowledged =>
          rw [if_pos hacknowledged] at hstep
          rw [hstep, applyAll_append]
      · next hacknowledged =>
          rw [if_neg hacknowledged] at hstep
          rw [hstep]

/-- What resolves without asking D1 acknowledges no statement. -/
theorem recount_of_ready {op : D1.Operation} {reply : D1.Reply}
    (h : connection.service statements op = .ready reply) :
    connection.recount [op] [reply] = [] := by
  have hbatch : ∀ queries (make : Except Error (List (BatchResult Row)) → D1.Reply),
      connection.batchService queries make = .ready reply →
        (reply = make (.ok []) ∧ connection.prepared queries = .ok []) ∨
          ∃ error, reply = make (.error error) := by
    intro queries make hready
    cases queries with
    | nil =>
        cases hready
        exact .inl ⟨rfl, rfl⟩
    | cons query queries =>
        rw [batchService] at hready
        cases hprepared : connection.prepared (query :: queries) with
        | ok ps =>
            rw [hprepared] at hready
            cases hready
        | error error =>
            rw [hprepared] at hready
            cases hready
            exact .inr ⟨error, rfl⟩
  cases op with
  | call method query =>
      rw [service] at h
      cases hprepare : D1.Executor.prepare connection.db query with
      | ok p =>
          rw [hprepare] at h
          cases h
      | error error =>
          rw [hprepare] at h
          cases h
          rfl
  | executeBatch queries =>
      rcases hbatch queries resultsOf h with ⟨rfl, hnil⟩ | ⟨error, rfl⟩
      · simp [recount, statementsOf, hnil, Except.toOption]
      · rfl
  | fetchBatch queries =>
      rcases hbatch queries itemsOf h with ⟨rfl, hnil⟩ | ⟨error, rfl⟩
      · simp [recount, statementsOf, hnil, Except.toOption]
      · rfl
  | formality formality =>
      cases h
      rfl

/-- **The database is what was acknowledged**, in every interleaving of the
futures of a connection: each operation that was served has one reply, which
its future resolves to if it is polled again; the database is the statements
those replies acknowledge, in the order they were served; and what resolved
without being served has done nothing. -/
theorem concurrent_recounted (connection : D1Connection DB P) (statements : D1Statements DB P)
    (d : connection.Documented statements) (s : DB) (labels : List (Server.Label D1.Operation))
    {t : Server D1.Operation D1.Reply DB}
    (hrun : Machine.run (Server.step (connection.service statements)) (.start s) labels = some t) :
    ∃ replies, replies.length = t.served.length ∧
      t.state = connection.db.applyAll
        (connection.recount (t.served.map Prod.snd) replies) s ∧
      ∀ i op reply, t.Resolved i op reply →
        (connection.recount [op] [reply] = [] ∧ ∀ entry ∈ t.served, entry.1 ≠ i) ∨
          ∃ k : ℕ, t.served[k]? = some (i, op) ∧ replies[k]? = some reply := by
  have hsound : t.Sound (connection.service statements) s := Server.sound_of_run hrun
  refine ⟨(Server.session (connection.perform statements) (t.served.map Prod.snd) s).1, ?_, ?_,
    fun i op reply hi => ?_⟩
  · rw [Server.length_session, List.length_map]
  · rw [← session_refines d, hsound.state, perform_eq_alone]
  · obtain ⟨dropped, hfuture⟩ := hi
    rcases hsound.told i _ hfuture with ⟨hready, hunserved⟩ | hanswers
    · exact .inl ⟨recount_of_ready hready, hunserved⟩
    · rw [perform_eq_alone]
      exact .inr hanswers

end D1Connection

end

/-! ## on a database that counts its rows -/

/-- The statements of that database. -/
def D1Statements.inserting (id : JsValue) : D1Statements ℕ String where
  raw _ count := (.resolves (D1.arraysOf ["id"] [[id]]), count + 1)
  run _ count := (.resolves (.inserted id), count + 1)

namespace D1Connection

theorem documented_inserting :
    (⟨.inserting (.string "1")⟩ : D1Connection ℕ String).Documented
      (.inserting (.string "1")) where
  raw := by
    intro p s answer s' h
    cases h
    exact .inr ⟨_, rfl, .inr ⟨["id"], [[.string "1"]], rfl, by simp [Convertible]⟩, rfl⟩
  run := by
    intro p s answer s' h
    cases h
    exact .inr ⟨_, _, rfl, rfl, rfl⟩
  batches := D1Database.batches_inserting _
  readable := by
    intro ps s answers s' h answer hanswer
    cases h
    obtain ⟨_, _, rfl⟩ := List.mem_map.mp hanswer
    refine ⟨⟨_, rfl, fun first rest heq object hobject name _ => ?_⟩, _, rfl⟩
    cases heq
    obtain rfl := List.mem_singleton.mp hobject
    exact ⟨_, rfl, trivial⟩

/-- The connection and its statements: everything that is run inserts a row. -/
abbrev inserting : D1Connection ℕ String := ⟨.inserting (.string "1")⟩

/-- Two inserts: the second is polled once the first has resolved. -/
theorem concurrent_linearizable_inserts :
    letI := JsDebug.describing
    ∃ u : Server D1.Operation D1.Reply ℕ,
      u.served.map Prod.fst = [0, 1] ∧
        u.state = (Server.session (inserting.perform (.inserting (.string "1")))
          (u.served.map Prod.snd) 0).2 := by
  let := JsDebug.describing
  have hbefore : ∃ t : Server D1.Operation D1.Reply ℕ,
      Machine.run (Server.step (inserting.service (.inserting (.string "1")))) (.start 0)
        [.make (.call .execute ⟨"INSERT INTO t (id) VALUES ('1')", .ok none⟩),
          .make (.executeBatch [⟨"INSERT INTO t (id) VALUES ('2')", .ok none⟩]),
          .poll 0, .serve 0, .poll 0] = some t ∧
        ∃ u, Machine.run (Server.step (inserting.service (.inserting (.string "1")))) t
          [.poll 1, .serve 1] = some u ∧ u.served.map Prod.fst = [0, 1] :=
    ⟨_, rfl, _, rfl, rfl⟩
  obtain ⟨t, hbefore, u, hafter, hserved⟩ := hbefore
  exact ⟨u, hserved, (concurrent_linearizable inserting _ 0 _ _ hbefore hafter).1⟩

/-- An insert that is dropped after its poll, and is served all the same. -/
theorem concurrent_recounted_dropped :
    letI := JsDebug.describing
    ∃ (t : Server D1.Operation D1.Reply ℕ) (replies : List D1.Reply),
      t.served.map Prod.fst = [0] ∧ replies.length = t.served.length ∧
        t.state = inserting.db.applyAll
          (inserting.recount (t.served.map Prod.snd) replies) 0 := by
  let := JsDebug.describing
  have hrun : ∃ t : Server D1.Operation D1.Reply ℕ,
      Machine.run (Server.step (inserting.service (.inserting (.string "1")))) (.start 0)
        [.make (.call .fetchMany ⟨"INSERT INTO t (id) VALUES ('1') RETURNING id", .ok none⟩),
          .poll 0, .drop 0, .serve 0] = some t ∧ t.served.map Prod.fst = [0] := ⟨_, rfl, rfl⟩
  obtain ⟨t, hrun, hserved⟩ := hrun
  obtain ⟨replies, hlength, hstate, _⟩ :=
    concurrent_recounted inserting _ documented_inserting 0 _ hrun
  exact ⟨t, replies, hserved, hlength, hstate⟩

end D1Connection

end SqlxCloudflare
