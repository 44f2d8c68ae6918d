import SqlxCloudflare.Core.Faults
import SqlxCloudflare.D1.Table

/-!
# SqlxCloudflare.D1.Errors

What can go wrong with a D1 query, whatever D1 answers: nothing here assumes
that it answers as it documents, but that a batch's rows are objects.

* `raises_entry`, `raises_readRaw` -- each error of reading an answer names
  what cannot be read of it;
* `D1Connection.concurrent_errors` -- in every interleaving, an error is of an
  operation that was never sent, and says why, or it is what D1 threw when that
  operation was served, or what is wrong with what D1 answered then.
-/

namespace SqlxCloudflare

open Executor Fallible

section

variable [JsDebug]

/-! ## what cannot be read of an answer -/

/-- Of what `raw()` resolved with. -/
inductive D1.UnreadableRaw (limit : Option ℕ) : JsValue → Error → Prop where
  | notArray (result : JsValue) (h : result.asArray = none) :
      UnreadableRaw limit result (.protocol "D1 `raw()` did not return an array")
  | noNames (names : JsValue) (rows : List JsValue) (h : names.asArray = none) :
      UnreadableRaw limit (.array (names :: rows))
        (.protocol "D1 returned a row that is not an array")
  | table (names rows : List JsValue) (error : Error)
      (h : UnreadableTable "D1 returned a column name that is not a string"
        "D1 returned a row that is not an array" names (limited limit rows) error) :
      UnreadableRaw limit (.array (.array names :: rows)) error

/-- Of the result of a statement, what it did. -/
inductive D1Result.Unreported (result : D1Result) : Error → Prop where
  | metadata (thrown : JsValue) (h : result.metadata = .error thrown) :
      Unreported result (D1.protocolError thrown)

/-- Of the result of a statement, its rows and what it did. -/
inductive D1Result.Unreadable (result : D1Result) : Error → Prop where
  | results (thrown : JsValue) (h : result.results = .error thrown) :
      Unreadable result (D1.protocolError thrown)
  | getter (first : JsObject) (rest : List JsObject)
      (h : result.results = .ok (some (first :: rest)))
      (object : JsObject) (hobject : object ∈ first :: rest) (name : String)
      (hname : name ∈ first.ownKeys) (thrown : JsValue) (hget : object.get name = .error thrown) :
      Unreadable result (D1.protocolError thrown)
  | cell (first : JsObject) (rest : List JsObject)
      (h : result.results = .ok (some (first :: rest)))
      (object : JsObject) (hobject : object ∈ first :: rest) (name : String)
      (hname : name ∈ first.ownKeys) (cell : JsValue) (hget : object.get name = .ok cell)
      (error : Error) (hcell : SqlxCloudflare.Unreadable cell error) : Unreadable result error
  | unreported (error : Error) (h : result.Unreported error) : Unreadable result error

/-- Of a call that returns a promise: what it threw or rejected with, or what
cannot be read of what it resolved with. -/
inductive D1.Fails {α : Type} (unreadable : α → Error → Prop) : Promised α → Error → Prop where
  | throws (thrown : JsValue) : Fails unreadable (.throws thrown) (databaseError thrown)
  | rejects (thrown : JsValue) : Fails unreadable (.rejects thrown) (databaseError thrown)
  | resolves (value : α) (error : Error) (h : unreadable value error) :
      Fails unreadable (.resolves value) error

/-- Of a call of `batch()`. -/
inductive D1.BatchFails : BatchAnswer → Error → Prop where
  | throws (thrown : JsValue) : BatchFails (.throws thrown) (databaseError thrown)
  | rejects (thrown : JsValue) : BatchFails (.rejects thrown) (databaseError thrown)
  | notArray :
      BatchFails (.resolves none) (.protocol "D1 returned a row that is not an array")
  | entry (results : List D1Result) (result : D1Result) (hmem : result ∈ results) (error : Error)
      (h : result.Unreadable error) : BatchFails (.resolves (some results)) error

namespace D1

omit [JsDebug] in
theorem raises_array {α : Type} {p : Error → Prop} {elements : Option (List α)}
    (h : elements = none → p (.protocol "D1 returned a row that is not an array")) :
    Raises p (array elements) := by
  cases elements with
  | some elements => exact raises_ok _
  | none => exact raises_error (h rfl)

omit [JsDebug] in
theorem eq_array_of_array {value : JsValue} {elements : List JsValue}
    (h : array value.asArray = .ok elements) : value = .array elements := by
  cases value <;> cases h
  rfl

theorem raises_readRaw (limit : Option ℕ) (result : JsValue) :
    Raises (UnreadableRaw limit result) (readRaw limit result) := by
  cases harray : result.asArray with
  | none =>
      simp only [readRaw, rawArray, harray, error_bind]
      exact raises_error (.notArray result harray)
  | some elements =>
      have hresult : result = .array elements := by
        cases result <;> cases harray
        rfl
      subst hresult
      cases elements with
      | nil => exact raises_ok _
      | cons names rows =>
          rw [readRaw_cons]
          refine Raises.bind ?_ fun taken htaken => ?_
          · refine (raises_array (.noNames names rows)).bind fun cells hcells => ?_
            rw [eq_array_of_array hcells]
            exact raises_stringNames.mono fun error => .table cells rows error
          · obtain ⟨cells, hcells, hnames⟩ := bind_eq_ok_iff.mp htaken
            rw [eq_array_of_array hcells]
            refine (raises_readLimited readsRows_readRow (fun row hmem => ?_) hnames).mono
              fun error => .table cells rows error
            refine (raises_array (.row row hmem)).bind fun values hvalues => ?_
            rw [eq_array_of_array hvalues] at hmem
            exact raises_mapM_fromJs hmem

theorem raises_queryResult (result : D1Result) :
    Raises result.Unreported (queryResult result) :=
  (raises_mapError fun thrown => .metadata thrown).bind fun _ _ => raises_ok _

theorem raises_rows (result : D1Result) : Raises result.Unreadable (rows result) := by
  refine (raises_mapError fun thrown => .results thrown).bind fun objects hobjects => ?_
  rw [mapError_eq_ok_iff] at hobjects
  match objects with
  | none | some [] => exact raises_ok _
  | some (first :: rest) =>
      simp only [columnNames_keys, ok_bind]
      have hvalue : ∀ object ∈ first :: rest, ∀ name ∈ first.ownKeys,
          Raises result.Unreadable (valueAt object name) := by
        intro object hobject name hname
        refine (raises_mapError fun thrown hget => ?_).bind fun cell hcell error herror => ?_
        · exact .getter first rest hobjects object hobject name hname thrown hget
        · exact .cell first rest hobjects object hobject name hname cell
            (mapError_eq_ok_iff.mp hcell) error (fromJs_eq_error_iff.mp herror)
      refine (raises_mapM fun object hobject => raises_mapM (hvalue object hobject)).bind
        fun values hvalues error herror => ?_
      -- every row has a value for each of the names
      have hlengths : ∀ row ∈ values, row.length = first.ownKeys.length := by
        intro row hrow
        obtain ⟨object, _, hobject⟩ := exists_mem_of_mapM_eq_ok hvalues hrow
        exact length_of_mapM_eq_ok hobject
      obtain ⟨read, hread⟩ := Row.exists_fromResult_iff.mpr hlengths
      rw [hread] at herror
      cases herror

theorem raises_entry (result : D1Result) : Raises result.Unreadable (entry result) :=
  (raises_rows result).bind fun _ _ =>
    ((raises_queryResult result).mono fun error => .unreported error).bind fun _ _ => raises_ok _

/-! ## what was sent -/

variable {DB P α : Type}

theorem raises_await {unreadable : α → Error → Prop} (call : DB → Promised α × DB) (s : DB) :
    Raises (Fails unreadable (call s).1) (outcome (await call s)) := by
  rw [await]
  rcases call s with ⟨thrown | thrown | value, s'⟩
  · exact raises_error (.throws thrown)
  · exact raises_error (.rejects thrown)
  · exact raises_ok value

/-- A call is awaited, and what it resolved with is read. -/
theorem raises_await_lift {β : Type} {unreadable : α → Error → Prop} {read : α → Except Error β}
    (h : ∀ value, Raises (unreadable value) (read value)) (call : DB → Promised α × DB) (s : DB) :
    Raises (Fails unreadable (call s).1) (outcome ((await call >>= fun a => lift (read a)) s)) := by
  refine raises_run_bind (raises_await call s) fun value t hvalue => raises_run_lift ?_ t
  have hresolves : (call s).1 = .resolves value := by
    rw [await] at hvalue
    split at hvalue
    · cases hvalue
    · cases hvalue
    · next hcall =>
        cases hvalue
        rw [hcall]
  rw [hresolves]
  exact (h value).mono fun error => .resolves value error

theorem raises_fetch (statements : D1Statements DB P) (p : P) (limit : Option ℕ) (s : DB) :
    Raises (Fails (UnreadableRaw limit) (statements.raw p s).1)
      (outcome (fetch statements p limit s)) :=
  raises_await_lift (raises_readRaw limit) (statements.raw p) s

theorem raises_run (statements : D1Statements DB P) (p : P) (s : DB) :
    Raises (Fails D1Result.Unreported (statements.run p s).1) (outcome (run statements p s)) :=
  raises_await_lift raises_queryResult (statements.run p) s

theorem raises_batch (db : D1Database DB P) (ps : List P) (s : DB) :
    Raises (BatchFails (db.batch ps s).1) (outcome (batch db ps s)) := by
  have hsettle : ∀ results t, settle db ps s = .ok results t →
      (db.batch ps s).1 = .resolves results := by
    intro results t h
    rw [settle] at h
    split at h
    · cases h
    · cases h
    · next hbatch =>
        cases h
        rw [hbatch]
  refine raises_run_bind ?_ fun results t hresults => ?_
  · rw [settle]
    rcases db.batch ps s with ⟨thrown | thrown | results, s'⟩
    · exact raises_error (.throws thrown)
    · exact raises_error (.rejects thrown)
    · exact raises_ok results
  · rw [hsettle results t hresults]
    cases results with
    | none => exact raises_run_bind (raises_error .notArray) fun _ _ h => by cases h
    | some answers =>
        refine raises_run_bind (raises_ok answers) fun read u hread => raises_run_lift ?_ u
        cases hread
        exact raises_mapM fun result hmem =>
          (raises_entry result).mono fun error => .entry answers result hmem error

end D1

/-- The errors a reply reports. -/
def D1.Reply.errors : D1.Reply → List Error
  | .answer result => (errorOf result).toList
  | .results result => (errorOf result).toList
  | .items list => list.filterMap errorOf
  | .statement result => (errorOf result).toList

/-! ## what was not sent -/

variable {DB P : Type}

/-- The statement cannot be prepared: D1 refuses its SQL or its parameters, or
an argument cannot be bound. -/
inductive D1Database.Unprepared (db : D1Database DB P) (sql : String) (arguments : List Value) :
    Error → Prop where
  | refused (thrown : JsValue) (h : db.prepare sql = .error thrown) :
      Unprepared db sql arguments (databaseError thrown)
  | unbindable (statement : P) (hprepare : db.prepare sql = .ok statement) (error : Error)
      (h : Unbindable arguments error) : Unprepared db sql arguments error
  | rejected (statement : P) (hprepare : db.prepare sql = .ok statement) (hne : arguments ≠ [])
      (parameters : List JsValue) (hsend : toJsArray arguments = .ok parameters)
      (thrown : JsValue) (h : db.bind statement parameters = .error thrown) :
      Unprepared db sql arguments (databaseError thrown)

theorem D1.raises_prepare (db : D1Database DB P) (sql : String) (arguments : List Value) :
    Raises (db.Unprepared sql arguments) (D1.prepare db sql arguments) := by
  refine (raises_mapError fun thrown => .refused thrown).bind fun statement hstatement => ?_
  rw [mapError_eq_ok_iff] at hstatement
  split
  · exact raises_ok _
  · next hempty =>
      have hne : arguments ≠ [] := by simpa using hempty
      refine ((raises_toJsArray arguments).mono (.unbindable statement hstatement)).bind
        fun parameters hsend => raises_mapError ?_
      exact .rejected statement hstatement hne parameters hsend

namespace D1Connection

variable {connection : D1Connection DB P}

/-- The operation is not sent: the arguments of one of its queries were not
bound, one of them cannot be prepared, or D1 has nothing that does it. -/
inductive Unsent (connection : D1Connection DB P) (op : D1.Operation) : Error → Prop where
  | arguments (query : Query) (hmem : query ∈ op.queries) (source : BoxDynError)
      (h : query.arguments = .error source) : Unsent connection op (.encode source)
  | unprepared (query : Query) (hmem : query ∈ op.queries) (arguments : Option Arguments)
      (harguments : query.arguments = .ok arguments) (error : Error)
      (h : connection.db.Unprepared query.sql (argumentsOf arguments) error) :
      Unsent connection op error
  | transaction (h : op ∈ [.formality .begin, .formality .commit, .formality .rollback]) :
      Unsent connection op (D1.unsupported D1.noTransactions)
  | describe (sql : String) (h : op = .formality (.describe sql)) :
      Unsent connection op (D1.unsupported "statements cannot be described")

theorem raises_executorPrepare {op : D1.Operation} {query : Query} (hmem : query ∈ op.queries) :
    Raises (connection.Unsent op) (D1.Executor.prepare connection.db query) := by
  refine (raises_mapError fun source => .arguments query hmem source).bind fun arguments hok => ?_
  exact (D1.raises_prepare connection.db _ _).mono
    fun error => .unprepared query hmem arguments (mapError_eq_ok_iff.mp hok) error

theorem raises_prepared {op : D1.Operation} {queries : List Query} (h : op.queries = queries) :
    Raises (connection.Unsent op) (connection.prepared queries) := by
  subst h
  refine (raises_mapM fun query hmem => ?_).bind fun taken htaken =>
    raises_mapM fun entry hmem => ?_
  · exact (raises_mapError fun source => .arguments query hmem source).bind fun _ _ => raises_ok _
  · obtain ⟨query, hquery, hentry⟩ := exists_mem_of_mapM_eq_ok htaken hmem
    obtain ⟨arguments, hok, hpure⟩ := bind_eq_ok_iff.mp hentry
    cases hpure
    refine (D1.raises_prepare connection.db _ _).mono fun error herror => ?_
    refine .unprepared query hquery arguments (mapError_eq_ok_iff.mp hok) error ?_
    cases arguments <;> exact herror

theorem raises_answer (formality : Formality) :
    Raises (connection.Unsent (.formality formality)) (D1.answer formality) := by
  cases formality with
  | close | ping | flush | prepareWith _ _ => exact raises_ok _
  | begin | commit | rollback => exact raises_error (.transaction (by simp))
  | describe sql => exact raises_error (.describe sql rfl)

/-! ## the errors of a reply -/

variable {statements : D1Statements DB P}

/-- A reply that reports the error a batch comes to, and no other. -/
def Reports (make : Except Error (List (BatchResult Row)) → D1.Reply) : Prop :=
  ∀ result, ∀ error ∈ (make result).errors, result = .error error

omit [JsDebug] in
theorem reports_resultsOf : Reports resultsOf := by
  intro result error h
  have hmem := mem_errorOf.mp h
  cases result with
  | ok results => cases hmem
  | error error' =>
      cases hmem
      rfl

omit [JsDebug] in
theorem reports_itemsOf : Reports itemsOf := by
  intro result error h
  cases result with
  | ok results =>
      have hnone : (itemsOf (.ok results)).errors = [] := filterMap_errorOf_ok results
      rw [hnone] at h
      cases h
  | error error' =>
      have hone : (itemsOf (.error error')).errors = [error'] := rfl
      rw [hone, List.mem_singleton] at h
      rw [h]

/-- What a first poll resolves to, was not sent. -/
theorem unsent_of_ready {op : D1.Operation} {reply : D1.Reply}
    (h : connection.service statements op = .ready reply) :
    ∀ error ∈ reply.errors, connection.Unsent op error := by
  have hbatch : ∀ queries make, op.queries = queries → Reports make →
      connection.batchService queries make = .ready reply →
        ∀ error ∈ reply.errors, connection.Unsent op error := by
    intro queries make hqueries hmake hready error herror
    rw [batchService] at hready
    split at hready
    · cases hready
      cases hmake _ _ herror
    · split at hready
      · next error' hprepared =>
          cases hready
          cases hmake _ _ herror
          exact raises_prepared hqueries error hprepared
      · cases hready
  intro error herror
  cases op with
  | call method query =>
      rw [service] at h
      split at h
      · next error' hprepare =>
          cases h
          have hmem : error ∈ (errorOf (.error error' : Except Error Executor.Answer)).toList :=
            herror
          cases mem_errorOf.mp hmem
          exact raises_executorPrepare (List.mem_singleton_self query) error hprepare
      · cases h
  | executeBatch queries => exact hbatch queries _ rfl reports_resultsOf h error herror
  | fetchBatch queries => exact hbatch queries _ rfl reports_itemsOf h error herror
  | formality formality =>
      cases h
      exact raises_answer formality error (mem_errorOf.mp herror)

/-- What D1 answers a batch with is a failure or cannot be read. -/
def BatchAnswered (connection : D1Connection DB P) (s : DB) (queries : List Query)
    (error : Error) : Prop :=
  queries ≠ [] ∧ ∃ ps, List.Forall₂ connection.db.PreparesQuery queries ps ∧
    D1.BatchFails (connection.db.batch ps s).1 error

/-- What D1 answers the operation with, at the state it is served at, is a
failure or cannot be read. -/
inductive Answered (connection : D1Connection DB P) (statements : D1Statements DB P) (s : DB) :
    D1.Operation → Error → Prop where
  | run (method : Method) (hmethod : method = .execute ∨ method = .executeMany) (query : Query)
      (p : P) (hprepares : connection.db.PreparesQuery query p) (error : Error)
      (h : D1.Fails D1Result.Unreported (statements.run p s).1 error) :
      Answered connection statements s (.call method query) error
  | fetchMany (query : Query) (p : P) (hprepares : connection.db.PreparesQuery query p)
      (error : Error) (h : D1.Fails (D1.UnreadableRaw none) (statements.raw p s).1 error) :
      Answered connection statements s (.call .fetchMany query) error
  | fetchOptional (query : Query) (p : P) (hprepares : connection.db.PreparesQuery query p)
      (error : Error) (h : D1.Fails (D1.UnreadableRaw (some 1)) (statements.raw p s).1 error) :
      Answered connection statements s (.call .fetchOptional query) error
  | executeBatch (queries : List Query) (error : Error)
      (h : connection.BatchAnswered s queries error) :
      Answered connection statements s (.executeBatch queries) error
  | fetchBatch (queries : List Query) (error : Error)
      (h : connection.BatchAnswered s queries error) :
      Answered connection statements s (.fetchBatch queries) error

theorem raises_callPrepared {method : Method} {query : Query} {p : P}
    (hprepares : connection.db.PreparesQuery query p) (s : DB) :
    Raises (connection.Answered statements s (.call method query))
      (outcome (D1.Executor.callPrepared statements method p s)) := by
  cases method with
  | execute =>
      exact (raises_run_map (D1.raises_run statements p s) _).mono
        (.run .execute (.inl rfl) query p hprepares)
  | executeMany =>
      exact (raises_run_map (D1.raises_run statements p s) _).mono
        (.run .executeMany (.inr rfl) query p hprepares)
  | fetchMany =>
      exact (raises_run_map (D1.raises_fetch statements p none s) _).mono
        (.fetchMany query p hprepares)
  | fetchOptional =>
      exact (raises_run_map (D1.raises_fetch statements p (some 1) s) _).mono
        (.fetchOptional query p hprepares)

/-- What a request is answered with. -/
theorem answered_of_sends {op : D1.Operation} {request : DB → D1.Reply × DB}
    (h : connection.service statements op = .sends request) (s : DB) :
    ∀ error ∈ (request s).1.errors, connection.Answered statements s op error := by
  have hbatch : ∀ queries make, Reports make →
      connection.batchService queries make = .sends request →
        ∀ error ∈ (request s).1.errors, connection.BatchAnswered s queries error := by
    intro queries make hmake hsends error herror
    rw [batchService] at hsends
    split at hsends
    · cases hsends
    · next hne =>
        split at hsends
        · cases hsends
        · next ps hprepared =>
            cases hsends
            exact ⟨by simpa using hne, ps, preparesQuery_of_prepared hprepared,
              D1.raises_batch connection.db ps s error (hmake _ _ herror)⟩
  intro error herror
  cases op with
  | call method query =>
      rw [service] at h
      split at h
      · cases h
      · next p hprepare =>
          cases h
          exact raises_callPrepared (preparesQuery_of_prepare hprepare) s error
            (mem_errorOf.mp herror)
  | executeBatch queries =>
      exact .executeBatch queries error (hbatch queries _ reports_resultsOf h error herror)
  | fetchBatch queries =>
      exact .fetchBatch queries error (hbatch queries _ reports_itemsOf h error herror)
  | formality formality => cases h

/-- **What goes wrong with a D1 query, whatever D1 answers**: in every
interleaving, an error that a future resolves to is of an operation that was
never sent, and says why it could not be; or the operation was served, after
those before it, and the error is what D1 threw at it then, or says what cannot
be read of what D1 answered. -/
theorem concurrent_errors (connection : D1Connection DB P) (statements : D1Statements DB P)
    (s : DB) (labels : List (Server.Label D1.Operation)) {t : Server D1.Operation D1.Reply DB}
    (hrun : Machine.run (Server.step (connection.service statements)) (.start s) labels = some t) :
    ∀ i op reply error, t.Resolved i op reply → error ∈ reply.errors →
      ((∀ entry ∈ t.served, entry.1 ≠ i) ∧ connection.Unsent op error) ∨
        ∃ k : ℕ, t.served[k]? = some (i, op) ∧
          connection.Answered statements (Server.session (connection.perform statements)
            ((t.served.map Prod.snd).take k) s).2 op error := by
  have hsound : t.Sound (connection.service statements) s := Server.sound_of_run hrun
  rintro i op reply error ⟨dropped, hfuture⟩ herror
  rcases hsound.told i _ hfuture with ⟨hready, hunserved⟩ | ⟨k, hk, hreply⟩
  · exact .inl ⟨hunserved, unsent_of_ready hready error herror⟩
  · have hop : (t.served.map Prod.snd)[k]? = some op := by
      rw [List.getElem?_map, hk]
      rfl
    obtain ⟨request, hsends⟩ := hsound.sends _ (List.mem_of_getElem? hk)
    rw [(Server.session_at _ hop s).2, Server.alone, hsends, Option.some.injEq] at hreply
    rw [← hreply] at herror
    rw [perform_eq_alone]
    exact .inr ⟨k, hk, answered_of_sends hsends _ error herror⟩

end D1Connection

end

/-- Two inserts: the second, whose new row has a BigInt in it, was served after
the first, and the error says what cannot be read. -/
theorem D1Connection.concurrent_errors_bigint :
    letI := JsDebug.describing
    ∃ (op : D1.Operation) (t : Server D1.Operation D1.Reply ℕ) (error : Error),
      t.Resolved 1 op (.answer (.error error)) ∧ t.state = 2 ∧
        D1Connection.Answered ⟨.inserting (.other "BigInt(1)")⟩
          (.inserting (.other "BigInt(1)")) 1 op error := by
  let := JsDebug.describing
  let connection : D1Connection ℕ String := ⟨.inserting (.other "BigInt(1)")⟩
  let statements : D1Statements ℕ String := .inserting (.other "BigInt(1)")
  let first : D1.Operation := .call .execute ⟨"INSERT INTO t VALUES (1)", .ok none⟩
  let op : D1.Operation := .call .fetchMany ⟨"INSERT INTO t VALUES (1) RETURNING id", .ok none⟩
  have hrun : ∃ (t : Server D1.Operation D1.Reply ℕ) (error : Error),
      Machine.run (Server.step (connection.service statements)) (.start 0)
        [.make first, .make op, .poll 0, .poll 1, .serve 0, .serve 1, .poll 1] = some t ∧
        t.Resolved 1 op (.answer (.error error)) ∧ t.served = [(0, first), (1, op)] ∧
        t.state = 2 := ⟨_, _, rfl, ⟨_, rfl⟩, rfl, rfl⟩
  obtain ⟨t, error, hrun, hresolved, hserved, hstate⟩ := hrun
  refine ⟨op, t, error, hresolved, hstate, ?_⟩
  have herror : error ∈ (D1.Reply.answer (.error error)).errors := List.mem_singleton_self error
  rcases D1Connection.concurrent_errors _ _ 0 _ hrun 1 op _ error hresolved herror with
    ⟨hunserved, _⟩ | ⟨k, hk, hanswered⟩
  · rw [hserved] at hunserved
    exact absurd rfl (hunserved (1, op) (by simp))
  · rw [hserved] at hk hanswered
    match k with
    | 0 => cases hk
    | 1 => exact hanswered
    | k + 2 => cases hk

end SqlxCloudflare
