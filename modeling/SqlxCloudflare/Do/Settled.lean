import SqlxCloudflare.Do.Tabular

/-!
# SqlxCloudflare.Do.Settled

What a query comes to, whichever method of the executor runs it.  A method that
reports what was done asks for SQLite's counts afterwards, and the others do
not; all of them refine `SqlStorage.apply`.

* `execute_cases`, `call_settles` -- what `execute` and a call of the executor
  come to;
* `settled` -- so the methods all leave the same, and the one failure that
  leaves an effect is counts that cannot be reported.
-/

namespace SqlxCloudflare

open Executor Fallible

variable {DB : Type}

/-! ## one call -/

/-- The methods that report what a statement did. -/
def Executor.Method.reports : Method → Bool
  | .execute | .executeMany => true
  | .fetchMany | .fetchOptional => false

section

variable [JsDebug] {storage : SqlStorage DB}

/-- What a call comes to, case by case. -/
inductive Settles (c : storage.Counts) (method : Method) (query : Query) (db : DB) :
    EStateM.Result (Stop Error) DB Answer → Prop where
  | notSent (source : BoxDynError) (hsent : query.sent = none) :
      Settles c method query db (.error (.err (.encode source)) db)
  | throws (parameters : List JsValue) (error : JsValue) (final : DB)
      (hsent : query.sent = some parameters)
      (h : storage.Throws query.sql parameters db error final) :
      Settles c method query db (.error (.err (databaseError error)) final)
  | answers (parameters : List JsValue) (cursor : Cursor DB) (rows : List JsValue) (final : DB)
      (answer : Answer) (hsent : query.sent = some parameters)
      (h : storage.Completes query.sql parameters db cursor rows final)
      (hreports : method.reports = true → c.Reports cursor final) :
      Settles c method query db (.ok answer final)
  /-- The statement is done, and the counts cannot be read. -/
  | notReported (parameters : List JsValue) (cursor : Cursor DB) (rows : List JsValue)
      (final : DB) (source : BoxDynError) (hsent : query.sent = some parameters)
      (h : storage.Completes query.sql parameters db cursor rows final)
      (hmethod : method.reports = true) (hreports : ¬c.Reports cursor final) :
      Settles c method query db (.error (.err (.decode source)) final)

variable {query : Query} {db : DB}

/-- A method that only reads rows. -/
theorem settles_rows (h : storage.Tabular) (c : storage.Counts) {method : Method}
    (hmethod : method.reports = false) {arguments : List Value} {parameters : List JsValue}
    (hsent : query.sent = some parameters) (hbind : toJsArray arguments = .ok parameters)
    (limit : Option ℕ) (answer : List Row → Answer) :
    Settles c method query db (returning (do
      let (rows, _) ← fetch storage query.sql arguments limit
      return answer rows : EStateM Error DB Answer) db) := by
  rcases fetch_cases h hbind limit db with
    ⟨error, final, hthrows, hfetch⟩ | ⟨cursor, values, final, rs, hcompletes, hfetch⟩
  · rw [run_returning_of_error (run_bind_of_error hfetch)]
    exact .throws parameters error final hsent hthrows
  · have hread : (do
        let (rows, _) ← fetch storage query.sql arguments limit
        return answer rows : EStateM Error DB Answer) db = .ok (answer rs) final :=
      run_bind_of_ok hfetch
    rw [run_returning_of_ok hread]
    refine .answers parameters cursor values final (answer rs) hsent hcompletes fun hreports => ?_
    rw [hmethod] at hreports
    cases hreports

/-- What `execute` comes to once its statement is sent: it throws, it completes
and can be reported, or it completes and cannot. -/
theorem execute_cases (h : storage.Tabular) (c : storage.Counts) (sql : String)
    {arguments : List Value} {parameters : List JsValue}
    (hbind : toJsArray arguments = .ok parameters) (limit : Option ℕ) (db : DB) :
    (∃ error final, storage.Throws sql parameters db error final ∧
        execute storage sql arguments limit db = .error (.err (databaseError error)) final) ∨
      ∃ cursor values final, storage.Completes sql parameters db cursor values final ∧
        ((c.Reports cursor final ∧
            ∃ entry, execute storage sql arguments limit db = .ok entry final) ∨
          (¬c.Reports cursor final ∧
            ∃ source, execute storage sql arguments limit db =
              .error (.err (.decode source)) final)) := by
  rcases fetch_cases h hbind limit db with
    ⟨error, final, hthrows, hfetch⟩ | ⟨cursor, values, final, rs, hcompletes, hfetch⟩
  · exact .inl ⟨error, final, hthrows, execute_of_fetch_error hfetch⟩
  · refine .inr ⟨cursor, values, final, hcompletes, ?_⟩
    by_cases hwritten : (asU64 cursor.rowsWritten).val = 0
    · exact .inl ⟨.inl hwritten, _, execute_of_wrote_nothing hfetch hwritten⟩
    by_cases hreportable : Reportable (c.changes final) (c.lastInsertRowid final)
    · exact .inl ⟨.inr hreportable, _, execute_of_reportable c hfetch hwritten hreportable⟩
    · exact .inr ⟨fun hreports => hreports.elim hwritten hreportable,
        execute_of_not_reportable c hfetch hwritten hreportable⟩

/-- A method that reports what was done. -/
theorem settles_run (h : storage.Tabular) (c : storage.Counts) {method : Method}
    (hmethod : method.reports = true) {arguments : List Value} {parameters : List JsValue}
    (hsent : query.sent = some parameters) (hbind : toJsArray arguments = .ok parameters)
    (answer : QueryResult → Answer) :
    Settles c method query db ((answer <$> run storage query.sql arguments) db) := by
  rcases execute_cases h c query.sql hbind (some 0) db with
    ⟨error, final, hthrows, hexecute⟩ | ⟨cursor, values, final, hcompletes, hcounted⟩
  · have hrun : run storage query.sql arguments db = .error (.err (databaseError error)) final :=
      run_map_of_error hexecute
    rw [run_map_of_error hrun]
    exact .throws parameters error final hsent hthrows
  · rcases hcounted with ⟨hreports, entry, hexecute⟩ | ⟨hreports, source, hexecute⟩
    · have hrun : run storage query.sql arguments db = .ok entry.2 final := run_map_of_ok hexecute
      rw [run_map_of_ok hrun]
      exact .answers parameters cursor values final _ hsent hcompletes fun _ => hreports
    · have hrun : run storage query.sql arguments db = .error (.err (.decode source)) final :=
        run_map_of_error hexecute
      rw [run_map_of_error hrun]
      exact .notReported parameters cursor values final source hsent hcompletes hmethod hreports

theorem call_of_arguments_error {source : BoxDynError} (h : query.arguments = .error source)
    (method : Method) : call storage method query db = .error (.err (.encode source)) db := by
  have htake : take query = .error (.encode source) := by
    rw [take, h]
    rfl
  cases method <;>
    simp only [call, Executor.execute, executeMany, fetchMany, fetchOptional, htake] <;> rfl

/-- What a method does with the arguments it was given. -/
theorem call_of_arguments_ok {arguments : Option Arguments} (h : query.arguments = .ok arguments)
    (method : Method) : call storage method query db =
      match method with
      | .execute => (.executed <$> run storage query.sql (argumentsOf arguments)) db
      | .executeMany =>
        ((fun result => .executedMany [result]) <$>
          run storage query.sql (argumentsOf arguments)) db
      | .fetchMany => returning (do
          let (rows, _) ← fetch storage query.sql (argumentsOf arguments) none
          return .rows rows : EStateM Error DB Answer) db
      | .fetchOptional => returning (do
          let (rows, _) ← fetch storage query.sql (argumentsOf arguments) (some 1)
          return .row rows.head? : EStateM Error DB Answer) db := by
  have htake : ∀ {α : Type} (f : String × Option Arguments → EStateM Error DB α),
      (lift (take query) >>= f) = f (query.sql, arguments) := by
    intro α f
    rw [take, h]
    rfl
  have htake' : ∀ {α : Type} (f : String × Option Arguments → EStateM (Stop Error) DB α),
      (lift (returns (take query)) >>= f) = f (query.sql, arguments) := by
    intro α f
    rw [take, h]
    rfl
  cases method with
  | execute => simp only [call, Executor.execute, htake']
  | executeMany =>
      simp only [call, executeMany, Executor.execute, htake', bind_pure_comp, Functor.map_map]
  | fetchMany => simp only [call, fetchMany, htake, ← returning_map, map_bind, map_pure]
  | fetchOptional => simp only [call, fetchOptional, htake, ← returning_map, map_bind, map_pure]

/-- Nothing is run when a parameter cannot be sent. -/
theorem call_of_toJsArray_error {arguments : Option Arguments}
    (h : query.arguments = .ok arguments) {error : Error}
    (hbind : toJsArray (argumentsOf arguments) = .error error) (method : Method) :
    call storage method query db = .error (.err error) db := by
  have hfetch : ∀ limit, fetch storage query.sql (argumentsOf arguments) limit db =
      .error error db := fun limit => fetch_of_toJsArray_error hbind limit
  have hrun : run storage query.sql (argumentsOf arguments) db = .error (.err error) db :=
    run_of_fetch_error (hfetch _)
  rw [call_of_arguments_ok h]
  cases method with
  | execute => exact run_map_of_error hrun
  | executeMany => exact run_map_of_error hrun
  | fetchMany => exact run_returning_of_error (run_bind_of_error (hfetch _))
  | fetchOptional => exact run_returning_of_error (run_bind_of_error (hfetch _))

/-- A call comes to one of the four. -/
theorem call_settles (h : storage.Tabular) (c : storage.Counts) (method : Method) (query : Query)
    (db : DB) : Settles c method query db (call storage method query db) := by
  rcases sent_cases query with ⟨source, hsent, hargs⟩ | ⟨arguments, hargs, hsent⟩
  · rw [call_of_arguments_error hargs]
    exact .notSent source hsent
  · rcases hsent with ⟨source, hsent, hbind⟩ | ⟨parameters, hsent, hbind⟩
    · rw [call_of_toJsArray_error hargs hbind]
      exact .notSent source hsent
    · rw [call_of_arguments_ok hargs]
      cases method with
      | execute => exact settles_run h c rfl hsent hbind _
      | executeMany => exact settles_run h c rfl hsent hbind _
      | fetchMany =>
          have hmethod : Method.fetchMany.reports = false := rfl
          exact settles_rows h c hmethod hsent hbind none _
      | fetchOptional =>
          have hmethod : Method.fetchOptional.reports = false := rfl
          exact settles_rows h c hmethod hsent hbind (some 1) fun rows => .row rows.head?

/-- Whichever it is, it does not panic. -/
theorem call_returns (h : storage.Tabular) (c : storage.Counts) (method : Method) (query : Query)
    (db : DB) : ∃ result, outcome (call storage method query db) = returns result := by
  have hsettles := call_settles h c method query db
  generalize call storage method query db = called at hsettles
  cases hsettles with
  | notSent source => exact ⟨.error (.encode source), rfl⟩
  | throws parameters error => exact ⟨.error (databaseError error), rfl⟩
  | answers parameters cursor rows final answer => exact ⟨.ok answer, rfl⟩
  | notReported parameters cursor rows final source => exact ⟨.error (.decode source), rfl⟩

/-! ## what a call leaves -/

/-- Every method leaves what the query's statement leaves, run to its end, or
nothing. -/
theorem stateOf_call (h : storage.Tabular) (hrestores : storage.Restores) (c : storage.Counts)
    (method : Method) (query : Query) (db : DB) :
    stateOf (call storage method query db) = storage.apply query db := by
  cases hcall : call storage method query db with
  | ok answer final =>
      have hsettles := call_settles h c method query db
      rw [hcall] at hsettles
      cases hsettles with
      | answers parameters cursor rows _ _ hsent hcompletes =>
          exact (apply_of_completes hsent hcompletes).symm
  | error stop final =>
      have hsettles := call_settles h c method query db
      rw [hcall] at hsettles
      cases hsettles with
      | notSent source hsent => exact (apply_of_not_sent hsent).symm
      | throws parameters error _ hsent hthrows =>
          rw [apply_of_throws hsent hthrows]
          exact hrestores _ _ _ _ _ hthrows
      | notReported parameters cursor rows _ source hsent hcompletes =>
          exact (apply_of_completes hsent hcompletes).symm

/-- The query's statement completes, and what it did can be reported if the
method reports it. -/
def Executor.Method.Succeeds (c : storage.Counts) (method : Method) (query : Query) (db : DB) :
    Prop :=
  ∃ parameters cursor rows final, query.sent = some parameters ∧
    storage.Completes query.sql parameters db cursor rows final ∧
      (method.reports = true → c.Reports cursor final)

/-- Why a call fails. -/
inductive Executor.Method.Fails (c : storage.Counts) (method : Method) (query : Query) (db : DB) :
    Error → Prop where
  | notSent (source : BoxDynError) (hsent : query.sent = none) : Fails c method query db
      (.encode source)
  | throws (parameters : List JsValue) (error : JsValue) (final : DB)
      (hsent : query.sent = some parameters)
      (h : storage.Throws query.sql parameters db error final) :
      Fails c method query db (databaseError error)
  | notReported (source : BoxDynError) (hmethod : method.reports = true)
      (h : Method.fetchMany.Succeeds c query db) (hreports : ¬method.Succeeds c query db) :
      Fails c method query db (.decode source)

omit [JsDebug] in
/-- A statement completes in one way. -/
theorem SqlStorage.Completes.unique {sql : String} {parameters : List JsValue}
    {cursor cursor' : Cursor DB} {rows rows' : List JsValue} {final final' : DB}
    (h : storage.Completes sql parameters db cursor rows final)
    (h' : storage.Completes sql parameters db cursor' rows' final') :
    cursor = cursor' ∧ final = final' := by
  have hexec := h.exec
  rw [h'.exec] at hexec
  cases hexec
  have hend := h.toEnd
  rw [h'.toEnd] at hend
  cases hend
  exact ⟨rfl, rfl⟩

/-- **Every method settles its query the same way**: all four leave the
statement run to its end, or nothing; a call succeeds exactly when its
statement completes and, if the method reports what it did, that can be
reported; and of the three ways to fail, only counts that cannot be reported
come after an effect.  The storage is one that answers as documented: in
tables, with SQLite's counts, and a statement that throws has no effect. -/
theorem settled (h : storage.Tabular) (hrestores : storage.Restores) (c : storage.Counts)
    (method : Method) (query : Query) (db : DB) :
    stateOf (call storage method query db) = storage.apply query db ∧
      ((outcome (call storage method query db)).isOk = true ↔ method.Succeeds c query db) ∧
      ∀ stop, outcome (call storage method query db) = .error stop →
        ∃ error, stop = .err error ∧ method.Fails c query db error := by
  refine ⟨stateOf_call h hrestores c method query db, ?_, fun stop hstop => ?_⟩
  · have hsettles := call_settles h c method query db
    cases hcall : call storage method query db with
    | ok answer final =>
        rw [hcall] at hsettles
        cases hsettles with
        | answers parameters cursor rows _ _ hsent hcompletes hreports =>
            exact iff_of_true rfl ⟨parameters, cursor, rows, final, hsent, hcompletes, hreports⟩
    | error stop final =>
        rw [hcall] at hsettles
        refine iff_of_false (by simp [outcome, Except.isOk, Except.toBool]) ?_
        rintro ⟨parameters, cursor, rows, final', hsent, hcompletes, hreports⟩
        cases hsettles with
        | notSent source hnone =>
            rw [hnone] at hsent
            cases hsent
        | throws parameters' error _ hsent' hthrows =>
            rw [hsent'] at hsent
            cases hsent
            have hcompleted := completed_of_completes hcompletes
            rw [completed_of_throws hthrows] at hcompleted
            cases hcompleted
        | notReported parameters' cursor' rows' _ source hsent' hcompletes' hmethod hnot =>
            rw [hsent'] at hsent
            cases hsent
            obtain ⟨rfl, rfl⟩ := hcompletes.unique hcompletes'
            exact hnot (hreports hmethod)
  · have hsettles := call_settles h c method query db
    cases hcall : call storage method query db with
    | ok answer final =>
        rw [hcall] at hstop
        cases hstop
    | error stop' final =>
        rw [hcall] at hstop hsettles
        cases hstop
        cases hsettles with
        | notSent source hnone => exact ⟨_, rfl, .notSent source hnone⟩
        | throws parameters error _ hsent hthrows =>
            exact ⟨_, rfl, .throws parameters error final hsent hthrows⟩
        | notReported parameters cursor rows _ source hsent hcompletes hmethod hnot =>
            refine ⟨_, rfl, ?_⟩
            refine .notReported source hmethod
              ⟨parameters, cursor, rows, final, hsent, hcompletes, fun hfetch => by cases hfetch⟩ ?_
            rintro ⟨parameters', cursor', rows', final', hsent', hcompletes', hreports⟩
            rw [hsent'] at hsent
            cases hsent
            obtain ⟨rfl, rfl⟩ := hcompletes.unique hcompletes'
            exact hnot (hreports hmethod)

end

/-- An insert that is run for its rows. -/
theorem settled_insert :
    letI := JsDebug.describing
    stateOf (call Memory.storage .fetchMany (Memory.query "INSERT INTO t VALUES (1)") .empty) =
      Memory.empty.inserted Memory.one := by
  let := JsDebug.describing
  have hleaves := (settled Memory.tabular Memory.restores Memory.counts .fetchMany
    (Memory.query "INSERT INTO t VALUES (1)") .empty).1
  have hstep : Memory.step .empty [] (.insert Memory.one) =
      .ok (Memory.written 1 (Memory.empty.inserted Memory.one)) := rfl
  exact hleaves.trans (apply_of_completes rfl (Memory.completes_of_step rfl [] hstep rfl))

end SqlxCloudflare
