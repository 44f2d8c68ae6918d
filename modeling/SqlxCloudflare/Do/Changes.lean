import SqlxCloudflare.Do.Counts
import SqlxCloudflare.Machine

/-!
# SqlxCloudflare.Do.Changes

Which statement a change count belongs to.  `changes()` outlives the statement
that set it, and the driver's only guard is that the cursor wrote rows -- which
a schema statement does, to the schema table, without setting `changes()`.

The statements are the `execute` futures of a program, polled in any order;
each runs in the database it is polled in.

* `rowsAffected_iff` -- one statement: its report is its own count exactly when
  it is an `INSERT`, `UPDATE` or `DELETE`, or there was no count left behind,
  or it wrote nothing;
* `changes_attributed` -- every statement of every run.
-/

namespace SqlxCloudflare

open Fallible

/-! ## `changes()`, as SQLite documents it -/

/-- The counts of a storage whose `changes()` only a completed `INSERT`,
`UPDATE` or `DELETE` sets, to the number of rows it affected, and whose cursors
count every row written, to any table. -/
structure SqlStorage.Changes {DB : Type} (storage : SqlStorage DB) extends
    SqlStorage.Counts storage where
  /-- The statement is an `INSERT`, `UPDATE` or `DELETE`. -/
  modifies : String → Bool
  /-- The rows it inserts, updates or deletes. -/
  affected : String → List JsValue → DB → ℕ
  changes_of_modifies : ∀ {sql parameters db cursor rows final},
    storage.Completes sql parameters db cursor rows final → modifies sql = true →
      (changes final).val = affected sql parameters db
  changes_of_not_modifies : ∀ {sql parameters db cursor rows final},
    storage.Completes sql parameters db cursor rows final → modifies sql = false →
      changes final = changes db
  written_of_affected : ∀ {sql parameters db cursor rows final},
    storage.Completes sql parameters db cursor rows final → modifies sql = true →
      affected sql parameters db ≠ 0 → (asU64 cursor.rowsWritten).val ≠ 0

namespace SqlStorage.Changes

variable {DB : Type} {storage : SqlStorage DB}

/-- The rows a statement itself inserts, updates or deletes: none, unless it is
an `INSERT`, `UPDATE` or `DELETE`. -/
def own (c : storage.Changes) (sql : String) (parameters : List JsValue) (db : DB) : ℕ :=
  if c.modifies sql then c.affected sql parameters db else 0

/-- The report of a query run in `before` is the query's own count. -/
def Attributed (c : storage.Changes) (query : Query) (before : DB) (result : QueryResult) : Prop :=
  ∀ parameters, query.Sends parameters →
    result.rowsAffected.val = c.own query.sql parameters before

/-- The count after the query, run in `before`, cannot be another's: the query
sets it, or it was 0, or it is not asked for. -/
def Attributable (c : storage.Changes) (query : Query) (before : DB) : Prop :=
  c.modifies query.sql = true ∨ (c.changes before).val = 0 ∨
    ∀ parameters cursor rows final, query.Sends parameters →
      storage.Completes query.sql parameters before cursor rows final →
        (asU64 cursor.rowsWritten).val = 0

end SqlStorage.Changes

/-! ## one statement -/

section

variable {DB : Type} {storage : SqlStorage DB}

/-- A query sends one list of parameters. -/
theorem Query.Sends.unique {query : Query} {parameters parameters' : List JsValue}
    (h : query.Sends parameters) (h' : query.Sends parameters') : parameters = parameters' := by
  obtain ⟨arguments, harguments, hbind⟩ := h
  obtain ⟨arguments', harguments', hbind'⟩ := h'
  rw [harguments] at harguments'
  cases harguments'
  rw [hbind] at hbind'
  exact Except.ok.inj hbind'

variable [JsDebug]

/-- A successful report is the statement's own count exactly when it cannot be
another's. -/
theorem rowsAffected_iff (c : storage.Changes) {query : Query} {before after : DB}
    {result : QueryResult} (h : Executor.execute storage query before = .ok result after) :
    c.Attributed query before result ↔ c.Attributable query before := by
  obtain ⟨parameters, cursor, hreported⟩ := reported_of_execute c.toCounts h
  obtain ⟨rows, hcompletes⟩ := hreported.completes
  have hown : c.Attributed query before result ↔
      result.rowsAffected.val = c.own query.sql parameters before := by
    refine ⟨fun hattr => hattr parameters hreported.sends, fun hval parameters' hsends => ?_⟩
    rw [hsends.unique hreported.sends]
    exact hval
  rw [hown, SqlStorage.Changes.own]
  rcases hreported.counts with ⟨hwritten, rfl⟩ | ⟨hwritten, hreportable, rfl⟩
  · -- nothing was written, so the report is 0, and so is the statement's count
    have hzero : c.modifies query.sql = true →
        c.affected query.sql parameters before = 0 := fun hmodifies => by
      by_contra hne
      exact c.written_of_affected hcompletes hmodifies hne hwritten
    refine iff_of_true ?_ (.inr (.inr ?_))
    · split
      · next hmodifies => rw [hzero hmodifies]; rfl
      · rfl
    · intro parameters' cursor' rows' final' hsends hcompletes'
      have hexec := hcompletes'.exec
      rw [hsends.unique hreported.sends, hcompletes.exec] at hexec
      cases hexec
      exact hwritten
  · have hval : hreportable.result.rowsAffected.val = (c.changes after).val := rfl
    rw [hval]
    cases hmodifies : c.modifies query.sql with
    | true =>
        refine iff_of_true ?_ (.inl hmodifies)
        rw [if_pos rfl]
        exact c.changes_of_modifies hcompletes hmodifies
    | false =>
        rw [c.changes_of_not_modifies hcompletes hmodifies]
        constructor
        · exact fun hleft => .inr (.inl hleft)
        · rintro (htrue | hleft | hnothing)
          · rw [hmodifies] at htrue
            cases htrue
          · exact hleft
          · exact absurd (hnothing _ _ _ _ hreported.sends hcompletes) hwritten

end

/-! ## the futures of a program -/

/-- A future `execute` returned: not polled yet, or ready, having run in
`before`. -/
inductive ExecuteFuture (DB : Type) where
  | pending (query : Query)
  | ready (query : Query) (before : DB) (result : Except Error QueryResult)

/-- A program's futures, and the database they share. -/
structure Futures (DB : Type) where
  db : DB
  futures : List (ExecuteFuture DB)

/-- The futures of `queries`, none of them polled. -/
def Futures.start {DB : Type} (db : DB) (queries : List Query) : Futures DB :=
  ⟨db, queries.map .pending⟩

section

variable {DB : Type} {storage : SqlStorage DB} [JsDebug]

/-- Polls the `i`-th future: it finishes on its first poll, and is not polled
again. -/
def poll (storage : SqlStorage DB) (i : ℕ) (s : Futures DB) : Option (Futures DB) :=
  match s.futures[i]? with
  | some (.pending query) =>
    match Executor.execute storage query s.db with
    | .ok result db => some ⟨db, s.futures.set i (.ready query s.db (.ok result))⟩
    | .error (.err error) db => some ⟨db, s.futures.set i (.ready query s.db (.error error))⟩
    -- There is nobody left to poll anything after a panic.
    | .error (.panic _) _ => none
  | _ => none

theorem poll_of_ok {i : ℕ} {s : Futures DB} {query : Query} {result : QueryResult} {db : DB}
    (hpending : s.futures[i]? = some (.pending query))
    (hok : Executor.execute storage query s.db = .ok result db) :
    poll storage i s = some ⟨db, s.futures.set i (.ready query s.db (.ok result))⟩ := by
  rw [poll, hpending]
  simp only [hok]

/-- The condition on a step: the future it polls is of a query whose count
cannot be another's. -/
def PollAttributable (c : storage.Changes) (i : ℕ) (s : Futures DB) : Prop :=
  ∀ query, s.futures[i]? = some (.pending query) → c.Attributable query s.db

/-- A future that is ready returned what `execute` returns in the database it
ran in. -/
def ExecuteFuture.Ran (storage : SqlStorage DB) : ExecuteFuture DB → Prop
  | .pending _ => True
  | .ready query before result => match result with
    | .ok result => ∃ after, Executor.execute storage query before = .ok result after
    | .error error => ∃ after, Executor.execute storage query before = .error (.err error) after

/-- What polling a future does: it runs its query in the current database. -/
theorem poll_cases {i : ℕ} {s t : Futures DB} (h : poll storage i s = some t) :
    ∃ query result, s.futures[i]? = some (.pending query) ∧
      (ExecuteFuture.ready query s.db result).Ran storage ∧
      t.futures = s.futures.set i (.ready query s.db result) := by
  unfold poll at h
  split at h
  · next query hpending =>
      split at h
      · next result db hok =>
          cases h
          exact ⟨query, .ok result, hpending, ⟨db, hok⟩, rfl⟩
      · next error db herror =>
          cases h
          exact ⟨query, .error error, hpending, ⟨db, herror⟩, rfl⟩
      · cases h
  · cases h

theorem ran_of_run {polls : List ℕ} {s t : Futures DB}
    (h0 : ∀ future ∈ s.futures, future.Ran storage)
    (h : Machine.run (poll storage) s polls = some t) :
    ∀ future ∈ t.futures, future.Ran storage := by
  refine Machine.invariant (I := fun s => ∀ future ∈ s.futures, future.Ran storage)
    (fun i s t hs hstep => ?_) h0 h
  obtain ⟨query, result, _, hran, hfutures⟩ := poll_cases hstep
  intro future hmem
  rw [hfutures] at hmem
  rcases List.mem_or_eq_of_mem_set hmem with hold | rfl
  · exact hs future hold
  · exact hran

/-- The queries of the futures that are ready met the condition when they were
polled. -/
def ReadyAttributable (c : storage.Changes) (s : Futures DB) : Prop :=
  ∀ query before result, .ready query before result ∈ s.futures → c.Attributable query before

theorem readyAttributable_of_run (c : storage.Changes) {polls : List ℕ} {s t : Futures DB}
    (h0 : ReadyAttributable c s)
    (hC : Machine.Along (poll storage) (PollAttributable c) s polls)
    (h : Machine.run (poll storage) s polls = some t) : ReadyAttributable c t := by
  refine Machine.invariant_along (fun i s t hs hcond hstep => ?_) h0 hC h
  obtain ⟨query, result, hpending, _, hfutures⟩ := poll_cases hstep
  intro query' before result' hmem
  rw [hfutures] at hmem
  rcases List.mem_or_eq_of_mem_set hmem with hold | hnew
  · exact hs query' before result' hold
  · cases hnew
    exact hcond query hpending

/-- **Change counts are attributed to the right statement** in every run whose
polls each meet the condition; and in any run at all, a statement's report is
its own count exactly when the condition held where it ran. -/
theorem changes_attributed (c : storage.Changes) (db : DB) (queries : List Query)
    (polls : List ℕ) (t : Futures DB)
    (h : Machine.run (poll storage) (.start db queries) polls = some t) :
    (Machine.Along (poll storage) (PollAttributable c) (.start db queries) polls →
        ∀ query before result, .ready query before (.ok result) ∈ t.futures →
          c.Attributed query before result) ∧
      ∀ query before result, .ready query before (.ok result) ∈ t.futures →
        (c.Attributed query before result ↔ c.Attributable query before) := by
  have hran : ∀ future ∈ t.futures, future.Ran storage := by
    refine ran_of_run (fun future hmem => ?_) h
    obtain ⟨query, _, rfl⟩ := List.mem_map.mp hmem
    trivial
  have hiff : ∀ query before result, .ready query before (.ok result) ∈ t.futures →
      (c.Attributed query before result ↔ c.Attributable query before) := by
    intro query before result hmem
    obtain ⟨after, hok⟩ := hran _ hmem
    exact rowsAffected_iff c hok
  refine ⟨fun hC query before result hmem => (hiff query before result hmem).mpr ?_, hiff⟩
  have hstart : ReadyAttributable c (.start db queries) := by
    intro query before result hmem
    obtain ⟨query', _, heq⟩ := List.mem_map.mp hmem
    cases heq
  exact readyAttributable_of_run c hstart hC h query before (.ok result) hmem

end

/-! ## on the storage of one table -/

namespace Memory

/-- Its `changes()`: an insert affects the one row. -/
def changeCounts : storage.Changes where
  toCounts := counts
  modifies sql := (statements.lookup sql).any Statement.inserts
  affected _ _ _ := 1
  changes_of_modifies := by
    intro sql parameters db cursor rows final hcompletes hmodifies
    obtain ⟨statement, hsql, hcases⟩ := completes_cases hcompletes
    rw [hsql] at hmodifies
    rcases hcases with ⟨_, ⟨id, rfl⟩, _⟩ | ⟨hnot, _⟩
    · rfl
    · exact absurd hmodifies hnot
  changes_of_not_modifies := by
    intro sql parameters db cursor rows final hcompletes hmodifies
    obtain ⟨statement, hsql, hcases⟩ := completes_cases hcompletes
    rw [hsql] at hmodifies
    rcases hcases with ⟨hinserts, _⟩ | ⟨_, hchanges⟩
    · exact absurd hinserts (Bool.eq_false_iff.mp hmodifies)
    · exact hchanges
  written_of_affected := by
    intro sql parameters db cursor rows final hcompletes hmodifies _
    obtain ⟨statement, hsql, hcases⟩ := completes_cases hcompletes
    rw [hsql] at hmodifies
    rcases hcases with ⟨_, _, hwritten⟩ | ⟨hnot, _⟩
    · have hone : (asU64 cursor.rowsWritten).val = 1 := by
        rw [hwritten]
        exact val_reads [] [] db (by norm_num) (by norm_num)
      omega
    · exact absurd hmodifies hnot

variable [JsDebug] {db : Memory}

/-- A table is created, and reported with the counts of the last insert. -/
theorem execute_createTable {sql name : String}
    (hsql : statements.lookup sql = some (.createTable name))
    (h : Reportable db.changes db.lastInsertRowid) :
    Executor.execute storage (query sql) db =
      .ok h.result { db with tables := db.tables ++ [name] } := by
  have hcompletes : storage.Completes sql [] db
      (written 1 { db with tables := db.tables ++ [name] }) []
      { db with tables := db.tables ++ [name] } := completes_of_step hsql [] rfl rfl
  have hwritten : (asU64 (written 1
      { db with tables := db.tables ++ [name] }).rowsWritten).val ≠ 0 := by
    rw [written, val_reads _ _ _ (by norm_num) (by norm_num)]
    decide
  rw [execute_of_arguments_ok rfl]
  exact run_of_reportable counts rfl hcompletes (stringNames_written 1) hwritten h

end Memory

/-- An insert, a query of the row and another insert, polled in another order:
each is reported as its own rows. -/
theorem changes_attributed_insert :
    letI := JsDebug.describing
    ∃ t, Machine.run (poll Memory.storage) (.start Memory.empty
          [Memory.query "INSERT INTO t VALUES (1)", Memory.query "SELECT id FROM t",
            Memory.query "INSERT INTO t VALUES (2)"]) [2, 1, 0] = some t ∧
      t.futures = [
        .ready (Memory.query "INSERT INTO t VALUES (1)") (Memory.empty.inserted Memory.two)
          (.ok (Memory.insertResult Memory.one)),
        .ready (Memory.query "SELECT id FROM t") (Memory.empty.inserted Memory.two) (.ok .default),
        .ready (Memory.query "INSERT INTO t VALUES (2)") .empty
          (.ok (Memory.insertResult Memory.two))] ∧
      ∀ query before result, .ready query before (.ok result) ∈ t.futures →
        Memory.changeCounts.Attributed query before result := by
  let := JsDebug.describing
  have htwo : Executor.execute Memory.storage (Memory.query "INSERT INTO t VALUES (2)")
      .empty = .ok (Memory.insertResult Memory.two) (Memory.empty.inserted Memory.two) :=
    Memory.executor_execute_insert rfl (by decide) (by decide)
  have hselect : Executor.execute Memory.storage (Memory.query "SELECT id FROM t")
      (Memory.empty.inserted Memory.two) = .ok .default (Memory.empty.inserted Memory.two) :=
    Memory.executor_execute_select
  have hone : Executor.execute Memory.storage (Memory.query "INSERT INTO t VALUES (1)")
      (Memory.empty.inserted Memory.two) = .ok (Memory.insertResult Memory.one)
        ((Memory.empty.inserted Memory.two).inserted Memory.one) :=
    Memory.executor_execute_insert rfl (by decide) (by decide)
  have hfirst := poll_of_ok (i := 2) (s := .start Memory.empty
    [Memory.query "INSERT INTO t VALUES (1)", Memory.query "SELECT id FROM t",
      Memory.query "INSERT INTO t VALUES (2)"]) rfl htwo
  have hsecond := poll_of_ok (i := 1) (s := ⟨Memory.empty.inserted Memory.two,
    [.pending (Memory.query "INSERT INTO t VALUES (1)"),
      .pending (Memory.query "SELECT id FROM t"),
      .ready (Memory.query "INSERT INTO t VALUES (2)") .empty
        (.ok (Memory.insertResult Memory.two))]⟩) rfl hselect
  have hthird := poll_of_ok (i := 0) (s := ⟨Memory.empty.inserted Memory.two,
    [.pending (Memory.query "INSERT INTO t VALUES (1)"),
      .ready (Memory.query "SELECT id FROM t") (Memory.empty.inserted Memory.two) (.ok .default),
      .ready (Memory.query "INSERT INTO t VALUES (2)") .empty
        (.ok (Memory.insertResult Memory.two))]⟩) rfl hone
  have hrun : Machine.run (poll Memory.storage) (.start Memory.empty
      [Memory.query "INSERT INTO t VALUES (1)", Memory.query "SELECT id FROM t",
        Memory.query "INSERT INTO t VALUES (2)"]) [2, 1, 0] = some _ :=
    (Machine.run_cons_of_step hfirst).trans
      ((Machine.run_cons_of_step hsecond).trans (Machine.run_cons_of_step hthird))
  refine ⟨_, hrun, rfl, (changes_attributed Memory.changeCounts _ _ _ _ hrun).1 ?_⟩
  rw [Machine.along_cons_iff hfirst]
  refine ⟨fun query hpending => ?_, (Machine.along_cons_iff hsecond).mpr
    ⟨fun query hpending => ?_, (Machine.along_cons_iff hthird).mpr
      ⟨fun query hpending => ?_, trivial⟩⟩⟩
  · cases hpending
    exact .inl rfl
  · cases hpending
    refine .inr (.inr fun parameters cursor rows final _ hcompletes => ?_)
    cases hcompletes.exec
    exact Memory.val_reads _ _ _ le_rfl (by norm_num)
  · cases hpending
    exact .inl rfl

/-- A table created after an insert is reported with the insert's row. -/
theorem not_changes_attributed :
    letI := JsDebug.describing
    ¬∀ polls t, Machine.run (poll Memory.storage) (.start Memory.empty
        [Memory.query "INSERT INTO t VALUES (1)", Memory.query "CREATE TABLE u (id INTEGER)"])
        polls = some t →
      ∀ query before result, .ready query before (.ok result) ∈ t.futures →
        Memory.changeCounts.Attributed query before result := by
  let := JsDebug.describing
  intro h
  have hinsert : Executor.execute Memory.storage (Memory.query "INSERT INTO t VALUES (1)")
      .empty = .ok (Memory.insertResult Memory.one) (Memory.empty.inserted Memory.one) :=
    Memory.executor_execute_insert rfl (by decide) (by decide)
  have hcounts : Reportable (Memory.empty.inserted Memory.one).changes
      (Memory.empty.inserted Memory.one).lastInsertRowid := by decide
  have hcreate : Executor.execute Memory.storage (Memory.query "CREATE TABLE u (id INTEGER)")
      (Memory.empty.inserted Memory.one) = .ok hcounts.result _ :=
    Memory.execute_createTable rfl hcounts
  have hfirst := poll_of_ok (i := 0) (s := .start Memory.empty
    [Memory.query "INSERT INTO t VALUES (1)", Memory.query "CREATE TABLE u (id INTEGER)"])
    rfl hinsert
  have hsecond := poll_of_ok (i := 1) (s := ⟨Memory.empty.inserted Memory.one,
    [.ready (Memory.query "INSERT INTO t VALUES (1)") .empty (.ok (Memory.insertResult Memory.one)),
      .pending (Memory.query "CREATE TABLE u (id INTEGER)")]⟩) rfl hcreate
  have hrun : Machine.run (poll Memory.storage) (.start Memory.empty
      [Memory.query "INSERT INTO t VALUES (1)", Memory.query "CREATE TABLE u (id INTEGER)"])
      [0, 1] = some _ :=
    (Machine.run_cons_of_step hfirst).trans (Machine.run_cons_of_step hsecond)
  have hval : (1 : ℤ) = (0 : ℕ) :=
    h [0, 1] _ hrun _ _ _ (List.mem_cons_of_mem _ List.mem_cons_self) [] ⟨none, rfl, rfl⟩
  cases hval

end SqlxCloudflare
