import SqlxCloudflare.Do.Session

/-!
# SqlxCloudflare.Do.Immediate

Transactions whose callback never awaits, as a batch's.  Other futures run
before its one poll, and between its return and the storage's report, but not
in the middle: what it runs stands in one piece, and it resolves to what it
comes to alone, from the state it was polled in.

* `Waiting`, `Polled` -- the two phases of such a transaction;
* `waiting_step`, `polled_step` -- what a step, of whichever future, makes of
  them;
* `one_piece` -- so for every interleaving.
-/

namespace SqlxCloudflare

open Executor Fallible

variable {DB T E : Type}

/-- The callback never awaits, and keeps its handle to itself. -/
inductive Callback.Immediate : Callback T E → Prop where
  | ret (result : Except E T) : Immediate (.ret result)
  | statement (method : Method) (query : Query) {next : Except Error Answer → Callback T E}
      (h : ∀ answer, (next answer).Immediate) : Immediate (.statement method query next)

theorem outcome_ret [JsDebug] (result : Except E T) (tx : DoTransaction DB) (db : DB) :
    outcome ((Callback.ret result).run tx db) = returns result := by
  cases result <;> rfl

theorem stateOf_ret [JsDebug] (result : Except E T) (tx : DoTransaction DB) (db : DB) :
    stateOf ((Callback.ret result).run tx db) = db := by
  cases result <;> rfl

namespace Requests

section

variable [JsDebug]

/-! ## numbers -/

/-- The numbers of the transactions so far are below the next one. -/
structure Numbered (s : Requests DB T E) : Prop where
  history : ∀ r ∈ s.ledger.history, ∀ tx, r.write.via = .handle tx → tx < s.ledger.next
  kept : ∀ tx ∈ s.kept, tx < s.ledger.next
  resolved : ∀ entry ∈ s.resolved, entry.1 < s.ledger.next
  opened : ∀ tx, s.ledger.opened = some tx → tx < s.ledger.next

variable {connection : DoConnection DB} {label : Label T E} {s t u : Requests DB T E} {tx : ℕ}
  {callback : Callback T E}

omit [JsDebug] in
theorem numbered_start (db : DB) : (start db : Requests DB T E).Numbered := by
  constructor <;> simp [start, Ledger.start, Ledger.opened]

theorem Numbered.perform (h : s.Numbered) {via : Via}
    (hvia : ∀ tx, via = .handle tx → tx < s.ledger.next) (connection : DoConnection DB)
    (method : Method) (query : Query) : (s.perform connection via method query).Numbered where
  history := by
    intro r hr tx htx
    rw [history_perform, List.mem_append, List.mem_singleton] at hr
    rcases hr with hold | rfl
    · exact h.history r hold tx htx
    · exact hvia tx htx
  kept := h.kept
  resolved := h.resolved
  opened := h.opened

omit [JsDebug] in
/-- A ledger that has ended its transaction has none open. -/
theorem opened_ended (commits : Bool) (l : Ledger Statement DB) :
    (if commits then l.commit else l.rollback).opened = none := by
  cases commits <;> simp [Ledger.opened]

variable [FromError E]

theorem Numbered.step (h : s.Numbered) (hstep : Requests.step connection label s = some t) :
    t.Numbered := by
  cases step_of_eq_some hstep with
  | begin callback hrunning =>
      refine ⟨fun r hr tx htx => Nat.lt_succ_of_lt (h.history r hr tx htx),
        fun tx htx => Nat.lt_succ_of_lt (h.kept tx htx),
        fun entry hentry => Nat.lt_succ_of_lt (h.resolved entry hentry), fun tx htx => ?_⟩
      cases htx
      exact Nat.lt_succ_self _
  | await next hrunning => exact ⟨h.history, h.kept, h.resolved, h.opened⟩
  | keep next tx hrunning hopened =>
      refine ⟨h.history, fun tx' htx' => ?_, h.resolved, h.opened⟩
      rcases List.mem_cons.mp htx' with rfl | hold
      · exact h.opened _ hopened
      · exact h.kept _ hold
  | statement method query next answer tx hrunning hopened htold =>
      have hvia : ∀ tx', Via.handle tx = .handle tx' → tx' < s.ledger.next := by
        rintro tx' ⟨⟩
        exact h.opened _ hopened
      have hperformed := h.perform hvia connection method query
      exact ⟨hperformed.history, hperformed.kept, hperformed.resolved, hperformed.opened⟩
  | finish report result tx hrunning hopened =>
      have hnext : (if DoConnection.commits result report then s.ledger.commit
          else s.ledger.rollback).next = s.ledger.next := by split <;> simp
      have hhistory : (if DoConnection.commits result report then s.ledger.commit
          else s.ledger.rollback).history = s.ledger.history := by split <;> simp
      constructor
      · simp only [hnext, hhistory]
        exact h.history
      · simp only [hnext]
        exact h.kept
      · simp only [hnext]
        intro entry hentry
        rcases List.mem_cons.mp hentry with rfl | hold
        · exact h.opened _ hopened
        · exact h.resolved _ hold
      · intro tx' htx'
        rw [opened_ended] at htx'
        cases htx'
  | handle tx method query hkept hidle htold =>
      refine h.perform ?_ connection method query
      rintro tx' ⟨⟩
      exact h.kept _ hkept
  | connection method query hidle htold =>
      refine h.perform ?_ connection method query
      rintro tx' ⟨⟩

/-! ## before the poll -/

omit [JsDebug] [FromError E] in
/-- A statement is not through the handle of `tx`. -/
def NotVia (tx : ℕ) (r : Ledger.Record Statement) : Prop := r.write.via ≠ .handle tx

/-- The transaction `tx` is open, and its callback was not polled yet. -/
structure Waiting (tx : ℕ) (callback : Callback T E) (s : Requests DB T E) : Prop where
  running : s.running = some (.await callback)
  opened : s.ledger.opened = some tx
  lt_next : tx < s.ledger.next
  not_kept : tx ∉ s.kept
  unresolved : ∀ entry ∈ s.resolved, entry.1 ≠ tx
  unused : ∀ r ∈ s.ledger.history, NotVia tx r

/-- What a callback has run, and what is left of it, from the state `s` it was
polled in: `block` are its statements, and `after` what was run since. -/
inductive Progress (connection : DoConnection DB) (tx : ℕ) (callback : Callback T E)
    (s : Requests DB T E) (block : List (Ledger.Record Statement)) :
    List (Ledger.Record Statement) → Requests DB T E → Prop where
  /-- In the middle of its poll. -/
  | midway (t : Requests DB T E) (next : Callback T E) (himmediate : next.Immediate)
      (hrunning : t.running = some next) (hbusy : t.idle = false)
      (hopened : t.ledger.opened = some tx) (hunresolved : ∀ entry ∈ t.resolved, entry.1 ≠ tx)
      (hissued : block.map (·.write.query) ++ next.issued connection.handle t.ledger.state =
        callback.issued connection.handle s.ledger.state)
      (hreplay : Ledger.replay (effect connection) s.ledger.state block = t.ledger.state)
      (hrest : next.run connection.handle t.ledger.state =
        callback.run connection.handle s.ledger.state) :
      Progress connection tx callback s block [] t
  /-- It has returned. -/
  | returned (after : List (Ledger.Record Statement)) (t : Requests DB T E) (result : Except E T)
      (hresult : outcome (callback.run connection.handle s.ledger.state) = returns result)
      (hrunning : t.running = some (.ret result))
      (hopened : t.ledger.opened = some tx) (hunresolved : ∀ entry ∈ t.resolved, entry.1 ≠ tx)
      (hissued : block.map (·.write.query) =
        callback.issued connection.handle s.ledger.state)
      (hreplay : Ledger.replay (effect connection) s.ledger.state block =
        stateOf (callback.run connection.handle s.ledger.state)) :
      Progress connection tx callback s block after t
  /-- The transaction has ended. -/
  | ended (after : List (Ledger.Record Statement)) (t : Requests DB T E)
      (report : Except WorkerError Unit) (result : Except E T)
      (hresult : outcome (callback.run connection.handle s.ledger.state) = returns result)
      (hopened : t.ledger.opened ≠ some tx)
      (hresolved : ∀ value, (tx, value) ∈ t.resolved ↔ value = reconcile report (some result))
      (hissued : block.map (·.write.query) =
        callback.issued connection.handle s.ledger.state)
      (hreplay : Ledger.replay (effect connection) s.ledger.state block =
        stateOf (callback.run connection.handle s.ledger.state)) :
      Progress connection tx callback s block after t

/-- The callback of the transaction `tx` was polled in `s`. -/
structure Polled (connection : DoConnection DB) (tx : ℕ) (callback : Callback T E)
    (s : Requests DB T E) (block after : List (Ledger.Record Statement))
    (t : Requests DB T E) : Prop where
  lt_next : tx < t.ledger.next
  not_kept : tx ∉ t.kept
  history : t.ledger.history = s.ledger.history ++ block ++ after
  via : ∀ r ∈ block, r.write.via = .handle tx
  not_via : ∀ r ∈ s.ledger.history ++ after, NotVia tx r
  progress : Progress connection tx callback s block after t

/-- What is left of a callback has returned already, or is in the middle of its
poll. -/
theorem Progress.of_running {block : List (Ledger.Record Statement)} {next : Callback T E}
    (himmediate : next.Immediate) (hrunning : t.running = some next)
    (hopened : t.ledger.opened = some tx) (hunresolved : ∀ entry ∈ t.resolved, entry.1 ≠ tx)
    (hissued : block.map (·.write.query) ++ next.issued connection.handle t.ledger.state =
      callback.issued connection.handle s.ledger.state)
    (hreplay : Ledger.replay (effect connection) s.ledger.state block = t.ledger.state)
    (hrest : next.run connection.handle t.ledger.state =
      callback.run connection.handle s.ledger.state) :
    Progress connection tx callback s block [] t := by
  cases himmediate with
  | ret result =>
      rw [Callback.issued, List.append_nil] at hissued
      refine .returned _ _ result ?_ hrunning hopened hunresolved hissued ?_
      · rw [← hrest, outcome_ret]
      · rw [← hrest, stateOf_ret, hreplay]
  | statement method query hnext =>
      have hbusy : t.idle = false := by rw [idle, hrunning]
      exact .midway _ _ (.statement method query hnext) hrunning hbusy hopened hunresolved hissued
        hreplay hrest

/-- The first poll of the callback. -/
theorem Waiting.polled (h : s.Waiting tx callback) (himmediate : callback.Immediate) :
    Polled connection tx callback s [] [] { s with running := some callback } where
  lt_next := h.lt_next
  not_kept := h.not_kept
  history := by simp
  via := by simp
  not_via := by simpa using h.unused
  progress := .of_running himmediate rfl h.opened h.unresolved rfl rfl rfl

omit [FromError E] in
/-- Another future's statement before the poll. -/
theorem Waiting.perform (h : s.Waiting tx callback) {via : Via} (hvia : via ≠ .handle tx)
    (connection : DoConnection DB) (method : Method) (query : Query) :
    (s.perform connection via method query).Waiting tx callback where
  running := h.running
  opened := h.opened
  lt_next := h.lt_next
  not_kept := h.not_kept
  unresolved := h.unresolved
  unused := by
    intro r hr
    rw [history_perform, List.mem_append, List.mem_singleton] at hr
    rcases hr with hold | rfl
    · exact h.unused r hold
    · exact hvia

/-- Before its poll, nothing but the poll concerns the transaction. -/
theorem waiting_step (h : s.Waiting tx callback) (himmediate : callback.Immediate)
    (hstep : Requests.step connection label s = some t) :
    t.Waiting tx callback ∨
      (label = .callback ∧ Polled connection tx callback s [] [] t) := by
  have hrunning := h.running
  cases step_of_eq_some hstep with
  | begin callback hnone =>
      rw [hrunning] at hnone
      cases hnone
  | await next hawait =>
      rw [hrunning] at hawait
      cases hawait
      exact .inr ⟨rfl, h.polled himmediate⟩
  | keep next tx hkeep hopened =>
      rw [hrunning] at hkeep
      cases hkeep
  | statement method query next answer tx hstatement hopened htold =>
      rw [hrunning] at hstatement
      cases hstatement
  | finish report result tx hret hopened =>
      rw [hrunning] at hret
      cases hret
  | handle tx' method query hkept hidle htold =>
      have hne : Via.handle tx' ≠ .handle tx := by
        rintro ⟨⟩
        exact h.not_kept hkept
      exact .inl (h.perform hne connection method query)
  | connection method query hidle htold =>
      have hne : Via.connection ≠ .handle tx := nofun
      exact .inl (h.perform hne connection method query)

/-! ## after the poll -/

variable {block after : List (Ledger.Record Statement)}

/-- Another future's statement, which waits until the poll is over. -/
theorem Progress.other (h : Progress connection tx callback s block after t)
    (hidle : t.idle = true) (via : Via) (method : Method) (query : Query)
    (r : Ledger.Record Statement) :
    Progress connection tx callback s block (after ++ [r])
      (t.perform connection via method query) := by
  cases h with
  | midway _ next himmediate hrunning hbusy =>
      rw [hidle] at hbusy
      cases hbusy
  | returned _ _ result hresult hrunning hopened hunresolved hissued hreplay =>
      exact .returned _ _ result hresult hrunning hopened hunresolved hissued hreplay
  | ended _ _ report result hresult hopened hresolved hissued hreplay =>
      exact .ended _ _ report result hresult hopened hresolved hissued hreplay

theorem Polled.other (h : Polled connection tx callback s block after t) {via : Via}
    (hvia : via ≠ .handle tx) {method : Method} {query : Query}
    (hledger : u.ledger = (t.perform connection via method query).ledger)
    (hkept : u.kept = t.kept)
    (hprogress : ∀ r, Progress connection tx callback s block (after ++ [r]) u) :
    ∃ after', Polled connection tx callback s block after' u := by
  generalize hr : t.ledger.record
    ⟨via, method, query, succeeds connection via method query t.ledger.state⟩ = r
  refine ⟨after ++ [r], ?_, ?_, ?_, h.via, ?_, hprogress r⟩
  · rw [hledger]
    exact h.lt_next
  · rw [hkept]
    exact h.not_kept
  · rw [hledger, history_perform, h.history, List.append_assoc, hr]
  · intro r' hr'
    rw [← List.append_assoc, List.mem_append, List.mem_singleton] at hr'
    rcases hr' with hold | rfl
    · exact h.not_via r' hold
    · rw [← hr]
      exact hvia

/-- A statement of the callback's own. -/
theorem Polled.statement (h : Polled connection tx callback s block [] t) {method : Method}
    {query : Query} {next : Except Error Answer → Callback T E}
    (himmediate : ∀ answer, (next answer).Immediate) {answer : Except Error Answer}
    (htold : connection.told (.handle tx) method query t.ledger.state = .ok answer)
    (hopened : t.ledger.opened = some tx) (hunresolved : ∀ entry ∈ t.resolved, entry.1 ≠ tx)
    (hissued : block.map (·.write.query) ++
      (Callback.statement method query next).issued connection.handle t.ledger.state =
        callback.issued connection.handle s.ledger.state)
    (hreplay : Ledger.replay (effect connection) s.ledger.state block = t.ledger.state)
    (hrest : (Callback.statement method query next).run connection.handle t.ledger.state =
      callback.run connection.handle s.ledger.state) :
    ∃ block', Polled connection tx callback s block' []
      { t.perform connection (.handle tx) method query with running := some (next answer) } := by
  generalize hr : t.ledger.record ⟨.handle tx, method, query,
    succeeds connection (.handle tx) method query t.ledger.state⟩ = r
  have hreturned : returned (outcome (call connection.handle.sql method query
      t.ledger.state)) = .ok answer := htold
  have hissued' : (block ++ [r]).map (·.write.query) ++
      (next answer).issued connection.handle
        (t.perform connection (.handle tx) method query).ledger.state =
      callback.issued connection.handle s.ledger.state := by
    rw [← hissued, List.map_append, List.append_assoc, ← hr, Callback.issued, hreturned]
    rfl
  have hreplay' : Ledger.replay (effect connection) s.ledger.state (block ++ [r]) =
      (t.perform connection (.handle tx) method query).ledger.state := by
    rw [Ledger.replay_concat, hreplay, ← hr]
    rfl
  have hrest' : (next answer).run connection.handle
      (t.perform connection (.handle tx) method query).ledger.state =
      callback.run connection.handle s.ledger.state := by
    rw [← hrest, run_statement hreturned]
    rfl
  refine ⟨block ++ [r], h.lt_next, h.not_kept, ?_, ?_, h.not_via,
    .of_running (himmediate _) rfl hopened hunresolved hissued' hreplay' hrest'⟩
  · have hhistory := h.history
    rw [List.append_nil] at hhistory ⊢
    rw [history_perform, hhistory, List.append_assoc, hr]
  · intro r' hr'
    rw [List.mem_append, List.mem_singleton] at hr'
    rcases hr' with hold | rfl
    · exact h.via r' hold
    · rw [← hr]
      rfl

/-- The storage's report on a callback that has returned. -/
theorem Polled.finish (h : Polled connection tx callback s block after t)
    {report : Except WorkerError Unit} {result : Except E T} {tx' : ℕ}
    (hrunning : t.running = some (.ret result)) (hopened : t.ledger.opened = some tx') :
    Polled connection tx callback s block after { t with
      ledger := if DoConnection.commits result report then t.ledger.commit else t.ledger.rollback
      running := none
      resolved := (tx', reconcile report (some result)) :: t.resolved } where
  lt_next := by
    have hlt := h.lt_next
    split <;> simpa using hlt
  not_kept := h.not_kept
  history := by
    have hhistory := h.history
    split <;> simpa using hhistory
  via := h.via
  not_via := h.not_via
  progress := by
    have hnone : (if DoConnection.commits result report then t.ledger.commit
        else t.ledger.rollback).opened ≠ some tx := by simp [opened_ended]
    cases h.progress with
    | midway _ next himmediate hnext hbusy =>
        rw [idle, hrunning] at hbusy
        cases hbusy
    | returned _ _ result' hresult hret hopened' hunresolved hissued hreplay =>
        rw [hopened] at hopened'
        cases hopened'
        rw [hrunning] at hret
        cases hret
        refine .ended _ _ report result hresult hnone (fun value => ?_) hissued hreplay
        rw [List.mem_cons, Prod.mk.injEq]
        have hnot : (tx, value) ∉ t.resolved := fun hmem => hunresolved _ hmem rfl
        simp [hnot]
    | ended _ _ report' result' hresult hopened' hresolved hissued hreplay =>
        refine .ended _ _ report' result' hresult hnone (fun value => ?_) hissued hreplay
        rw [← hresolved, List.mem_cons, Prod.mk.injEq]
        have hne : tx ≠ tx' := by
          rintro rfl
          exact hopened' hopened
        simp [hne]

/-- After its poll has begun, nothing comes between the statements of the
callback. -/
theorem polled_step (h : Polled connection tx callback s block after t)
    (hstep : Requests.step connection label t = some u) :
    ∃ block' after', Polled connection tx callback s block' after' u := by
  have hprogress := h.progress
  cases step_of_eq_some hstep with
  | begin callback' hnone =>
      refine ⟨block, after, Nat.lt_succ_of_lt h.lt_next, h.not_kept, h.history, h.via, h.not_via,
        ?_⟩
      cases hprogress with
      | midway _ next himmediate hrunning =>
          rw [hnone] at hrunning
          cases hrunning
      | returned _ _ result hresult hrunning =>
          rw [hnone] at hrunning
          cases hrunning
      | ended _ _ report result hresult hopened hresolved hissued hreplay =>
          refine .ended _ _ report result hresult ?_ hresolved hissued hreplay
          rintro ⟨⟩
          exact absurd h.lt_next (lt_irrefl _)
  | await next hawait =>
      refine ⟨block, after, h.lt_next, h.not_kept, h.history, h.via, h.not_via, ?_⟩
      cases hprogress with
      | midway _ next himmediate hrunning hbusy =>
          rw [idle, hawait] at hbusy
          cases hbusy
      | returned _ _ result hresult hrunning =>
          rw [hawait] at hrunning
          cases hrunning
      | ended _ _ report result hresult hopened hresolved hissued hreplay =>
          exact .ended _ _ report result hresult hopened hresolved hissued hreplay
  | keep next tx' hkeep hopened' =>
      cases hprogress with
      | midway _ next himmediate hrunning hbusy =>
          rw [hkeep] at hrunning
          cases hrunning
          cases himmediate
      | returned _ _ result hresult hrunning =>
          rw [hkeep] at hrunning
          cases hrunning
      | ended _ _ report result hresult hopened hresolved hissued hreplay =>
          have hne : tx ≠ tx' := by
            rintro rfl
            exact hopened hopened'
          refine ⟨block, after, h.lt_next, ?_, h.history, h.via, h.not_via,
            .ended _ _ report result hresult hopened hresolved hissued hreplay⟩
          simpa [hne] using h.not_kept
  | statement method query next answer tx' hstatement hopened' htold =>
      cases hprogress with
      | midway _ next' himmediate hrunning hbusy hopened hunresolved hissued hreplay hrest =>
          rw [hstatement] at hrunning
          cases hrunning
          rw [hopened] at hopened'
          cases hopened'
          cases himmediate with
          | statement _ _ hnext =>
              obtain ⟨block', hpolled⟩ :=
                h.statement hnext htold hopened hunresolved hissued hreplay hrest
              exact ⟨block', [], hpolled⟩
      | returned _ _ result hresult hrunning =>
          rw [hstatement] at hrunning
          cases hrunning
      | ended _ _ report result hresult hopened hresolved hissued hreplay =>
          -- the callback of another transaction
          have hne : Via.handle tx' ≠ .handle tx := by
            rintro ⟨⟩
            exact hopened hopened'
          exact ⟨block, h.other hne rfl rfl
            fun r => .ended _ _ report result hresult hopened hresolved hissued hreplay⟩
  | finish report result tx' hret hopened' => exact ⟨block, after, h.finish hret hopened'⟩
  | handle tx' method query hkept hidle htold =>
      have hne : Via.handle tx' ≠ .handle tx := by
        rintro ⟨⟩
        exact h.not_kept hkept
      exact ⟨block, h.other hne rfl rfl (hprogress.other hidle _ method query)⟩
  | connection method query hidle htold =>
      have hne : Via.connection ≠ .handle tx := nofun
      exact ⟨block, h.other hne rfl rfl (hprogress.other hidle _ method query)⟩

/-! ## every interleaving -/

/-- A transaction that is waiting still is at the end of a run, or was polled in
it. -/
theorem waiting_run (h : s.Waiting tx callback) (himmediate : callback.Immediate)
    {labels : List (Label T E)}
    (hrun : Machine.run (Requests.step connection) s labels = some t) :
    t.Waiting tx callback ∨
      ∃ before rest u, labels = before ++ .callback :: rest ∧
        Machine.run (Requests.step connection) s before = some u ∧ u.Waiting tx callback ∧
          ∃ block after, Polled connection tx callback u block after t := by
  induction labels generalizing s with
  | nil =>
      cases hrun
      exact .inl h
  | cons label labels ih =>
      obtain ⟨s', hstep, hrest⟩ := Machine.run_cons_eq_some hrun
      rcases waiting_step h himmediate hstep with hwaiting | ⟨rfl, hpolled⟩
      · rcases ih hwaiting hrest with hend | ⟨before, rest, u, rfl, hbefore, hu, hpolled⟩
        · exact .inl hend
        · exact .inr ⟨label :: before, rest, u, rfl,
            (Machine.run_cons_of_step hstep).trans hbefore, hu, hpolled⟩
      · have hall : ∃ block after, Polled connection tx callback s block after t :=
          Machine.invariant
            (I := fun u => ∃ block after, Polled connection tx callback s block after u)
            (fun _ _ _ ⟨_, _, hu⟩ hnext => polled_step hu hnext) ⟨[], [], hpolled⟩ hrest
        exact .inr ⟨[], labels, s, rfl, rfl, h, hall⟩

/-- The statements of the transaction `tx`, whose callback was polled in `u`,
stand in one piece in the history of `t`: they are `block`. -/
structure InOnePiece (connection : DoConnection DB) (tx : ℕ) (callback : Callback T E)
    (u t : Requests DB T E) (block after : List (Ledger.Record Statement)) : Prop where
  history : t.ledger.history = u.ledger.history ++ block ++ after
  mem_iff : ∀ r ∈ t.ledger.history, r ∈ block ↔ r.write.via = .handle tx
  /-- They are what the callback issues alone, as far as it has got. -/
  issued : block.map (·.write.query) <+: callback.issued connection.handle u.ledger.state
  /-- What the transaction resolves to, is what the callback comes to alone. -/
  resolved : ∀ value, (tx, value) ∈ t.resolved →
    block.map (·.write.query) = callback.issued connection.handle u.ledger.state ∧
      Ledger.replay (effect connection) u.ledger.state block =
        stateOf (callback.run connection.handle u.ledger.state) ∧
      ∃ report result, outcome (callback.run connection.handle u.ledger.state) = returns result ∧
        value = reconcile report (some result)

theorem Polled.inOnePiece (h : Polled connection tx callback u block after t) :
    InOnePiece connection tx callback u t block after where
  history := h.history
  mem_iff := by
    intro r hr
    refine ⟨h.via r, fun hvia => ?_⟩
    have hnot := h.not_via r
    rw [h.history] at hr
    simp only [NotVia, hvia, List.mem_append] at hr hnot
    tauto
  issued := by
    cases h.progress with
    | midway _ next himmediate hrunning hbusy hopened hunresolved hissued =>
        exact ⟨_, hissued⟩
    | returned _ _ result hresult hrunning hopened hunresolved hissued => rw [hissued]
    | ended _ _ report result hresult hopened hresolved hissued => rw [hissued]
  resolved := by
    intro value hvalue
    cases h.progress with
    | midway _ next himmediate hrunning hbusy hopened hunresolved =>
        exact absurd rfl (hunresolved _ hvalue)
    | returned _ _ result hresult hrunning hopened hunresolved =>
        exact absurd rfl (hunresolved _ hvalue)
    | ended _ _ report result hresult hopened hresolved hissued hreplay =>
        exact ⟨hissued, hreplay, report, result, hresult, (hresolved value).mp hvalue⟩

/-- **A callback that never awaits runs in one piece**, whatever the other
futures of the request do: its transaction is waiting for its poll, or its
statements are one block of the history, those it issues alone from the state
it was polled in, and what the transaction resolves to is what it comes to
there. -/
theorem one_piece (connection : DoConnection DB) (db : DB) (callback : Callback T E)
    (himmediate : callback.Immediate) (before labels : List (Label T E)) (s t : Requests DB T E)
    (hbefore : Machine.run (Requests.step connection) (start db) before = some s)
    (hrun : Machine.run (Requests.step connection) s (.begin callback :: labels) = some t) :
    t.Waiting s.ledger.next callback ∨
      ∃ waiting rest u block after, labels = waiting ++ .callback :: rest ∧
        Machine.run (Requests.step connection) s (.begin callback :: waiting) = some u ∧
          InOnePiece connection s.ledger.next callback u t block after := by
  have hnumbered : s.Numbered :=
    Machine.invariant (fun _ _ _ hs hstep => hs.step hstep) (numbered_start db) hbefore
  obtain ⟨s', hstep, hrest⟩ := Machine.run_cons_eq_some hrun
  have hwaiting : s'.Waiting s.ledger.next callback := by
    cases step_of_eq_some hstep with
    | begin _ hrunning =>
        refine ⟨rfl, rfl, Nat.lt_succ_self _, fun hkept => ?_, fun entry hentry => ?_,
          fun r hr hvia => ?_⟩
        · exact absurd (hnumbered.kept _ hkept) (lt_irrefl _)
        · exact ne_of_lt (hnumbered.resolved entry hentry)
        · exact absurd (hnumbered.history r hr _ hvia) (lt_irrefl _)
  rcases waiting_run hwaiting himmediate hrest with
    hend | ⟨waiting, rest, u, rfl, hu, _, block, after, hpolled⟩
  · exact .inl hend
  · exact .inr ⟨waiting, rest, u, block, after, rfl,
      (Machine.run_cons_of_step hstep).trans hu, hpolled.inOnePiece⟩

end

end Requests

end SqlxCloudflare
