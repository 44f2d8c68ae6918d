import SqlxCloudflare.D1.Hosted
import SqlxCloudflare.Do.Hosted

/-!
# SqlxCloudflare.Drivers.Portable

One database behind both drivers: a program of futures on D1 and the same
operations, one after another, on a Durable Object tell the same and leave
the same (`portable`), down to a batch's rows, which D1 returns as objects and
a Durable Object as arrays.
-/

namespace SqlxCloudflare

open Executor Fallible

variable {S DB DB' P T E : Type}

section

variable [JsDebug]

/-- **The two drivers are interchangeable**, over an engine's database that
both host -- batches of statements are run, and kept when they succeed, and
what a statement that wrote is counted to have changed is its own: in every
interleaving of D1's futures, each of those that resolved has been told what a
Durable Object tells of the operations that were served, one after another in
that order -- or it was never served, and then it is told at once -- and both
databases are left with the same to see. -/
theorem portable [FromError E] (engine : Engine S) {d1 : D1Connection DB P}
    {statements : D1Statements DB P} (hosts : d1.Hosts statements engine)
    {connection : DoConnection DB'} (hosts' : connection.Hosts engine) (s : DB) (db : DB')
    (hsame : hosts.view s = hosts'.view db) (labels : List (Server.Label D1.Operation))
    {t : Server D1.Operation D1.Reply DB}
    (hrun : Machine.run (Server.step (d1.service statements)) (.start s) labels = some t) :
    ∃ (replies : List (Reply T E)) (db' : DB'),
      connection.session ((t.served.map Prod.snd).map .ofD1) db = .ok replies db' ∧
      hosts.view t.state = hosts'.view db' ∧
      ∀ i op reply, t.Resolved i op reply →
        (∃ k : ℕ, t.served[k]? = some (i, op) ∧
          (replies.map Reply.tells)[k]? = some reply.tells) ∨
        (∀ entry ∈ t.served, entry.1 ≠ i) ∧
          ∃ (reply' : Reply T E) (left : DB'),
            connection.perform (.ofD1 op) db = .ok reply' left ∧
              reply'.tells = reply.tells ∧ hosts'.view left = hosts'.view db := by
  have hsound : t.Sound (d1.service statements) s := Server.sound_of_run hrun
  have hd1 := D1Connection.session_hosted hosts (t.served.map Prod.snd) s
  obtain ⟨replies, db', hsession, hdo⟩ :=
    session_hosted (T := T) (E := E) hosts' (t.served.map Prod.snd) db
  rw [hsame, ← hdo, D1Connection.perform_eq_alone] at hd1
  obtain ⟨htold, hview⟩ := Prod.mk.inj hd1
  refine ⟨replies, db', hsession, ?_, ?_⟩
  · rw [hsound.state, hview]
  · rintro i op reply ⟨dropped, hfuture⟩
    rcases hsound.told i _ hfuture with ⟨hready, hunserved⟩ | ⟨k, hk, hreply⟩
    · have hperform := D1Connection.perform_hosted hosts op s
      obtain ⟨reply', left, hreply', htells'⟩ :=
        perform_hosted (T := T) (E := E) hosts' op db
      rw [hsame, ← htells', D1Connection.perform_eq_alone, Server.alone, hready] at hperform
      obtain ⟨htells, hleft⟩ := Prod.mk.inj hperform
      exact .inr ⟨hunserved, reply', left, hreply', htells.symm, hleft.symm.trans hsame⟩
    · refine .inl ⟨k, hk, ?_⟩
      rw [← htold, List.getElem?_map, hreply]
      rfl

end

/-! ## a table of texts -/

namespace Texts

/-- A small integer, as SQLite stores it. -/
def stored (n : ℕ) : I64 := ⟨min n 1000, by omega, by omega⟩

theorem safe_stored (n : ℕ) : 0 ≤ (stored n).val ∧ Safe (stored n).val := by
  have hval : (stored n).val = (min n 1000 : ℕ) := by simp [stored]
  rw [hval, Safe, maxSafeInteger_eq]
  omega

/-- What the query for the counts comes to. -/
def counted (texts : List String) : Effect (List String) where
  names := ["changes()", "last_insert_rowid()"]
  rows := [[.integer (stored (min texts.length 1)), .integer (stored texts.length)]]
  affected := stored 0
  final := texts
  rectangular := by simp
  counted := safe_stored 0

def inserted (text : String) (texts : List String) : Effect (List String) where
  names := []
  rows := []
  affected := stored 1
  final := texts ++ [text]
  rectangular := by simp
  counted := safe_stored 1

def selected (texts : List String) : Effect (List String) where
  names := ["name"]
  rows := texts.map fun text => [.text text]
  affected := stored 0
  final := texts
  rectangular := by simp
  counted := safe_stored 0

def engine : Engine (List String) where
  run sql parameters texts :=
    if sql = "INSERT INTO t (name) VALUES (?)" then
      match parameters with
      | [.string text] => some (inserted text texts)
      | _ => none
    else if sql = "SELECT name FROM t" then some (selected texts)
    else if sql = countsSql then some (counted texts)
    else none

def counting : engine.Counting where
  changes texts := stored (min texts.length 1)
  lastInsertRowid texts := stored texts.length
  query texts := ⟨counted texts, _, _, rfl, rfl, rfl, rfl⟩
  own := by
    intro sql parameters texts e h haffected
    simp only [engine] at h
    split at h
    · split at h
      · next text =>
          cases h
          refine ⟨?_, (safe_stored _).2⟩
          simp [inserted, stored]
      · cases h
    · split at h
      · cases h
        exact absurd rfl haffected
      · split at h
        · cases h
          exact absurd rfl haffected
        · cases h

/-- A text, inserted. -/
def insert (text : String) : Query :=
  .binding "INSERT INTO t (name) VALUES (?)" [⟨.plain .string, text⟩]

end Texts

/-- A batch of two inserts, and a select that is served before it. -/
theorem portable_inserts :
    letI := JsDebug.describing
    ∃ (t : Server D1.Operation D1.Reply (List String)) (replies : List (Reply Unit Error)),
      t.served.map Prod.fst = [1, 0] ∧
        Texts.engine.connection.session ((t.served.map Prod.snd).map .ofD1) [] =
          .ok replies t.state := by
  let := JsDebug.describing
  have hrun : ∃ t : Server D1.Operation D1.Reply (List String),
      Machine.run (Server.step
          ((⟨Texts.engine.database⟩ : D1Connection (List String) _).service Texts.engine.methods))
        (.start []) [.make (.executeBatch [Texts.insert "a", Texts.insert "b"]),
          .make (.call .fetchMany (.binding "SELECT name FROM t" [])), .poll 1, .poll 0, .serve 1,
          .serve 0, .poll 0] = some t ∧ t.served.map Prod.fst = [1, 0] := ⟨_, rfl, rfl⟩
  obtain ⟨t, hrun, hserved⟩ := hrun
  obtain ⟨replies, db, hsession, hview, _⟩ := portable (T := Unit) (E := Error) Texts.engine
    (Texts.engine.hostsD1) (Engine.hostsDo Texts.counting) [] [] rfl _ hrun
  refine ⟨t, replies, hserved, ?_⟩
  rw [hsession]
  exact congrArg _ hview.symm

end SqlxCloudflare
