import SqlxCloudflare.D1.Connection
import SqlxCloudflare.D1.Objects
import SqlxCloudflare.Drivers.Agree

/-!
# SqlxCloudflare.Drivers.Engine

What a program sees of a database, whichever driver is between them: an
`Engine` says what each statement comes to, and `Engine.perform` what an
operation of a connection tells of it.  `Told` is a reply without its error
and without rowids, with a batch's rows by name; the rest of both drivers'
replies is the same.
-/

namespace SqlxCloudflare

open Executor Fallible

variable {S : Type}

/-! ## statements -/

/-- A SQLite value as it is once it has crossed to a driver. -/
def Value.crossed : Value → Value
  | .integer n => storedAs n
  | .real x => .fromNumber x
  | value => value

theorem fromJs_delivered_arrayBuffer [JsDebug] (value : Value) :
    fromJs (delivered .arrayBuffer value) = .ok value.crossed := by
  cases value with
  | integer n => exact fromJs_asF64 n
  | null | real _ | text _ | blob _ => rfl

/-- What a statement comes to: its rows, how many it changed, and the database
it leaves. -/
structure Effect (S : Type) where
  names : List String
  rows : List (List Value)
  affected : I64
  final : S
  rectangular : ∀ row ∈ rows, row.length = names.length
  counted : 0 ≤ affected.val ∧ Safe affected.val

namespace Effect

/-- The values of its first rows. -/
def values (e : Effect S) (limit : Option ℕ) : List (List Value) :=
  (limited limit e.rows).map (List.map Value.crossed)

/-- Its first rows, as a driver returns them. -/
def table (e : Effect S) (limit : Option ℕ) : List Row :=
  (e.values limit).map (Row.mk (columnsOf e.names (e.values limit) Column.mk))

theorem length_of_mem_values {e : Effect S} {limit : Option ℕ} {row : List Value}
    (h : row ∈ e.values limit) : row.length = e.names.length := by
  obtain ⟨row', hrow', rfl⟩ := List.mem_map.mp h
  rw [List.length_map]
  exact e.rectangular row' (mem_of_mem_limited hrow')

section

variable [JsDebug]

theorem mapM_fromJs_delivered (row : List Value) :
    (row.map (delivered .arrayBuffer)).mapM fromJs = .ok (row.map Value.crossed) := by
  rw [List.mapM_map, mapM_eq_ok_iff, List.forall₂_map_right_iff, List.forall₂_same]
  exact fun value _ => fromJs_delivered_arrayBuffer value

theorem mapM_readRow_rowOf (e : Effect S) (limit : Option ℕ) :
    (limited limit (e.rows.map rowOf)).mapM readRow = .ok (e.values limit) := by
  rw [limited_map, List.mapM_map, mapM_eq_ok_iff, values, List.forall₂_map_right_iff,
    List.forall₂_same]
  exact fun row _ => mapM_fromJs_delivered row

omit [JsDebug] in
theorem fromResult_values (e : Effect S) (limit : Option ℕ) :
    Row.fromResult e.names (e.values limit) = .ok (e.table limit) :=
  Row.fromResult_eq_ok_iff.mpr ⟨fun _ => length_of_mem_values, rfl⟩

/-- The rows are read the same however they are delivered. -/
theorem readLimited_rowOf (e : Effect S) (limit : Option ℕ) :
    readLimited readRow limit e.names (e.rows.map rowOf) = .ok (e.table limit) := by
  rw [readLimited, mapM_readRow_rowOf, ok_bind, fromResult_values]

end

/-- Of at most one row, the first is all there is. -/
theorem toList_head?_table (e : Effect S) : (e.table (some 1)).head?.toList = e.table (some 1) := by
  have hlength : (e.table (some 1)).length ≤ 1 := by
    simp only [table, values, limited, List.length_map, List.length_take]
    omega
  cases htable : e.table (some 1) with
  | nil => rfl
  | cons row rows =>
      rw [htable, List.length_cons] at hlength
      obtain rfl : rows = [] := List.length_eq_zero_iff.mp (by omega)
      rfl

end Effect

/-- A SQL database: what a statement with its parameters comes to, or `none`
when it fails and does nothing. -/
structure Engine (S : Type) where
  run : String → List JsValue → S → Option (Effect S)

/-! ## what a program is told -/

/-- What is found in a row under a name, and the type of its column. -/
def Row.under (row : Row) (name : String) : Except (Stop Error) (Value × TypeInfo) := do
  let value ← row.tryGetRaw (.name name)
  let column ← row.tryColumn (.name name)
  return (value, column.typeInfo)

/-- What an operation tells. -/
inductive Told where
  | failed
  | affected (counts : List ℤ)
  | fetched (rows : List Row)
  | entries (entries : List (List (String → Except (Stop Error) (Value × TypeInfo)) × ℤ))
  | answered (sql : Option String)

/-- What an answer tells, unless it is an error. -/
def Told.ofResult {α : Type} (told : α → Told) : Except Error α → Told
  | .ok value => told value
  | .error _ => .failed

def Executor.Answer.tells : Answer → Told
  | .executed result => .affected [result.rowsAffected.val]
  | .executedMany results => .affected (results.map fun result => result.rowsAffected.val)
  | .rows rs => .fetched rs
  | .row first => .fetched first.toList

/-- What a batch tells of a statement. -/
def BatchResult.tells (entry : BatchResult Row) :
    List (String → Except (Stop Error) (Value × TypeInfo)) × ℤ :=
  (entry.rows.map Row.under, entry.result.rowsAffected.val)

def Told.ofResults (results : List QueryResult) : Told :=
  .affected (results.map fun result => result.rowsAffected.val)

/-- A stream tells of its items, up to the first error. -/
def Told.ofItems (items : List (Except Error (BatchResult Row))) : Told :=
  .ofResult (fun entries => .entries (entries.map BatchResult.tells)) (items.mapM id)

/-! ## operations -/

def Effect.tells (e : Effect S) : Method → Told
  | .execute | .executeMany => .affected [e.affected.val]
  | .fetchMany => .fetched (e.table none)
  | .fetchOptional => .fetched (e.table (some 1))

def Effect.entry (e : Effect S) : List (String → Except (Stop Error) (Value × TypeInfo)) × ℤ :=
  ((e.table none).map Row.under, e.affected.val)

def Formality.tells : Formality → Told
  | .close | .ping | .flush => .answered none
  | .begin | .commit | .rollback | .describe _ => .failed
  | .prepareWith sql _ => .answered (some sql)

section

variable {entries : List (BatchResult Row)} {es : List (Effect S)}

theorem ofResults_of_tells (h : entries.map BatchResult.tells = es.map Effect.entry) :
    Told.ofResults (entries.map fun entry => entry.intoParts.2) =
      .affected (es.map fun e => e.affected.val) := by
  have hcounts := congrArg (List.map Prod.snd) h
  rw [List.map_map, List.map_map] at hcounts
  rw [Told.ofResults, List.map_map]
  exact congrArg Told.affected hcounts

theorem ofItems_of_tells (h : entries.map BatchResult.tells = es.map Effect.entry) :
    Told.ofItems (entries.map .ok) = .entries (es.map Effect.entry) := by
  have hitems : (entries.map (.ok : BatchResult Row → Except Error _)).mapM id = .ok entries := by
    rw [List.mapM_map, mapM_eq_ok_iff, List.forall₂_same]
    exact fun entry _ => rfl
  rw [Told.ofItems, hitems, Told.ofResult, h]

end

namespace Engine

/-- What a query comes to. -/
def query (engine : Engine S) (query : Query) (s : S) : Option (Effect S) :=
  query.sent.bind fun parameters => engine.run query.sql parameters s

/-- Queries one after another: all of them, or none. -/
def runAll (engine : Engine S) : List Query → S → Option (List (Effect S) × S)
  | [], s => some ([], s)
  | query :: queries, s => do
    let e ← engine.query query s
    let (es, final) ← engine.runAll queries e.final
    return (e :: es, final)

/-- One operation. -/
def perform (engine : Engine S) : D1.Operation → S → Told × S
  | .call method query, s =>
    match engine.query query s with
    | some e => (e.tells method, e.final)
    | none => (.failed, s)
  | .executeBatch queries, s =>
    match engine.runAll queries s with
    | some (es, final) => (.affected (es.map fun e => e.affected.val), final)
    | none => (.failed, s)
  | .fetchBatch queries, s =>
    match engine.runAll queries s with
    | some (es, final) => (.entries (es.map Effect.entry), final)
    | none => (.failed, s)
  | .formality formality, s => (formality.tells, s)

variable {engine : Engine S}

theorem query_of_not_sent {query : Query} (h : query.sent = none) (s : S) :
    engine.query query s = none := by
  rw [Engine.query, h, Option.bind_none]

/-- A query that cannot be sent stops all of them. -/
theorem runAll_of_not_sent {queries : List Query} {query : Query} (hmem : query ∈ queries)
    (h : query.sent = none) (s : S) : engine.runAll queries s = none := by
  induction queries generalizing s with
  | nil => cases hmem
  | cons first queries ih =>
      rw [runAll]
      cases hfirst : engine.query first s with
      | none => rfl
      | some e =>
          rcases List.mem_cons.mp hmem with rfl | hmem
          · rw [query_of_not_sent h] at hfirst
            cases hfirst
          · rw [Option.bind_eq_bind, Option.bind_some, ih hmem]
            rfl

end Engine

end SqlxCloudflare
