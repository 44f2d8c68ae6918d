import SqlxCloudflare.Core.Arguments
import SqlxCloudflare.Fallible

/-!
# SqlxCloudflare.Core.Query

A query on its way to a driver: its SQL, and its arguments or the error that
binding one of them met, which sqlx defers until they are taken.  It sends its
parameters, or is an encode error (`sent_cases`).
-/

namespace SqlxCloudflare

open Fallible

/-- A query as an executor is given it: its SQL, and its arguments or the error
binding one of them met. -/
structure Query where
  sql : String
  arguments : Except BoxDynError (Option Arguments)

/-- `query`'s SQL and its arguments, bound. -/
def take (query : Query) : Except Error (String × Option Arguments) := do
  let arguments ← query.arguments.mapError .encode
  return (query.sql, arguments)

def argumentsOf (arguments : Option Arguments) : List Value :=
  match arguments with
  | none => []
  | some arguments => arguments.values

/-! ## what is sent -/

/-- The parameters a query sends, if its arguments were bound and can be sent. -/
def Query.sent (query : Query) : Option (List JsValue) :=
  match query.arguments with
  | .error _ => none
  | .ok arguments => (toJsArray (argumentsOf arguments)).toOption

/-- A value that cannot be sent is an encode error. -/
theorem exists_encode_of_toJs {value : Value} {error : Error} (h : toJs value = .error error) :
    ∃ source, error = .encode source := by
  cases value with
  | integer n =>
      rcases bind_eq_error_iff.mp h with herror | ⟨_, _, hpure⟩
      · cases hsafe : safeInteger n with
        | ok n' =>
            rw [hsafe] at herror
            cases herror
        | error source =>
            rw [hsafe] at herror
            cases herror
            exact ⟨source, rfl⟩
      · cases hpure
  | null | real _ | text _ | blob _ => cases h

theorem exists_encode_of_toJsArray {values : List Value} {error : Error}
    (h : toJsArray values = .error error) : ∃ source, error = .encode source := by
  obtain ⟨_, value, _, _, _, _, hvalue⟩ := mapM_eq_error_iff.mp h
  exact exists_encode_of_toJs hvalue

/-- A query sends its parameters, or the arguments are an encode error. -/
theorem sent_cases (query : Query) :
    (∃ source, query.sent = none ∧ query.arguments = .error source) ∨
      ∃ arguments, query.arguments = .ok arguments ∧
        ((∃ source, query.sent = none ∧
            toJsArray (argumentsOf arguments) = .error (.encode source)) ∨
          ∃ parameters, query.sent = some parameters ∧
            toJsArray (argumentsOf arguments) = .ok parameters) := by
  unfold Query.sent
  cases query.arguments with
  | error source => exact .inl ⟨source, rfl, rfl⟩
  | ok arguments =>
      refine .inr ⟨arguments, rfl, ?_⟩
      cases hbind : toJsArray (argumentsOf arguments) with
      | ok parameters => exact .inr ⟨parameters, by simp [hbind, Except.toOption], rfl⟩
      | error error =>
          obtain ⟨source, rfl⟩ := exists_encode_of_toJsArray hbind
          exact .inl ⟨source, by simp [hbind, Except.toOption], rfl⟩

/-! ## the queries of a batch -/

/-- A query's SQL and its arguments, owned. -/
def takeOwned (query : Query) : Except Error (String × Arguments) := do
  let arguments ← query.arguments.mapError .encode
  return (query.sql, arguments.getD .default)

theorem takeOwned_of_error {query : Query} {source : BoxDynError}
    (h : query.arguments = .error source) : takeOwned query = .error (.encode source) := by
  rw [takeOwned, h]
  rfl

/-- A query whose arguments were taken, sends them. -/
theorem sent_of_takeOwned {query : Query} {statement : String × Arguments}
    (h : takeOwned query = .ok statement) :
    statement.1 = query.sql ∧ query.sent = (toJsArray statement.2.values).toOption := by
  obtain ⟨arguments, hargs, hstatement⟩ := bind_eq_ok_iff.mp h
  rw [mapError_eq_ok_iff] at hargs
  cases hstatement
  refine ⟨rfl, ?_⟩
  rw [Query.sent, hargs]
  cases arguments <;> rfl

/-- A query either carries its arguments or the error binding them met. -/
theorem takeOwned_cases (query : Query) :
    (∃ statement, takeOwned query = .ok statement) ∨
      ∃ source, query.arguments = .error source ∧ takeOwned query = .error (.encode source) := by
  cases h : query.arguments with
  | error source => exact .inr ⟨source, rfl, takeOwned_of_error h⟩
  | ok arguments => exact .inl ⟨(query.sql, arguments.getD .default), by rw [takeOwned, h]; rfl⟩

/-- Arguments that cannot be taken are a query's deferred error. -/
theorem exists_of_mapM_takeOwned_error {queries : List Query} {error : Error}
    (h : queries.mapM takeOwned = .error error) :
    ∃ query ∈ queries, ∃ source, query.arguments = .error source ∧ error = .encode source := by
  obtain ⟨pre, query, post, _, rfl, _, hquery⟩ := mapM_eq_error_iff.mp h
  rcases takeOwned_cases query with ⟨statement, hok⟩ | ⟨source, hsource, hencode⟩
  · rw [hok] at hquery
    cases hquery
  · rw [hencode] at hquery
    cases hquery
    exact ⟨query, by simp, source, hsource, rfl⟩

/-- The first of the queries that carries a deferred bind error. -/
def FirstBindError (queries : List Query) (source : BoxDynError) : Prop :=
  ∃ pre query post, queries = pre ++ query :: post ∧
    (∀ q ∈ pre, ∃ arguments, q.arguments = .ok arguments) ∧ query.arguments = .error source

/-- One query with a deferred error is enough for taking the arguments to
fail, with the first there is. -/
theorem mapM_takeOwned_of_error {queries : List Query} {query : Query} {source : BoxDynError}
    (hmem : query ∈ queries) (h : query.arguments = .error source) :
    ∃ source, FirstBindError queries source ∧
      queries.mapM takeOwned = .error (.encode source) := by
  cases htaken : queries.mapM takeOwned with
  | ok statements =>
      obtain ⟨statement, hstatement⟩ := exists_of_mapM_eq_ok htaken hmem
      rw [takeOwned_of_error h] at hstatement
      cases hstatement
  | error error =>
      obtain ⟨pre, first, post, taken, hqueries, hpre, hfirst⟩ := mapM_eq_error_iff.mp htaken
      rcases takeOwned_cases first with ⟨statement, hok⟩ | ⟨source, hsource, herror⟩
      · rw [hok] at hfirst
        cases hfirst
      · rw [herror] at hfirst
        cases hfirst
        refine ⟨source, ⟨pre, first, post, hqueries, fun q hq => ?_, hsource⟩, rfl⟩
        obtain ⟨statement, hq⟩ := exists_of_mapM_eq_ok (mapM_eq_ok_iff.mpr hpre) hq
        cases hargs : q.arguments with
        | ok arguments => exact ⟨arguments, rfl⟩
        | error source' =>
            rw [takeOwned_of_error hargs] at hq
            cases hq

end SqlxCloudflare
