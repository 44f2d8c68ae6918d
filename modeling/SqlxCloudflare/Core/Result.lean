import SqlxCloudflare.Core.Row

/-!
# SqlxCloudflare.Core.Result

What a statement reports: the counts of `QueryResult`, and for a statement of
a batch its rows as well.
-/

namespace SqlxCloudflare

/-- What a statement did. -/
structure QueryResult where
  rowsAffected : U64
  lastInsertRowid : Option I64
deriving DecidableEq

/-- What a statement that wrote nothing did. -/
def QueryResult.default : QueryResult := ⟨⟨0, IntRange.zero_le_zero, U64.zero_le_max⟩, none⟩

/-- What one statement of a batch did, and the rows it returned. -/
structure BatchResult (R : Type) where
  rows : List R
  result : QueryResult

/-- The rows and what the statement did. -/
def BatchResult.intoParts {R : Type} (result : BatchResult R) : List R × QueryResult :=
  (result.rows, result.result)

end SqlxCloudflare
