import SqlxCloudflare.Core.Value

/-!
# SqlxCloudflare.Core.Error

The errors the drivers return: the variants of sqlx's `Error` they build, and
the database error that carries a backend's message.  A panic is not one of
them (`Fallible.Stop`).
-/

namespace SqlxCloudflare

/-- An error the database returned for a statement: SQLite's message as text. -/
structure DatabaseError where
  message : String
deriving DecidableEq, Repr

/-- How a value is asked for: by position, or by column name. -/
inductive ColumnIndex where
  | position (index : ℕ)
  | name (name : String)
deriving DecidableEq, Repr

/-- The variants of sqlx's `Error` the drivers return. -/
inductive Error where
  | encode (source : BoxDynError)
  | decode (source : BoxDynError)
  | protocol (message : String)
  | database (error : DatabaseError)
  | columnNotFound (name : String)
  | columnIndexOutOfBounds (index len : ℕ)
  /-- sqlx keeps the index as its `{:?}` text. -/
  | columnDecode (index : ColumnIndex) (source : BoxDynError)
deriving DecidableEq, Repr

end SqlxCloudflare
