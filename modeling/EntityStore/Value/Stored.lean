import EntityStore.Number.Binary
import EntityStore.Value.Bytes

/-! # Stored values

A value in one of the five storage classes of the engine.
-/

namespace EntityStore

open EntityStore.Number (Binary64)

/-- A value as a table holds it. -/
inductive StoredValue where
  | null
  | integer (value : Int64)
  | real (value : Binary64)
  | text (value : String)
  | blob (value : ByteArray)
  deriving DecidableEq

def StoredValue.className : StoredValue → String
  | null => "NULL"
  | integer _ => "INTEGER"
  | real _ => "REAL"
  | text _ => "TEXT"
  | blob _ => "BLOB"

end EntityStore
