import EntityStore.Number.Binary
import EntityStore.Value.Bytes
import EntityStore.Value.Semantic
import EntityStore.Value.Timestamp

/-! # Field values

Values of the semantic types, and the types in which an instance holds them:

* `FieldValue` — a value with its semantic type; text, timestamp and blob may be absent.
* `ColumnType` — the type of a column in an instance; some admit absence, some do not.
* `ColumnType.toField`, `ColumnType.ofField?` — the two directions between them.
-/

namespace EntityStore

open EntityStore.Number (Binary32 Binary64)

inductive FieldValue where
  | int8 (value : Int8)
  | int16 (value : Int16)
  | int32 (value : Int32)
  | int64 (value : Int64)
  | float32 (value : Binary32)
  | float64 (value : Binary64)
  | bool (value : Bool)
  | text (value : Option String)
  | timestamp (value : Option Timestamp)
  | blob (value : Option ByteArray)
  deriving DecidableEq

namespace FieldValue

def semantic : FieldValue → SemanticType
  | int8 _ => .int8
  | int16 _ => .int16
  | int32 _ => .int32
  | int64 _ => .int64
  | float32 _ => .float32
  | float64 _ => .float64
  | bool _ => .bool
  | text _ => .text
  | timestamp _ => .timestamp
  | blob _ => .blob

def toInt64? : FieldValue → Option Int64
  | int8 v => some v.toInt64
  | int16 v => some v.toInt64
  | int32 v => some v.toInt64
  | int64 v => some v
  | _ => none

/-- The text of a value, unless it is absent or empty. -/
def toText? : FieldValue → Option String
  | text (some s) => if s.isEmpty then none else some s
  | _ => none

end FieldValue

/-- The type in which an instance holds a column. -/
inductive ColumnType where
  | int8
  | int16
  | int32
  | int64
  | float32
  | float64
  | bool
  | text
  | optionalText
  | optionalTimestamp
  | bytes
  | optionalBytes
  deriving DecidableEq

namespace ColumnType

def semantic : ColumnType → SemanticType
  | int8 => .int8
  | int16 => .int16
  | int32 => .int32
  | int64 => .int64
  | float32 => .float32
  | float64 => .float64
  | bool => .bool
  | text | optionalText => .text
  | optionalTimestamp => .timestamp
  | bytes | optionalBytes => .blob

abbrev Carrier : ColumnType → Type
  | int8 => Int8
  | int16 => Int16
  | int32 => Int32
  | int64 => Int64
  | float32 => Binary32
  | float64 => Binary64
  | bool => Bool
  | text => String
  | optionalText => Option String
  | optionalTimestamp => Option Timestamp
  | bytes => ByteArray
  | optionalBytes => Option ByteArray

def toField : (t : ColumnType) → t.Carrier → FieldValue
  | int8, v => .int8 v
  | int16, v => .int16 v
  | int32, v => .int32 v
  | int64, v => .int64 v
  | float32, v => .float32 v
  | float64, v => .float64 v
  | bool, v => .bool v
  | text, v => .text (some v)
  | optionalText, v => .text v
  | optionalTimestamp, v => .timestamp v
  | bytes, v => .blob (some v)
  | optionalBytes, v => .blob v

/-- What a column holds for a field value of its semantic type; absence becomes emptiness where
    the column does not admit it. -/
def ofField? : (t : ColumnType) → FieldValue → Option t.Carrier
  | int8, .int8 v => some v
  | int16, .int16 v => some v
  | int32, .int32 v => some v
  | int64, .int64 v => some v
  | float32, .float32 v => some v
  | float64, .float64 v => some v
  | bool, .bool v => some v
  | text, .text v => some (v.getD "")
  | optionalText, .text v => some v
  | optionalTimestamp, .timestamp v => some v
  | bytes, .blob v => some (v.getD ByteArray.empty)
  | optionalBytes, .blob v => some v
  | _, _ => none

/-- What a column holds before anything is stored in it. -/
def zero : (t : ColumnType) → t.Carrier
  | int8 => 0
  | int16 => 0
  | int32 => 0
  | int64 => 0
  | float32 => .zero
  | float64 => .zero
  | bool => false
  | text => ""
  | optionalText => none
  | optionalTimestamp => none
  | bytes => ByteArray.empty
  | optionalBytes => none

@[simp] theorem semantic_toField (t : ColumnType) (v : t.Carrier) :
    (t.toField v).semantic = t.semantic := by
  cases t <;> rfl

/-- A field value fits a column exactly when it is of the column's semantic type. -/
theorem isSome_ofField? (t : ColumnType) (v : FieldValue) :
    (t.ofField? v).isSome ↔ v.semantic = t.semantic := by
  cases t <;> cases v <;> simp [ofField?, semantic, FieldValue.semantic]

@[simp] theorem ofField?_toField (t : ColumnType) (v : t.Carrier) :
    t.ofField? (t.toField v) = some v := by
  cases t <;> rfl

end ColumnType

end EntityStore
