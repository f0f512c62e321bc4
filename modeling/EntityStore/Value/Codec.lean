import EntityStore.Failure
import EntityStore.Number.Decimal
import EntityStore.Value.Field
import EntityStore.Value.Stored

/-! # Codec

How field values become stored values and back:

* `Affinity`, `BindOp`, `DecodeOp` — the column affinity and the two operations of a semantic
  type.
* `bind` — a field value as a stored value.
* `decode` — a stored value as a field value, lenient about its storage class.
* `FieldValue.normal` — the value that survives the way there and back.
-/

namespace EntityStore

open EntityStore.Number (Binary64)

/-- The affinity of a column. -/
inductive Affinity where
  | integer
  | real
  | text
  | blob
  deriving DecidableEq

def Affinity.keyword : Affinity → String
  | integer => "INTEGER"
  | real => "REAL"
  | text => "TEXT"
  | blob => "BLOB"

/-- How a field value is written. -/
inductive BindOp where
  | integer
  | real
  /-- One or zero. -/
  | boolAsInteger
  /-- Absent text is written as empty text. -/
  | textOrEmpty
  /-- Whole seconds; an absent timestamp is written as zero. -/
  | epochSeconds
  | blobOrNull
  deriving DecidableEq

/-- The name of a write operation, as diagnostics show it. -/
def BindOp.name : BindOp → String
  | integer => "Integer"
  | real => "Real"
  | boolAsInteger => "BoolAsInteger"
  | textOrEmpty => "TextOrEmpty"
  | epochSeconds => "EpochSeconds"
  | blobOrNull => "BlobOrNull"

/-- How a stored value is read. -/
inductive DecodeOp where
  | int8
  | int16
  | int32
  | int64
  | float32
  | float64
  /-- True exactly for the integer one. -/
  | boolEqualsOne
  | textOrAbsent
  | epochSecondsZeroAbsent
  | blobOrAbsent
  deriving DecidableEq

/-- The name of a read operation, as diagnostics show it. -/
def DecodeOp.name : DecodeOp → String
  | int8 => "Int8"
  | int16 => "Int16"
  | int32 => "Int32"
  | int64 => "Int64"
  | float32 => "Float32"
  | float64 => "Float64"
  | boolEqualsOne => "BoolEqualsOne"
  | textOrAbsent => "TextOrAbsent"
  | epochSecondsZeroAbsent => "EpochSecondsZeroAbsent"
  | blobOrAbsent => "BlobOrAbsent"

namespace SemanticType

def affinity : SemanticType → Affinity
  | int8 | int16 | int32 | int64 | bool | timestamp => .integer
  | float32 | float64 => .real
  | text => .text
  | blob => .blob

def bindOp : SemanticType → BindOp
  | int8 | int16 | int32 | int64 => .integer
  | float32 | float64 => .real
  | bool => .boolAsInteger
  | text => .textOrEmpty
  | timestamp => .epochSeconds
  | blob => .blobOrNull

def decodeOp : SemanticType → DecodeOp
  | int8 => .int8
  | int16 => .int16
  | int32 => .int32
  | int64 => .int64
  | float32 => .float32
  | float64 => .float64
  | bool => .boolEqualsOne
  | text => .textOrAbsent
  | timestamp => .epochSecondsZeroAbsent
  | blob => .blobOrAbsent

end SemanticType

namespace Codec

/-! ## Writing -/

/-- The write operation does not take values of this type. -/
def bindMismatch (op : BindOp) (value : FieldValue) : Failure :=
  { kind := .internal, op := some "bind",
    message := op.name ++ " cannot bind a " ++ value.semantic.name ++ " value" }

def bind (op : BindOp) (value : FieldValue) : Except Failure StoredValue :=
  match op, value with
  | .integer, v =>
    match v.toInt64? with
    | some n => .ok (.integer n)
    | none => .error (bindMismatch op v)
  | .real, .float32 x => .ok (.real x.widen)
  | .real, .float64 x => .ok (.real x)
  | .boolAsInteger, .bool b => .ok (.integer (if b then 1 else 0))
  | .textOrEmpty, .text s => .ok (.text (s.getD ""))
  | .epochSeconds, .timestamp t =>
    .ok (.integer (match t with
      | none => 0
      | some t => Int64.ofInt t.second))
  | .blobOrNull, .blob b =>
    .ok (match b with
      | none => .null
      | some bytes => .blob bytes)
  | op, v => .error (bindMismatch op v)

/-! ## Reading -/

/-- The read operation does not take this stored value. -/
def decodeMismatch (op : DecodeOp) (stored : StoredValue) (detail : String) : Failure :=
  { kind := .decode, op := some "decode",
    message := op.name ++ " cannot read " ++ stored.className ++ " value: " ++ detail }

def integerOf (op : DecodeOp) (stored : StoredValue) : Except Failure Int64 :=
  match stored with
  | .null => .ok 0
  | .integer n => .ok n
  | .real x => .ok x.truncate
  | .text s =>
    match Number.readInt64? (Text.trimChars s.toList) with
    | some n => .ok n
    | none => .error (decodeMismatch op stored "not an integer")
  | .blob _ => .error (decodeMismatch op stored "binary data")

def realOf (op : DecodeOp) (stored : StoredValue) : Except Failure Binary64 :=
  match stored with
  | .null => .ok .zero
  | .integer n => .ok (.ofInt n.toInt)
  | .real x => .ok x
  | .text s =>
    match Number.readBinary64? (Text.trimChars s.toList) with
    | some x => .ok x
    | none => .error (decodeMismatch op stored "not a number")
  | .blob _ => .error (decodeMismatch op stored "binary data")

def narrowOf (op : DecodeOp) (bits : Nat) (stored : StoredValue) : Except Failure Int := do
  let n := (← integerOf op stored).toInt
  if Number.Fits bits n then return n
  else throw (decodeMismatch op stored "out of range")

def textOf (op : DecodeOp) : StoredValue → Except Failure (Option String)
  | .null => .ok none
  | .integer n => .ok (some (toString n.toInt))
  | .real x => .ok (some x.positional)
  | .text s => .ok (some s)
  | .blob b =>
    match String.fromUTF8? b with
    | some s => .ok (some s)
    | none => .error (decodeMismatch op .null "invalid UTF-8")

def timestampOf (op : DecodeOp) (stored : StoredValue) : Except Failure (Option Timestamp) := do
  let n := (← integerOf op stored).toInt
  if n = 0 then return none
  else
    match Timestamp.of? n 0 with
    | some t => return some t
    | none => throw (decodeMismatch op stored "timestamp out of range")

def bytesOf (op : DecodeOp) (stored : StoredValue) : Except Failure (Option ByteArray) :=
  match stored with
  | .null => .ok none
  | .blob b => .ok (some b)
  | .text s => .ok (some s.toByteArray)
  | _ => .error (decodeMismatch op stored "not binary data")

def decode (op : DecodeOp) (stored : StoredValue) : Except Failure FieldValue :=
  match op with
  | .int8 => do return .int8 (Int8.ofInt (← narrowOf op 8 stored))
  | .int16 => do return .int16 (Int16.ofInt (← narrowOf op 16 stored))
  | .int32 => do return .int32 (Int32.ofInt (← narrowOf op 32 stored))
  | .int64 => do return .int64 (← integerOf op stored)
  | .float32 => do return .float32 (← realOf op stored).narrow
  | .float64 => do return .float64 (← realOf op stored)
  | .boolEqualsOne => do return .bool ((← integerOf op stored) = 1)
  | .textOrAbsent => do return .text (← textOf op stored)
  | .epochSecondsZeroAbsent => do return .timestamp (← timestampOf op stored)
  | .blobOrAbsent => do return .blob (← bytesOf op stored)

end Codec

/-! ## Normal form -/

def Timestamp.wholeSecond (t : Timestamp) : Timestamp :=
  ⟨t.second, 0, t.first_le, t.le_last, Timestamp.start_lt⟩

/-- The value that survives storage: text is present, a timestamp falls on a whole second other
    than the epoch, and a single that is no number is the one word for that. -/
def FieldValue.normal : FieldValue → FieldValue
  | .float32 x => .float32 (if x.isNaN then .nan else x)
  | .text none => .text (some "")
  | .timestamp (some t) => .timestamp (if t.second = 0 then none else some t.wholeSecond)
  | value => value

end EntityStore
