/-! # Semantic types

The types of persistable values, apart from how an instance holds them:

* `SemanticType` — the ten types.
* `SemanticType.isKey`, `SemanticType.isLink` — which may identify a row or link to one.
-/

namespace EntityStore

/-- The type of a persistable value. -/
inductive SemanticType where
  | int8
  | int16
  | int32
  | int64
  | float32
  | float64
  | bool
  | text
  | timestamp
  | blob
  deriving DecidableEq

namespace SemanticType

def name : SemanticType → String
  | int8 => "int8"
  | int16 => "int16"
  | int32 => "int32"
  | int64 => "int64"
  | float32 => "float32"
  | float64 => "float64"
  | bool => "bool"
  | text => "text"
  | timestamp => "timestamp"
  | blob => "blob"

def isInteger : SemanticType → Bool
  | int8 | int16 | int32 | int64 => true
  | _ => false

def isKey : SemanticType → Bool
  | int16 | int32 | int64 => true
  | _ => false

/-- Whether the link field of a relation may have the type. -/
def isLink (t : SemanticType) : Bool := t.isInteger || t = text

end SemanticType

end EntityStore
