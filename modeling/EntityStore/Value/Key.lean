import EntityStore.Number.Decimal
import EntityStore.Value.Semantic

/-! # Keys

Primary keys of three widths:

* `KeyType` — the widths; `KeyType.admits` — the range of each.
* `KeyType.ofInt64?` — an integer as a key.
* `KeyType.readToken?` — the text of a key, blanks around it allowed.
-/

namespace EntityStore

/-- The width of a primary key. -/
inductive KeyType where
  | int16
  | int32
  | int64
  deriving DecidableEq

namespace KeyType

def semantic : KeyType → SemanticType
  | int16 => .int16
  | int32 => .int32
  | int64 => .int64

def bits : KeyType → Nat
  | int16 => 16
  | int32 => 32
  | int64 => 64

/-- Whether an integer is a key of the width. -/
def admits (t : KeyType) (n : Int64) : Bool := Number.Fits t.bits n.toInt

def ofInt64? (t : KeyType) (n : Int64) : Option Int64 := if t.admits n then some n else none

def readToken? (t : KeyType) (token : String) : Option Int64 :=
  (Number.readInt64? (Text.trimChars token.toList)).bind t.ofInt64?

end KeyType

end EntityStore
