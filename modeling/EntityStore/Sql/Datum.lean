import EntityStore.Number.Leading
import EntityStore.Value.Stored

/-! # Values of the engine

* `Datum` — a value in a table or an expression; a text is any bytes.
* `Affinity`, `Affinity.store`, `Affinity.compareAs` — what a column makes of values.
* `Datum.compare` — the order of values: null, numbers, texts, blobs.
* `Datum.cast`, `Datum.operand`, `Datum.truth` — conversions in expressions.
-/

namespace EntityStore.Sql

open EntityStore.Number (Binary64 LeadingReal leadingReal leadingInteger)

/-- A value of the engine. -/
inductive Datum where
  | null
  | integer (value : Int64)
  | real (value : Binary64)
  | text (bytes : ByteArray)
  | blob (bytes : ByteArray)
  deriving DecidableEq

namespace Datum

instance : Inhabited Datum := ⟨null⟩

def ofString (s : String) : Datum := text s.toByteArray

/-- A double; what is no number becomes null. -/
def ofReal (x : Binary64) : Datum := if x.isNaN then null else real x

def ofBool (b : Bool) : Datum := integer (if b then 1 else 0)

def ofTruth : Option Bool → Datum
  | none => null
  | some b => ofBool b

/-- The name of the storage class of a value, as statements see it. -/
def className : Datum → String
  | null => "null"
  | integer _ => "integer"
  | real _ => "real"
  | text _ => "text"
  | blob _ => "blob"

def characters (bytes : ByteArray) : List Char := bytes.toList.map fun b => Char.ofNat b.toNat

def realOf (n : Int64) : Binary64 := .ofInt n.toInt

/-! ## Text and back -/

/-- What a byte that starts a character asks for: how many bytes follow, and the bounds of the
    first of them. -/
def leadByte? (b : UInt8) : Option (Nat × UInt8 × UInt8) :=
  if b < 0x80 then some (0, 0, 0)
  else if 0xC2 ≤ b ∧ b ≤ 0xDF then some (1, 0x80, 0xBF)
  else if b = 0xE0 then some (2, 0xA0, 0xBF)
  else if b = 0xED then some (2, 0x80, 0x9F)
  else if 0xE1 ≤ b ∧ b ≤ 0xEF then some (2, 0x80, 0xBF)
  else if b = 0xF0 then some (3, 0x90, 0xBF)
  else if 0xF1 ≤ b ∧ b ≤ 0xF3 then some (3, 0x80, 0xBF)
  else if b = 0xF4 then some (3, 0x80, 0x8F)
  else none

/-- How many of the bytes continue a character, at most `count`; the first is bounded. -/
def continuation (count : Nat) (low high : UInt8) : List UInt8 → Nat
  | [] => 0
  | b :: rest =>
    match count with
    | 0 => 0
    | count + 1 =>
      if low ≤ b ∧ b ≤ high then continuation count 0x80 0xBF rest + 1 else 0

/-- The number of a character from its bytes, the first without its mark. -/
def codePoint (first : Nat) (rest : List UInt8) : Nat :=
  rest.foldl (fun n b => 64 * n + b.toNat % 64) first

/-- The characters of bytes; every longest piece that starts a character but does not complete it
    reads as the replacement character. -/
def decodeLossy : Nat → List UInt8 → List Char
  | 0, _ => []
  | _, [] => []
  | fuel + 1, b :: rest =>
    match leadByte? b with
    | none => '\ufffd' :: decodeLossy fuel rest
    | some (count, low, high) =>
      -- Only the bytes that may continue the character belong to it; the next one starts anew.
      let found := continuation count low high rest
      let c :=
        if found = count then
          Char.ofNat (codePoint (if count = 0 then b.toNat else b.toNat % Nat.pow 2 (6 - count))
            (rest.take count))
        else '\ufffd'
      c :: decodeLossy fuel (rest.drop found)

def readText (bytes : ByteArray) : String :=
  match String.fromUTF8? bytes with
  | some s => s
  | none => String.ofList (decodeLossy bytes.size bytes.toList)

/-- A value to store in the engine; a double that is no number becomes null. -/
def ofStored : StoredValue → Datum
  | .null => null
  | .integer n => integer n
  | .real x => ofReal x
  | .text s => ofString s
  | .blob b => blob b

def toStored : Datum → StoredValue
  | null => .null
  | integer n => .integer n
  | real x => .real x
  | text b => .text (readText b)
  | blob b => .blob b

def textBytes : Datum → ByteArray
  | null => ByteArray.empty
  | integer n => (toString n.toInt).toByteArray
  | real x => x.short.toByteArray
  | text b => b
  | blob b => b

/-! ## Numbers -/

/-- The integer of a number, if it is small enough to be exact as a double. -/
def exactInteger? (x : Binary64) : Option Int64 :=
  let n := x.truncate
  if x.isNaN then none
  else if Binary64.compareInt n.toInt x = .eq ∧ n ≠ Int64.minValue ∧ n ≠ Int64.maxValue then
    some n
  else none

/-- The number that a whole text stands for: an integer if it is written as one within 64 bits. -/
def numberOf? (bytes : ByteArray) : Option Datum :=
  let cs := characters bytes
  let r := leadingReal cs
  if r.extent = .whole then
    let n := leadingInteger cs
    if r.plain ∧ n.exact ∧ n.extent = .whole then some (integer n.value) else some (real r.value)
  else none

/-- A double as an integer if it is one, as columns of integers keep it. -/
def condense (x : Binary64) : Datum :=
  match exactInteger? x with
  | some n => integer n
  | none => real x

/-- The number that an operand stands for; a text stands for the number that it starts with. -/
def operand : Datum → Datum
  | null => null
  | integer n => integer n
  | real x => real x
  | text b | blob b =>
    let cs := characters b
    let r := leadingReal cs
    let n := leadingInteger cs
    if r.plain ∧ n.exact then integer n.value else real r.value

def toReal (d : Datum) : Binary64 :=
  match d with
  | null => .zero
  | integer n => realOf n
  | real x => x
  | text b | blob b => (leadingReal (characters b)).value

def toInteger (d : Datum) : Int64 :=
  match d with
  | null => 0
  | integer n => n
  | real x => x.truncate
  | text b | blob b => (leadingInteger (characters b)).value

/-- Whether a value is true; null is unknown. -/
def truth : Datum → Option Bool
  | null => none
  | integer n => some (n ≠ 0)
  | d => some (d.toReal.magnitude ≠ 0)

/-! ## Order -/

def compareBytes : List UInt8 → List UInt8 → Ordering
  | [], [] => .eq
  | [], _ :: _ => .lt
  | _ :: _, [] => .gt
  | a :: as, b :: bs => if a < b then .lt else if b < a then .gt else compareBytes as bs

/-- The place of a storage class in the order of values. -/
def rank : Datum → Nat
  | null => 0
  | integer _ | real _ => 1
  | text _ => 2
  | blob _ => 3

def compare (a b : Datum) : Ordering :=
  match a, b with
  | integer m, integer n => Ord.compare m.toInt n.toInt
  | integer m, real y => Binary64.compareInt m.toInt y
  | real x, integer n => (Binary64.compareInt n.toInt x).swap
  | real x, real y => Binary64.compareReal x y
  | text s, text t => compareBytes s.toList t.toList
  | blob s, blob t => compareBytes s.toList t.toList
  | a, b => Ord.compare a.rank b.rank

end Datum

/-! ## Affinity -/

/-- What a column or an expression makes of values. -/
inductive Affinity where
  | none
  | text
  | numeric
  | integer
  | real
  deriving DecidableEq

namespace Affinity

/-- A text in lower case letters of the Latin alphabet. -/
def fold (s : String) : List Char := s.toList.map Char.toLower

def occurs (part : String) (cs : List Char) : Bool :=
  match cs with
  | [] => part.isEmpty
  | _ :: rest => part.toList.isPrefixOf cs || occurs part rest

def ofType (type : String) : Affinity :=
  let name := fold type
  let has (part : String) : Bool := occurs part name
  if has "int" then integer
  else if has "char" || has "clob" || has "text" then text
  else if has "blob" || name.isEmpty then none
  else if has "real" || has "floa" || has "doub" then real
  else numeric

def isNumeric : Affinity → Bool
  | numeric | integer | real => true
  | none | text => false

/-- A value as a column of the affinity keeps and gives it. -/
def store (a : Affinity) (d : Datum) : Datum :=
  match a, d with
  | none, d => d
  | text, .integer _ => .text d.textBytes
  | text, .real _ => .text d.textBytes
  | text, d => d
  | real, .integer n => .real (Datum.realOf n)
  | real, .real x => .real x.unsignZero
  | real, .text b =>
    match Datum.numberOf? b with
    | some (.integer n) => .real (Datum.realOf n)
    | some (.real x) => .real x.unsignZero
    | _ => .text b
  | _, .real x => Datum.condense x
  | _, .text b =>
    match Datum.numberOf? b with
    | some (.real x) => Datum.condense x
    | some n => n
    | Option.none => .text b
  | _, d => d

/-- The affinity under which two operands are compared; an operand that is neither a column nor a
    conversion has none of its own. -/
def common : Option Affinity → Option Affinity → Affinity
  | some a, some b => if a.isNumeric || b.isNumeric then numeric else none
  | some a, Option.none => a
  | Option.none, some b => b
  | Option.none, Option.none => none

def compareAs (a : Affinity) (d : Datum) : Datum :=
  match a, d with
  | none, d => d
  | text, .integer _ => .text d.textBytes
  | text, .real _ => .text d.textBytes
  | text, d => d
  | _, .text b => (Datum.numberOf? b).getD (.text b)
  | _, d => d

end Affinity

/-- A value converted to the type of a given name. -/
def Datum.cast (type : String) (d : Datum) : Datum :=
  match d with
  | .null => .null
  | d =>
    match Affinity.ofType type with
    | .none => .blob d.textBytes
    | .text => .text d.textBytes
    | .integer => .integer d.toInteger
    | .real => .real d.toReal
    | .numeric =>
      match d, d.operand with
      | .real x, _ => .real x
      | _, .real x => Datum.condense x
      | _, n => n

end EntityStore.Sql
