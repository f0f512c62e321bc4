import EntityStore.Number.Hexadecimal
import EntityStore.Text.Blank

/-! # Request ids

The 128-bit id of one transaction:

* `RequestId.read?` — 32 hexadecimal digits, bare or in groups; grouped ones also in braces or
  after `urn:uuid:`.
* `RequestId.text` — the grouped form in lower case.
* `RequestId.sorted` — distinct ids in increasing order.
-/

namespace EntityStore

open EntityStore.Number (readHex?)

structure RequestId where
  value : BitVec 128
  deriving DecidableEq

namespace RequestId

/-- Exactly 32 digits. -/
def readBare? (cs : List Char) : Option RequestId :=
  if cs.length = 32 then (readHex? cs).map fun n => ⟨BitVec.ofNat 128 n⟩ else none

/-- Groups of 8, 4, 4, 4 and 12 digits with hyphens between them. -/
def readGrouped? (cs : List Char) : Option RequestId :=
  let groups := Text.splitChars '-' cs
  if groups.map List.length = [8, 4, 4, 4, 12] then readBare? groups.flatten else none

/-- The mark before the groups of an id written as a name. -/
def nameMark : List Char := "urn:uuid:".toList

def read? (s : String) : Option RequestId :=
  let cs := s.toList
  match readBare? cs with
  | some id => some id
  | none =>
    match readGrouped? cs with
    | some id => some id
    | none =>
      if cs.take nameMark.length = nameMark then readGrouped? (cs.drop nameMark.length)
      else if cs.head? = some '\x7b' ∧ cs.getLast? = some '\x7d' then
        readGrouped? (cs.drop 1).dropLast
      else none

/-- The last `count` hexadecimal digits of a number, leading zeros included. -/
def hexText (count n : Nat) : List Char :=
  let digits := Nat.toDigits 16 n
  List.replicate (count - digits.length) '0' ++ digits

/-- The grouped form in lower case. -/
def text (id : RequestId) : String :=
  let cs := hexText 32 id.value.toNat
  String.ofList (cs.take 8 ++ '-' :: (cs.drop 8).take 4 ++ '-' :: (cs.drop 12).take 4
    ++ '-' :: (cs.drop 16).take 4 ++ '-' :: cs.drop 20)

/-- An id in its place among distinct increasing ids. -/
def insertSorted (id : RequestId) : List RequestId → List RequestId
  | [] => [id]
  | other :: rest =>
    if id = other then other :: rest
    else if id.value.toNat < other.value.toNat then id :: other :: rest
    else other :: insertSorted id rest

/-- The distinct ids in increasing order. -/
def sorted (ids : List RequestId) : List RequestId := ids.foldl (fun out id => insertSorted id out) []

end RequestId

end EntityStore
