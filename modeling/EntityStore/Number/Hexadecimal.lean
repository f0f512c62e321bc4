/-! # Hexadecimal digits

* `hexValue?` — the value of a digit.
* `readHex?` — digits as a number.
* `hexBytes` — pairs of digits as bytes.
-/

namespace EntityStore.Number

/-- The value of a hexadecimal digit, in either case. -/
def hexValue? (c : Char) : Option Nat :=
  if '0' ≤ c ∧ c ≤ '9' then some (c.toNat - '0'.toNat)
  else if 'a' ≤ c ∧ c ≤ 'f' then some (c.toNat - 'a'.toNat + 10)
  else if 'A' ≤ c ∧ c ≤ 'F' then some (c.toNat - 'A'.toNat + 10)
  else none

/-- Hexadecimal digits as a number. -/
def readHex? (cs : List Char) : Option Nat :=
  cs.foldlM (fun n c => (hexValue? c).map (16 * n + ·)) 0

/-- The bytes that pairs of hexadecimal digits stand for; another character counts as zero. -/
def hexBytes : List Char → List UInt8
  | a :: b :: rest =>
    UInt8.ofNat (16 * (hexValue? a).getD 0 + (hexValue? b).getD 0) :: hexBytes rest
  | _ => []

end EntityStore.Number
