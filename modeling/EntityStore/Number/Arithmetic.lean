import EntityStore.Number.Decimal

/-! # Arithmetic of doubles

Sums, products and quotients of doubles, each the exact result rounded once to the nearest double:

* `Binary64.add`, `Binary64.sub`, `Binary64.mul`, `Binary64.div` — the operations.
* `Binary64.compareInt`, `Binary64.compareReal` — exact order, with integers and with doubles.
-/

namespace EntityStore.Number

namespace Binary64

/-- The double nearest to `m * 2 ^ e`, positive if it is zero. -/
def ofDyadic (m : Int) (e : Int) : Binary64 := ofParts (m < 0) (binary64.ofDyadic m.natAbs e)

def neg (x : Binary64) : Binary64 := ofParts (!x.negative) x.magnitude

def infinite (negative : Bool) : Binary64 := ofParts negative binary64.infinity

def add (x y : Binary64) : Binary64 :=
  if x.isNaN || y.isNaN then nan
  else if x.isInfinite then
    if y.isInfinite && x.negative != y.negative then nan else x
  else if y.isInfinite then y
  else if x.magnitude = 0 && y.magnitude = 0 then ofParts (x.negative && y.negative) 0
  else
    let (m, e) := x.dyadic
    let (n, f) := y.dyadic
    let low := min e f
    ofDyadic (m * Nat.pow 2 (e - low).toNat + n * Nat.pow 2 (f - low).toNat) low

def sub (x y : Binary64) : Binary64 := x.add y.neg

def mul (x y : Binary64) : Binary64 :=
  let negative := x.negative != y.negative
  if x.isNaN || y.isNaN then nan
  else if x.isInfinite || y.isInfinite then
    if x.magnitude = 0 || y.magnitude = 0 then nan else infinite negative
  else
    let (m, e) := x.dyadic
    let (n, f) := y.dyadic
    ofParts negative (binary64.ofDyadic (m * n).natAbs (e + f))

def div (x y : Binary64) : Binary64 :=
  let negative := x.negative != y.negative
  if x.isNaN || y.isNaN then nan
  else if x.isInfinite then if y.isInfinite then nan else infinite negative
  else if y.isInfinite then ofParts negative 0
  else if y.magnitude = 0 then if x.magnitude = 0 then nan else infinite negative
  else
    let (m, e) := x.dyadic
    let (n, f) := y.dyadic
    let shift := e - f
    ofParts negative
      (if 0 ≤ shift then binary64.round (m.natAbs * Nat.pow 2 shift.toNat) n.natAbs
        else binary64.round m.natAbs (n.natAbs * Nat.pow 2 (-shift).toNat))

/-- The order of doubles that are numbers; the two zeros are equal. -/
def compareReal (x y : Binary64) : Ordering := compareDyadic x.dyadic y.dyadic

/-- The order of an integer and a double that is a number. -/
def compareInt (n : Int) (x : Binary64) : Ordering := compareDyadic (n, 0) x.dyadic

end Binary64

end EntityStore.Number
