import EntityStore.Sql.Statement

/-! # Operators on values

* `Datum.arithmetic` — sums, products, quotients and remainders.
* `Datum.concat` — texts put together; `Datum.bitwise` — operators on bits.
* `and3`, `or3` — truth that may be unknown.
* `BinaryOp.apply` — an operator between two values.
* `Total` — a sum of values, exact as long as it has met integers only.
-/

namespace EntityStore.Sql

open EntityStore.Number (Binary64)

/-! ## Arithmetic -/

namespace Datum

/-- An integer as a value, or the double next to it if it needs more than 64 bits. -/
def ofInt (n : Int) : Datum :=
  match Number.int64? n with
  | some n => integer n
  | none => real (.ofInt n)

def integerArithmetic (op : BinaryOp) (m n : Int) : Datum :=
  match op with
  | .add => ofInt (m + n)
  | .subtract => ofInt (m - n)
  | .multiply => ofInt (m * n)
  | .divide => if n = 0 then null else ofInt (m.tdiv n)
  | .remainder => if n = 0 then null else ofInt (m.tmod n)
  | _ => null

/-- An arithmetic operator between the doubles that two values stand for; a remainder is that of the
    integers that they stand for. -/
def realArithmetic (op : BinaryOp) (a b : Datum) : Datum :=
  match op with
  | .add => ofReal (a.toReal.add b.toReal)
  | .subtract => ofReal (a.toReal.sub b.toReal)
  | .multiply => ofReal (a.toReal.mul b.toReal)
  | .divide => if b.toReal.magnitude = 0 then null else ofReal (a.toReal.div b.toReal)
  | .remainder =>
    let n := b.toInteger.toInt
    if n = 0 then null else real (.ofInt (a.toInteger.toInt.tmod n))
  | _ => null

/-- An arithmetic operator between two values: between integers if both stand for one. -/
def arithmetic (op : BinaryOp) (a b : Datum) : Datum :=
  match a.operand, b.operand with
  | null, _ => null
  | _, null => null
  | integer m, integer n => integerArithmetic op m.toInt n.toInt
  | _, _ => realArithmetic op a b

/-- The texts of two values put together. -/
def concat (a b : Datum) : Datum :=
  match a, b with
  | null, _ => null
  | _, null => null
  | a, b => text (a.textBytes ++ b.textBytes)

def negate (a : Datum) : Datum := arithmetic .subtract (integer 0) a

/-- The integer that a value is, perhaps written as a double or a text. -/
def asInteger? (a : Datum) : Option Int64 :=
  match Affinity.numeric.store a with
  | integer n => some n
  | _ => none

end Datum

/-! ## Truth -/

def and3 : Option Bool → Option Bool → Option Bool
  | some false, _ => some false
  | _, some false => some false
  | some true, some true => some true
  | _, _ => none

def or3 : Option Bool → Option Bool → Option Bool
  | some true, _ => some true
  | _, some true => some true
  | some false, some false => some false
  | _, _ => none

/-! ## Comparison -/

/-- Whether an operator of comparison accepts an order; nothing if it compares nothing. -/
def BinaryOp.accepts? : BinaryOp → Ordering → Option Bool
  | .equal, o | .is, o => some (o = .eq)
  | .notEqual, o | .isNot, o => some (o ≠ .eq)
  | .less, o => some (o = .lt)
  | .lessOrEqual, o => some (o ≠ .gt)
  | .greater, o => some (o = .gt)
  | .greaterOrEqual, o => some (o ≠ .lt)
  | _, _ => none

/-- Whether an operator compares null like any other value. -/
def BinaryOp.seesNull : BinaryOp → Bool
  | .is | .isNot => true
  | _ => false

/-- An operator of comparison between two values under an affinity. -/
def Datum.compareBy (op : BinaryOp) (affinity : Affinity) (a b : Datum) : Datum :=
  if (a = .null ∨ b = .null) ∧ !op.seesNull then .null
  else .ofTruth (op.accepts? ((affinity.compareAs a).compare (affinity.compareAs b)))

/-- A number shifted to the left, bits beyond the 64 lost; a negative amount shifts to the right,
    where the sign comes in from the left. -/
def shift (n : Int64) (amount : Int) : Int64 :=
  if 0 ≤ amount then
    if 64 ≤ amount then 0 else Int64.ofInt (n.toInt * Nat.pow 2 amount.toNat)
  else if amount ≤ -64 then (if n < 0 then -1 else 0)
  else Int64.ofInt (n.toInt.fdiv (Nat.pow 2 (-amount).toNat))

/-- An operator on the bits of the integers that two values stand for. -/
def Datum.bitwise (op : BinaryOp) (a b : Datum) : Datum :=
  if a = .null ∨ b = .null then .null
  else
    match op with
    | .bitAnd => .integer (a.toInteger &&& b.toInteger)
    | .bitOr => .integer (a.toInteger ||| b.toInteger)
    | .shiftLeft => .integer (shift a.toInteger b.toInteger.toInt)
    | _ => .integer (shift a.toInteger (-b.toInteger.toInt))

/-- An operator between two values; the affinity is the one under which they are compared. -/
def BinaryOp.apply (op : BinaryOp) (affinity : Affinity) (a b : Datum) : Datum :=
  match op with
  | .and => .ofTruth (and3 a.truth b.truth)
  | .or => .ofTruth (or3 a.truth b.truth)
  | .add | .subtract | .multiply | .divide | .remainder => Datum.arithmetic op a b
  | .concat => a.concat b
  | .bitAnd | .bitOr | .shiftLeft | .shiftRight => Datum.bitwise op a b
  | _ => Datum.compareBy op affinity a b

/-- An operator before a value. -/
def UnaryOp.apply (op : UnaryOp) (a : Datum) : Datum :=
  match op with
  | .not => .ofTruth (a.truth.map (!·))
  | .minus => a.negate
  | .plus => a
  | .bitNot => if a = .null then .null else .integer (~~~ a.toInteger)

/-! ## Sums -/

/-- A sum of values. -/
structure Total where
  /-- Whether it has any summand. -/
  started : Bool := false
  exact : Int64 := 0
  near : Binary64 := .zero
  /-- Whether a summand was no integer. -/
  approximate : Bool := false
  /-- Whether the integers have gone beyond 64 bits while there was nothing but integers. -/
  overflow : Bool := false

namespace Total

/-- The sum with one more summand; null is none. -/
def add (t : Total) (d : Datum) : Total :=
  let number :=
    match d with
    | .text b => (Datum.numberOf? b).getD d
    | d => d
  match number with
  | .null => t
  | .integer n =>
    let near := t.near.add (Datum.realOf n)
    let exact := t.exact.toInt + n.toInt
    if t.approximate || t.overflow then { t with started := true, near := near }
    else
      match Number.int64? exact with
      | some exact => { t with started := true, near := near, exact := exact }
      | none => { t with started := true, near := near, overflow := true }
  | d => { t with started := true, near := t.near.add d.toReal, approximate := true }

def ofList (ds : List Datum) : Total := ds.foldl add {}

/-- The value of a sum: null without summands, nothing beyond 64 bits. -/
def result? (t : Total) : Option Datum :=
  if t.overflow then none
  else if !t.started then some .null
  else if t.approximate then some (.ofReal t.near)
  else some (.integer t.exact)

end Total

end EntityStore.Sql
