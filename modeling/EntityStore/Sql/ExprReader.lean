import EntityStore.Sql.Cursor

/-! # Reading expressions

* `readOperand` — literals, parameters, columns, calls, conversions and what stands in parentheses.
* `extend?` — one more operator after what has been read, if it binds tightly enough.
* `readExpr` — a whole expression.

The levels of operators, from the loosest to the tightest: 1 `or`, 2 `and`, 3 `not`, 4 equality and
membership, 5 order, 6 bits, 7 sums, 8 products, 9 concatenation, 11 signs.
-/

namespace EntityStore.Sql

/-! ## Literals -/

/-- The integer or, if it has too many digits, the double that digits stand for. -/
def integerLiteral (digits : String) : Datum :=
  match digits.toList with
  | '0' :: 'x' :: hex =>
    .integer (Int64.ofNat ((Number.readHex? hex).getD 0))
  | cs =>
    let n := Number.ofDigits cs
    if Number.Fits 64 n then .integer (Int64.ofNat n) else .real (Number.leadingReal cs).value

def decimalLiteral (written : String) : Datum := .real (Number.leadingReal written.toList).value

def Token.literal? : Token → Option Datum
  | .text value => some (.ofString value)
  | .bytes digits => some (.blob ⟨(Number.hexBytes digits.toList).toArray⟩)
  | .integer digits => some (integerLiteral digits)
  | .decimal written => some (decimalLiteral written)
  | .word letters => if foldWord letters = "null" then some .null else none
  | _ => none

/-- Whether a token is the integer that only a minus sign brings into range. -/
def Token.isLeastMagnitude : Token → Bool
  | .integer digits => Number.readNatural? digits.toList = some (Nat.pow 2 63)
  | _ => false

/-- Whether the next token, in parentheses or not, is that integer. -/
def atLeastMagnitude : Reader Bool :=
  return ((← get).rest.find? (· ≠ .symbol "(")).any Token.isLeastMagnitude

/-- An operand after a minus sign.  A literal that starts as the least magnitude is the least
    integer, no matter how many parentheses stand between. -/
def Expr.negative (least : Bool) : Expr → Expr
  | .literal (.real value) =>
    if least then .literal (.integer Int64.minValue) else .unary .minus (.literal (.real value))
  | operand => .unary .minus operand

/-! ## Operands -/

/-- What a trigger does when it raises an error. -/
def raiseActions : List (String × RaiseAction) :=
  [("abort", .abort), ("fail", .fail), ("rollback", .rollback)]

def readRaise : Reader Expr := do
  expectSymbol "("
  if ← takeWord "ignore" then
    expectSymbol ")"
    return .raise .ignore ""
  match ← takeToken fun token => raiseActions.findSome? fun (word, action) =>
      if token.isWord word then some action else none with
  | none => refuse
  | some action =>
    expectSymbol ","
    let message ← readName
    expectSymbol ")"
    return .raise action message

/-- Reads what stands in parentheses after the name of a function. -/
def readCall (inner : Nat → Reader Expr) (place : Nat) (function : String) : Reader Expr := do
  if ← takeSymbol "*" then
    expectSymbol ")"
    return .callStar place function
  if ← takeSymbol ")" then return .call place function []
  let arguments ← readCommas (inner 1)
  expectSymbol ")"
  return .call place function arguments

def readNamed (inner : Nat → Reader Expr) : Reader Expr := do
  let place ← herePlace
  match ← peek? with
  | none => refuse
  | some token =>
    let name ← readName
    if ← takeSymbol "(" then readCall inner place name
    else if ← takeSymbol "." then return .column place (some name) (← readName) false
    else
      match token with
      | .quotedName '"' _ => return .column place none name true
      | .quotedName _ _ => return .quotedColumn place name
      | _ => return .column place none name false

/-- The words that ask for the clock, which no expression here does. -/
def clockWords : List String := ["current_date", "current_time", "current_timestamp"]

/-- Reads an operand; `inner` reads what stands inside, from a level on. -/
def readOperand (inner : Nat → Reader Expr) : Reader Expr := do
  if ← takeSymbol "(" then
    let expr ← inner 1
    expectSymbol ")"
    return expr
  if ← takeSymbol "-" then
    let least ← atLeastMagnitude
    return .negative least (← inner 11)
  if ← takeSymbol "+" then return .unary .plus (← inner 11)
  if ← takeSymbol "~" then return .unary .bitNot (← inner 11)
  if ← takeWord "not" then return .unary .not (← inner 4)
  if ← takeWord "cast" then
    expectSymbol "("
    let operand ← inner 1
    expectWord "as"
    let type ← readType
    expectSymbol ")"
    return .cast operand type
  if ← takeWord "raise" then return ← readRaise
  if let some value ← takeToken Token.literal? then return .literal value
  match ← peek? with
  | some (.parameter written) =>
    advance
    return .parameter (← readParameterNumber written)
  | some (.word letters) =>
    if clockWords.contains (foldWord letters) then refuse else readNamed inner
  | _ => readNamed inner

/-! ## Operators -/

def symbolOperators : List (String × BinaryOp × Nat) := [
  ("=", .equal, 4), ("==", .equal, 4), ("<>", .notEqual, 4), ("!=", .notEqual, 4),
  ("<", .less, 5), ("<=", .lessOrEqual, 5), (">", .greater, 5), (">=", .greaterOrEqual, 5),
  ("&", .bitAnd, 6), ("|", .bitOr, 6), ("<<", .shiftLeft, 6), (">>", .shiftRight, 6),
  ("+", .add, 7), ("-", .subtract, 7), ("*", .multiply, 8), ("/", .divide, 8),
  ("%", .remainder, 8), ("||", .concat, 9)]

def wordOperators : List (String × BinaryOp × Nat) := [("or", .or, 1), ("and", .and, 2)]

def Token.operator? : Token → Option (BinaryOp × Nat)
  | .symbol written => symbolOperators.lookup written
  | .word letters => wordOperators.lookup (foldWord letters)
  | _ => none

def negateIf (negated : Bool) (expr : Expr) : Expr :=
  if negated then .unary .not expr else expr

def Expr.isZero : Expr → Bool
  | .literal (.integer n) => n = 0
  | _ => false

/-- An operator between two operands.  Where one operand of `and` is written as zero, the other
    does not matter, not even its names. -/
def Expr.operation (op : BinaryOp) (left right : Expr) : Expr :=
  if op = .and ∧ (left.isZero ∨ right.isZero) then .literal (.integer 0)
  else .binary op left right

/-- Reads the list or the bounds after `in` or `between`; in an empty list there is nothing, and
    the operand does not matter. -/
def readMembership (inner : Nat → Reader Expr) (left : Expr) (negated : Bool) :
    Reader Expr := do
  if ← takeWord "between" then
    let low ← inner 3
    expectWord "and"
    let high ← inner 5
    return negateIf negated
      (.binary .and (.binary .greaterOrEqual left low) (.binary .lessOrEqual left high))
  expectWord "in"
  expectSymbol "("
  if ← takeSymbol ")" then return negateIf negated (.inList (.literal .null) [])
  let items ← readCommas (inner 1)
  expectSymbol ")"
  return negateIf negated (.inList left items)

def extendByWord? (inner : Nat → Reader Expr) (left : Expr) : Reader (Option Expr) := do
  if ← takeWord "isnull" then return some (.isNull left)
  if ← takeWord "notnull" then return some (.unary .not (.isNull left))
  if ← takeWord "is" then
    let op := if ← takeWord "not" then BinaryOp.isNot else .is
    return some (.binary op left (← inner 5))
  if ← takeWord "not" then
    if ← takeWord "null" then return some (.unary .not (.isNull left))
    return some (← readMembership inner left true)
  if (← atWord "in") || (← atWord "between") then
    return some (← readMembership inner left false)
  return none

/-- Reads one more operator of at least the level with its right operand. -/
def extend? (inner : Nat → Reader Expr) (level : Nat) (left : Expr) : Reader (Option Expr) := do
  match (← peek?).bind Token.operator? with
  | some (op, tightness) =>
    if level ≤ tightness then
      advance
      return some (.operation op left (← inner (tightness + 1)))
    else return none
  | none => if level ≤ 4 then extendByWord? inner left else return none

/-- Reads at most so many operators of at least the level. -/
def extendUpTo (inner : Nat → Reader Expr) (level : Nat) : Nat → Expr → Reader Expr
  | 0, left => return left
  | count + 1, left => do
    match ← extend? inner level left with
    | some longer => extendUpTo inner level count longer
    | none => return left

def readExprWithin : Nat → Nat → Reader Expr
  | 0, _ => refuse
  | depth + 1, level => do
    let left ← readOperand (readExprWithin depth)
    extendUpTo (readExprWithin depth) level (← herePlace) left

/-- Reads an expression.  Every level of depth takes a token, so no expression is too deep. -/
def readExpr : Reader Expr := do readExprWithin ((← herePlace) + 1) 1

end EntityStore.Sql
