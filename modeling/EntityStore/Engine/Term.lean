import EntityStore.Engine.Fault
import EntityStore.Sql.Operator

/-! # Terms

Expressions whose names are found:

* `Term` — an expression over the values of a row, or of a group of rows.
* `Scope.resolve` — finds the names of an expression.
* `Term.eval` — the value of a term; `Term.overflows` says where a sum has none.
-/

namespace EntityStore.Engine

open EntityStore.Sql (Datum Affinity BinaryOp UnaryOp Expr Total foldWord sameName)

/-- An expression whose names are found. -/
inductive Term where
  | literal (value : Datum)
  | parameter (number : Nat)
  | column (place : Nat) (affinity : Affinity)
  | unary (op : UnaryOp) (operand : Term)
  /-- An operator; its operands are compared under the affinity. -/
  | binary (op : BinaryOp) (affinity : Affinity) (left right : Term)
  | isNull (operand : Term)
  | cast (operand : Term) (type : String)
  | typeOf (operand : Term)
  | countRows
  /-- How many rows of the group give a value that is not null. -/
  | count (operand : Term)
  /-- The sum over the rows of the group. -/
  | sum (operand : Term)

namespace Term

def affinity? : Term → Option Affinity
  | column _ affinity => some affinity
  | cast _ type => some (.ofType type)
  | _ => none

def binaryOf (op : BinaryOp) (left right : Term) : Term :=
  binary op (.common left.affinity? right.affinity?) left right

def truth (t : Term) : Term := unary .not (unary .not t)

def memberOf (operand : Term) : List Term → Term
  | [] => literal (.ofBool false)
  | [item] => binary .equal (.common operand.affinity? none) operand item
  | item :: rest =>
    binary .or .none (binary .equal (.common operand.affinity? none) operand item)
      (operand.memberOf rest)

/-- Whether a term depends on a whole group of rows. -/
def isAggregate : Term → Bool
  | countRows | count _ | sum _ => true
  | unary _ a | isNull a | cast a _ | typeOf a => a.isAggregate
  | binary _ _ a b => a.isAggregate || b.isAggregate
  | _ => false

end Term

/-! ## Names -/

/-- What an expression may refer to. -/
structure Scope where
  sources : List Source := []
  /-- Results of the query that go by names of their own. -/
  results : List (String × Term) := []
  /-- Whether it may depend on a whole group of rows. -/
  aggregates : Bool := false
  /-- How an error begins about what depends on a whole group but may not. -/
  misuse : String := "misuse of aggregate function "

def truthWord? (name : String) : Option Datum :=
  if sameName name "true" then some (.ofBool true)
  else if sameName name "false" then some (.ofBool false)
  else none

namespace Scope

def result? (s : Scope) (name : String) : Option Term :=
  (s.results.find? fun r => sameName r.1 name).map (·.2)

def otherName (s : Scope) (place : Nat) (name : String) (doubleQuoted : Bool) :
    Except Fault Term :=
  match s.result? name with
  | some term => .ok term
  | none =>
    if doubleQuoted then .ok (.literal (.ofString name))
    else
      match truthWord? name with
      | some value => .ok (.literal value)
      | none => .error (.noColumn place name)

def column (s : Scope) (place : Nat) (table : Option String) (name : String)
    (doubleQuoted : Bool) : Except Fault Term :=
  match findColumn? table name s.sources 0, table with
  | some (i, affinity), _ => .ok (.column i affinity)
  | none, some table => .error (.noColumn place (table ++ "." ++ name))
  | none, none => s.otherName place name doubleQuoted

/-- What a name stands for that is neither a text nor a truth value. -/
def quotedColumn (s : Scope) (place : Nat) (name : String) : Except Fault Term :=
  match findColumn? none name s.sources 0, s.result? name with
  | some (i, affinity), _ => .ok (.column i affinity)
  | none, some term => .ok term
  | none, none => .error (.noColumn place name)

def functions : List (String × List Nat) := [("typeof", [1]), ("count", [0, 1]), ("sum", [1])]

def checkCall (s : Scope) (place : Nat) (function : String) (operands : Nat) :
    Except Fault String :=
  let name := foldWord function
  match functions.lookup name with
  | none => .error (.located place ("no such function: " ++ function))
  | some counts =>
    if !counts.contains operands then
      .error (.located place ("wrong number of arguments to function " ++ function ++ "()"))
    else if name ≠ "typeof" ∧ !s.aggregates then
      .error (.located place (s.misuse ++ function ++ "()"))
    else .ok name

def callTerm (name : String) (operands : List Term) : Term :=
  match name, operands with
  | "typeof", [a] => .typeOf a
  | "sum", [a] => .sum a
  | _, [a] => .count a
  | _, _ => .countRows

def isPlainName : Expr → Bool
  | .column _ none _ _ | .quotedColumn _ _ => true
  | _ => false

/-- Whether an expression is a truth word that nothing else goes by; after `is` it asks for truth. -/
def isTruthWord (s : Scope) : Expr → Bool
  | .column _ none name false =>
    (findColumn? none name s.sources 0).isNone && (s.result? name).isNone && (truthWord? name).isSome
  | _ => false

mutual

/-- Finds the names of an expression; a name after `is` is looked for first. -/
def resolve (s : Scope) : Expr → Except Fault Term
  | .literal value => .ok (.literal value)
  | .parameter number => .ok (.parameter number)
  | .column place table name doubleQuoted => s.column place table name doubleQuoted
  | .quotedColumn place name => s.quotedColumn place name
  | .unary op operand => do
    match op, ← s.resolve operand with
    | .minus, .literal (.real x) => return .literal (.real x.neg)
    | op, a => return .unary op a
  | .binary op left right => do
    if op.seesNull && isPlainName right then
      let second ← s.resolve right
      let first ← s.resolve left
      return if s.isTruthWord right then .binary op .none first.truth second else .binaryOf op first second
    else return .binaryOf op (← s.resolve left) (← s.resolve right)
  | .isNull operand => do return .isNull (← s.resolve operand)
  | .inList operand items => do
    return (← s.resolve operand).memberOf (← s.resolveAll items)
  | .cast operand type => do return .cast (← s.resolve operand) type
  | .call place function arguments => do
    let name ← s.checkCall place function arguments.length
    let operands ← resolveAll { s with aggregates := s.aggregates && name = "typeof" } arguments
    return callTerm name operands
  | .callStar place function => do
    let name ← s.checkCall place function (if foldWord function = "count" then 0 else 2)
    return callTerm name []
  | .raise _ _ => .error (.statement "RAISE() may only be used within a trigger-program")

/-- Finds the names of expressions, one after the other. -/
def resolveAll (s : Scope) : List Expr → Except Fault (List Term)
  | [] => .ok []
  | e :: rest => do return (← s.resolve e) :: (← s.resolveAll rest)

end

def resolve? (s : Scope) (e : Option Expr) : Except Fault (Option Term) :=
  match e with
  | none => .ok none
  | some e => (s.resolve e).map some

end Scope

/-! ## Values -/

/-- What the value of a term depends on. -/
structure Env where
  parameters : List Datum
  row : Row := []
  group : List Row := []

def Env.at (env : Env) (row : Row) : Env := { env with row := row, group := [] }

namespace Term

/-- The value of a term; a sum beyond 64 bits counts as null. -/
def eval (env : Env) : Term → Datum
  | literal value => value
  | parameter number => env.parameters.getD (number - 1) .null
  | column place _ => env.row.getD place .null
  | unary op a => op.apply (a.eval env)
  | binary op affinity a b => op.apply affinity (a.eval env) (b.eval env)
  | isNull a => .ofBool (a.eval env = .null)
  | cast a type => (a.eval env).cast type
  | typeOf a => .ofString (a.eval env).className
  | countRows => .integer (Int64.ofNat env.group.length)
  | count a =>
    .integer (Int64.ofNat (env.group.filter fun row => a.eval (env.at row) ≠ .null).length)
  | sum a => ((Total.ofList (env.group.map fun row => a.eval (env.at row))).result?).getD .null

/-- Whether a sum in the term goes beyond 64 bits. -/
def overflows (env : Env) : Term → Bool
  | sum a => ((Total.ofList (env.group.map fun row => a.eval (env.at row))).result?).isNone
  | unary _ a | isNull a | cast a _ | typeOf a => a.overflows env
  | binary _ _ a b => a.overflows env || b.overflows env
  | _ => false

def holds (env : Env) (t : Term) : Bool := (t.eval env).truth = some true

end Term

def holdsAll (env : Env) (condition : Option Term) : Bool := condition.all (·.holds env)

end EntityStore.Engine
