import EntityStore.Number.Hexadecimal
import EntityStore.Sql.Keyword
import EntityStore.Sql.Statement

/-! # Reading tokens

What every reader of a part of a statement is made of:

* `Cursor` — the tokens that are left, and the parameters met so far.
* `Reader` — reads a part, or refuses the token that it stands at.
* `takeSymbol`, `expectWord`, `readName`, `readCommas` — the readers of tokens, names and lists.

A refusal is the place of the token that does not fit: how many tokens are left there.
-/

namespace EntityStore.Sql

/-- A position in a statement. -/
structure Cursor where
  rest : List Token
  /-- The greatest number of a parameter so far. -/
  parameters : Nat := 0
  /-- The numbers of the parameters with names. -/
  named : List (String × Nat) := []

/-- Reads a part of a statement, or refuses a token by its place. -/
abbrev Reader := StateT Cursor (Except Nat)

def refuse {α : Type} : Reader α := do throw (← get).rest.length

def herePlace : Reader Nat := return (← get).rest.length

def peek? : Reader (Option Token) := return (← get).rest.head?

/-- Goes on to the token after the next. -/
def advance : Reader Unit := modify fun c => { c with rest := c.rest.tail }

/-! ## Single tokens -/

def takeSymbol (text : String) : Reader Bool := do
  if (← peek?) = some (.symbol text) then
    advance
    return true
  else return false

def expectSymbol (text : String) : Reader Unit := do
  if ← takeSymbol text then return () else refuse

def Token.isWord (keyword : String) : Token → Bool
  | .word letters => foldWord letters = keyword
  | _ => false

def atWord (keyword : String) : Reader Bool := return (← peek?).any (·.isWord keyword)

def takeWord (keyword : String) : Reader Bool := do
  if ← atWord keyword then
    advance
    return true
  else return false

def expectWord (keyword : String) : Reader Unit := do
  if ← takeWord keyword then return () else refuse

def expectWords (keywords : List String) : Reader Unit := keywords.forM expectWord

/-! ## Names -/

def Token.name? : Token → Option String
  | .word letters => if isReserved letters then none else some letters
  | .quotedName _ name => some name
  | .text value => some value
  | _ => none

def Token.plainName? : Token → Option String
  | .word letters =>
    if isReserved letters || isJoinWord letters then none else some letters
  | token => token.name?

def takeToken {α : Type} (meaning : Token → Option α) : Reader (Option α) := do
  match (← peek?).bind meaning with
  | some a =>
    advance
    return some a
  | none => return none

def readName : Reader String := do
  match ← takeToken Token.name? with
  | some name => return name
  | none => refuse

def quotedAs (quote : Char) (name : String) : String :=
  String.ofList
    (quote :: name.toList.flatMap (fun c => if c = quote then [c, c] else [c]) ++ [quote])

def Token.writtenName : Token → String
  | .word letters => letters
  | .quotedName mark name => if mark = '[' then "[" ++ name ++ "]" else quotedAs mark name
  | .text value => quotedAs '\'' value
  | _ => ""

def readSimpleName (database : Option String) : Reader ObjectName := do
  let place ← herePlace
  let written := ((← peek?).map Token.writtenName).getD ""
  return { place := place, database := database, name := ← readName, written := written }

def readObjectName : Reader ObjectName := do
  let first ← readSimpleName none
  if ← takeSymbol "." then readSimpleName (some first.name) else return first

/-! ## Lists -/

/-- Reads at most so many items, with a comma between any two. -/
def readCommasUpTo {α : Type} (item : Reader α) : Nat → Reader (List α)
  | 0 => refuse
  | count + 1 => do
    let first ← item
    if ← takeSymbol "," then return first :: (← readCommasUpTo item count)
    else return [first]

/-- Reads one or more items with commas between them. -/
def readCommas {α : Type} (item : Reader α) : Reader (List α) := do
  readCommasUpTo item ((← herePlace) + 1)

def readParenthesized {α : Type} (item : Reader α) : Reader (List α) := do
  expectSymbol "("
  let items ← readCommas item
  expectSymbol ")"
  return items

def readManyUpTo {α : Type} (item? : Reader (Option α)) : Nat → Reader (List α)
  | 0 => return []
  | count + 1 => do
    match ← item? with
    | some first => return first :: (← readManyUpTo item? count)
    | none => return []

def readMany {α : Type} (item? : Reader (Option α)) : Reader (List α) := do
  readManyUpTo item? ((← herePlace) + 1)

/-! ## Types -/

def skipSizes : Reader Unit := do
  if ← takeSymbol "(" then
    let _ ← readCommas do
      if !(← takeSymbol "-") then let _ ← takeSymbol "+"
      match ← peek? with
      | some (.integer _) | some (.decimal _) => advance
      | _ => refuse
    expectSymbol ")"

def readType : Reader String := do
  let words ← readMany (takeToken Token.plainName?)
  if !words.isEmpty then skipSizes
  return " ".intercalate words

/-! ## Parameters -/

def readParameterNumber (written : String) : Reader Nat := do
  let cursor ← get
  let next := cursor.parameters + 1
  match written.toList with
  | ['?'] =>
    set { cursor with parameters := next }
    return next
  | '?' :: digits =>
    let number := Number.ofDigits digits
    set { cursor with parameters := max cursor.parameters number }
    return number
  | _ =>
    match cursor.named.lookup written with
    | some number => return number
    | none =>
      set { cursor with parameters := next, named := (written, next) :: cursor.named }
      return next

end EntityStore.Sql
