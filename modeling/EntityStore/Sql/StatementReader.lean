import EntityStore.Sql.ExprReader

/-! # Reading statements

* `readSelect`, `readInsert`, `readUpdate`, `readDelete` — queries and changes.
* `readCreate`, `readDrop`, `readAlter` — definitions.
* `readStatement` — any statement.
* `parse` — the first statement of a list of tokens, and the tokens after it.
-/

namespace EntityStore.Sql

/-! ## Queries -/

def readExprAfter? (keyword : String) : Reader (Option Expr) := do
  if ← takeWord keyword then return some (← readExpr) else return none

def readAlias? : Reader (Option String) := do
  if ← takeWord "as" then return some (← readName) else takeToken Token.plainName?

def readOutput : Reader Output := do
  if ← takeSymbol "*" then return .all
  let expr ← readExpr
  return .value expr (← readAlias?)

def readGroupKey : Reader SortKey := do
  let place ← herePlace
  return { place := place, expr := ← readExpr }

def readSortKey : Reader SortKey := do
  let key ← readGroupKey
  if ← takeWord "desc" then return { key with descending := true }
  let _ ← takeWord "asc"
  return key

def readBy {α : Type} (keyword : String) (item : Reader α) : Reader (List α) := do
  if ← takeWord keyword then
    expectWord "by"
    readCommas item
  else return []

def readLimit : Reader (Option Expr × Option Expr) := do
  match ← readExprAfter? "limit" with
  | none => return (none, none)
  | some first =>
    if ← takeSymbol "," then return (some (← readExpr), some first)
    else return (some first, ← readExprAfter? "offset")

def readSelect : Reader Select := do
  let outputs ← readCommas readOutput
  let source ← if ← takeWord "from" then some <$> readObjectName else pure none
  let label ← if source.isSome then readAlias? else pure none
  let condition ← readExprAfter? "where"
  let groups ← readBy "group" readGroupKey
  let orders ← readBy "order" readSortKey
  let (limit, offset) ← readLimit
  return { outputs := outputs, source := source, label := label, condition := condition
           groups := groups, orders := orders, limit := limit, offset := offset }

/-! ## Changes -/

/-- The words for what happens when a constraint is broken. -/
def conflictActions : List (String × ConflictAction) :=
  [("abort", .abort), ("fail", .fail), ("ignore", .ignore), ("replace", .replace),
    ("rollback", .rollback)]

def Token.conflictAction? (token : Token) : Option ConflictAction :=
  conflictActions.findSome? fun (keyword, action) =>
    if token.isWord keyword then some action else none

/-- Reads what happens when a constraint is broken. -/
def readConflictAction : Reader ConflictAction := do
  if ← takeWord "or" then
    match ← takeToken Token.conflictAction? with
    | some action => return action
    | none => refuse
  else return .abort

/-- Reads new rows after `insert` or `replace`. -/
def readInsert (onConflict : ConflictAction) : Reader Insert := do
  expectWord "into"
  let table ← readObjectName
  let columns ←
    if (← peek?) = some (.symbol "(") then some <$> readParenthesized readName else pure none
  expectWord "values"
  let rows ← readCommas (readParenthesized readExpr)
  return { onConflict := onConflict, table := table, columns := columns, rows := rows }

def readAssignment : Reader (String × Expr) := do
  let column ← readName
  expectSymbol "="
  return (column, ← readExpr)

def readUpdate : Reader Update := do
  let onConflict ← readConflictAction
  let table ← readObjectName
  expectWord "set"
  let assignments ← readCommas readAssignment
  return { onConflict := onConflict, table := table, assignments := assignments
           condition := ← readExprAfter? "where" }

def readDelete : Reader Delete := do
  expectWord "from"
  let table ← readObjectName
  return { table := table, condition := ← readExprAfter? "where" }

/-! ## Tables -/

def readStandard : Reader Expr := do
  if ← takeSymbol "(" then
    let expr ← readExpr
    expectSymbol ")"
    return expr
  let negative ← takeSymbol "-"
  if !negative then let _ ← takeSymbol "+"
  let least ← atLeastMagnitude
  if let some value ← takeToken Token.literal? then
    return if negative then .negative least (.literal value) else .literal value
  return .literal (.ofString (← readName))

def readColumnRule? : Reader (Option (ColumnDefinition → ColumnDefinition)) := do
  if ← takeWord "constraint" then let _ ← readName
  if ← takeWord "primary" then
    expectWord "key"
    if !(← takeWord "asc") then let _ ← takeWord "desc"
    let _ ← takeWord "autoincrement"
    return some fun c => { c with primaryKey := true }
  if ← takeWord "not" then
    expectWord "null"
    return some fun c => { c with notNull := true }
  if ← takeWord "null" then return some id
  if ← takeWord "unique" then return some fun c => { c with unique := true }
  if ← takeWord "default" then
    let standard ← readStandard
    return some fun c => { c with standard := some standard }
  return none

def readColumn : Reader ColumnDefinition := do
  let name ← readName
  let type ← readType
  let rules ← readMany readColumnRule?
  return rules.foldl (fun c rule => rule c) { name := name, type := type }

def readColumnName : Reader ColumnName := do return { place := ← herePlace, name := ← readName }

def readTablePart : Reader (ColumnDefinition ⊕ TableConstraint) := do
  if ← takeWord "constraint" then let _ ← readName
  if ← takeWord "primary" then
    expectWord "key"
    return .inr (.primaryKey (← readParenthesized readColumnName))
  if ← takeWord "unique" then return .inr (.unique (← readParenthesized readColumnName))
  return .inl (← readColumn)

def readIfAbsent : Reader Bool := do
  if ← takeWord "if" then
    expectWords ["not", "exists"]
    return true
  else return false

def readTable : Reader TableDefinition := do
  let ifAbsent ← readIfAbsent
  let name ← readObjectName
  let parts ← readParenthesized readTablePart
  let withoutRowId ← takeWord "without"
  if withoutRowId then expectWord "rowid"
  return { ifAbsent := ifAbsent, name := name, columns := parts.filterMap Sum.getLeft?
           constraints := parts.filterMap Sum.getRight?, withoutRowId := withoutRowId }

/-! ## Indexes, views and triggers -/

def readIndex (unique : Bool) : Reader IndexDefinition := do
  let ifAbsent ← readIfAbsent
  let name ← readObjectName
  expectWord "on"
  let table ← readName
  let terms ← readParenthesized readSortKey
  return { unique := unique, ifAbsent := ifAbsent, name := name, table := table
           terms := terms.map (·.expr) }

def readView : Reader ViewDefinition := do
  let ifAbsent ← readIfAbsent
  let name ← readObjectName
  let columns ← if (← peek?) = some (.symbol "(") then readParenthesized readName else pure []
  expectWord "as"
  expectWord "select"
  return { ifAbsent := ifAbsent, name := name, columns := columns, query := ← readSelect }

def readTriggerTime : Reader Bool := do
  if ← takeWord "before" then return true
  if ← takeWord "after" then return false
  return true

def readTriggerEvent : Reader TriggerEvent := do
  if ← takeWord "insert" then return .insert
  if ← takeWord "delete" then return .delete
  expectWord "update"
  if ← takeWord "of" then return .update (← readCommas readName) else return .update []

def readTriggerStep? : Reader (Option Select) := do
  if ← takeWord "select" then
    let step ← readSelect
    expectSymbol ";"
    return some step
  else return none

def readTrigger : Reader TriggerDefinition := do
  let ifAbsent ← readIfAbsent
  let name ← readObjectName
  let before ← readTriggerTime
  let event ← readTriggerEvent
  expectWord "on"
  let table ← readObjectName
  if ← takeWord "for" then expectWords ["each", "row"]
  let condition ← readExprAfter? "when"
  expectWord "begin"
  let steps ← readMany readTriggerStep?
  if steps.isEmpty then refuse
  expectWord "end"
  return { ifAbsent := ifAbsent, name := name, before := before, event := event, table := table
           condition := condition, steps := steps }

/-! ## Definitions -/

def readCreate : Reader Statement := do
  if ← takeWord "table" then return .createTable (← readTable)
  if ← takeWord "view" then return .createView (← readView)
  if ← takeWord "trigger" then return .createTrigger (← readTrigger)
  let unique ← takeWord "unique"
  expectWord "index"
  return .createIndex (← readIndex unique)

def readDrop : Reader Statement := do
  match ← takeToken fun token =>
      [ObjectKind.table, .index, .view, .trigger].find? fun kind => token.isWord kind.name with
  | none => refuse
  | some kind =>
    let ifPresent ← takeWord "if"
    if ifPresent then expectWord "exists"
    return .drop kind ifPresent (← readObjectName)

def readAlter : Reader Statement := do
  expectWord "table"
  let table ← readObjectName
  if ← takeWord "rename" then
    expectWord "to"
    return .alter table (.renameTo (← readName))
  expectWord "add"
  let _ ← takeWord "column"
  return .alter table (.addColumn (← readColumn))

/-! ## Settings -/

/-- The natural number that digits stand for, perhaps hexadecimal ones after their mark. -/
def settingMagnitude : List Char → Nat
  | '0' :: x :: digits =>
    if x = 'x' ∨ x = 'X' then (Number.readHex? (digits.takeWhile isHexDigit)).getD 0
    else Number.ofDigits ((x :: digits).takeWhile Number.isDigit)
  | digits => Number.ofDigits (digits.takeWhile Number.isDigit)

/-- The 32-bit integer that a text starts with, perhaps after a sign; zero if it is out of
    range. -/
def settingNumber (written : String) : Int32 :=
  match written.toList with
  | '-' :: digits =>
    let n := Number.ofDigits (digits.takeWhile Number.isDigit)
    if Number.Fits 32 (-n) then Int32.ofInt (-n) else 0
  | cs =>
    let n := if cs.head? = some '+' then Number.ofDigits (cs.tail.takeWhile Number.isDigit)
      else settingMagnitude cs
    if Number.Fits 32 n then Int32.ofNat n else 0

def readSettingValue : Reader Int32 := do
  let negative ← takeSymbol "-"
  let signed ← if negative then pure true else takeSymbol "+"
  match ← takeToken fun token =>
      match token with
      | .integer digits => some digits
      | .decimal written => some written
      | _ => none with
  | some written => return settingNumber (if negative then "-" ++ written else written)
  | none => if signed then refuse else return settingNumber (← readName)

def readSetting : Reader Statement := do
  let name ← readObjectName
  let isVersion := sameName name.name "user_version"
  if ← takeSymbol "=" then
    let value ← readSettingValue
    return if isVersion then .writeVersion value else .setting
  if ← takeSymbol "(" then
    let value ← readSettingValue
    expectSymbol ")"
    return if isVersion then .writeVersion value else .setting
  return if isVersion then .readVersion else .setting

/-! ## Transactions -/

def skipTransaction : Reader Unit := do
  if ← takeWord "transaction" then let _ ← takeToken Token.name?

/-- Reads when a transaction takes its locks, after `begin`. -/
def readBegin : Reader Statement := do
  let mode : TransactionMode ←
    if ← takeWord "immediate" then pure .immediate
    else if ← takeWord "exclusive" then pure .exclusive
    else
      let _ ← takeWord "deferred"
      pure .deferred
  skipTransaction
  return .begin mode

def readSavepoint : Reader String := do
  let _ ← takeWord "savepoint"
  readName

/-- Reads how far to go back, after `rollback`. -/
def readRollback : Reader Statement := do
  skipTransaction
  if ← takeWord "to" then return .rollbackTo (← readSavepoint) else return .rollback

/-! ## Statements -/

def readStatement : Reader Statement := do
  if ← takeWord "select" then return .select (← readSelect)
  if ← takeWord "insert" then return .insert (← readInsert (← readConflictAction))
  if ← takeWord "replace" then return .insert (← readInsert .replace)
  if ← takeWord "update" then return .update (← readUpdate)
  if ← takeWord "delete" then return .delete (← readDelete)
  if ← takeWord "create" then return ← readCreate
  if ← takeWord "drop" then return ← readDrop
  if ← takeWord "alter" then return ← readAlter
  if ← takeWord "pragma" then return ← readSetting
  if ← takeWord "begin" then return ← readBegin
  if let some () ← takeToken fun token =>
      if token.isWord "commit" || token.isWord "end" then some () else none then
    skipTransaction
    return .commit
  if ← takeWord "rollback" then return ← readRollback
  if ← takeWord "savepoint" then return .savepoint (← readName)
  if ← takeWord "release" then return .release (← readSavepoint)
  refuse

/-- The first statement of a text. -/
structure Parsed where
  statement : Statement
  parameters : Nat
  /-- The tokens after it. -/
  rest : List Token

/-- The first statement of a list of tokens, or the place of a token that does not fit; nothing if
    there are semicolons at most. -/
def parse (tokens : List Token) : Except Nat (Option Parsed) :=
  match tokens.dropWhile (· = .symbol ";") with
  | [] => .ok none
  | start => do
    let (statement, cursor) ← readStatement.run { rest := start }
    match cursor.rest with
    | [] => return some ⟨statement, cursor.parameters, []⟩
    | .symbol ";" :: rest => return some ⟨statement, cursor.parameters, rest⟩
    | unread => throw unread.length

end EntityStore.Sql
