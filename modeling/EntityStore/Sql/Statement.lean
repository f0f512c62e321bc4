import EntityStore.Sql.Datum
import EntityStore.Sql.Keyword

/-! # Statements

The statements that the engine runs:

* `Expr` — expressions over the columns of a row.
* `Select`, `Insert`, `Update`, `Delete` — queries and changes of rows.
* `TableDefinition`, `IndexDefinition`, `TriggerDefinition` — definitions.
* `Statement` — any of them, and the control of transactions.

A `place` is where a name stands in the text of the statement: the number of tokens from it to the
end.
-/

namespace EntityStore.Sql

/-- An operator between two operands. -/
inductive BinaryOp where
  | or
  | and
  | equal
  | notEqual
  | is
  | isNot
  | less
  | lessOrEqual
  | greater
  | greaterOrEqual
  | add
  | subtract
  | multiply
  | divide
  | remainder
  | concat
  | bitAnd
  | bitOr
  | shiftLeft
  | shiftRight
  deriving DecidableEq

/-- An operator before its operand. -/
inductive UnaryOp where
  | not
  | minus
  | plus
  | bitNot
  deriving DecidableEq

/-- What a trigger does to the statement that has set it off. -/
inductive RaiseAction where
  /-- The row is left alone. -/
  | ignore
  /-- The statement is undone. -/
  | abort
  /-- The statement stops, what it has done so far stays. -/
  | fail
  /-- The whole transaction is undone. -/
  | rollback
  deriving DecidableEq

inductive Expr where
  | literal (value : Datum)
  | parameter (number : Nat)
  /-- A column, perhaps of a named table; in double quotes it may turn out to be a text. -/
  | column (place : Nat) (table : Option String) (name : String) (doubleQuoted : Bool)
  /-- A column in brackets or backquotes, which is neither a text nor a truth value. -/
  | quotedColumn (place : Nat) (name : String)
  | unary (op : UnaryOp) (operand : Expr)
  | binary (op : BinaryOp) (left right : Expr)
  | isNull (operand : Expr)
  | inList (operand : Expr) (items : List Expr)
  | cast (operand : Expr) (type : String)
  | call (place : Nat) (function : String) (arguments : List Expr)
  /-- A function of all rows instead of an argument. -/
  | callStar (place : Nat) (function : String)
  | raise (action : RaiseAction) (message : String)

/-! ## Queries and changes -/

/-- A table, index, view or trigger by its name, perhaps with that of its database. -/
structure ObjectName where
  place : Nat
  database : Option String := none
  name : String
  /-- The name as it is written, with its quotes. -/
  written : String

def ObjectName.shown (o : ObjectName) : String :=
  match o.database with
  | none => o.name
  | some database => database ++ "." ++ o.name

def ObjectName.isMain (o : ObjectName) : Bool := o.database.all (sameName "main")

/-- A result of a query. -/
inductive Output where
  /-- Every column. -/
  | all
  | value (expr : Expr) (label : Option String)

/-- One key of an order or of groups. -/
structure SortKey where
  place : Nat
  expr : Expr
  descending : Bool := false

/-- A query over at most one table. -/
structure Select where
  outputs : List Output
  source : Option ObjectName := none
  /-- The name that the query gives to its source. -/
  label : Option String := none
  condition : Option Expr := none
  groups : List SortKey := []
  orders : List SortKey := []
  limit : Option Expr := none
  offset : Option Expr := none

/-- What happens when a constraint is broken. -/
inductive ConflictAction where
  | abort
  | fail
  | ignore
  | replace
  | rollback
  deriving DecidableEq

/-- New rows for a table. -/
structure Insert where
  onConflict : ConflictAction := .abort
  table : ObjectName
  columns : Option (List String)
  rows : List (List Expr)

/-- New values for the rows that a condition holds for. -/
structure Update where
  onConflict : ConflictAction := .abort
  table : ObjectName
  assignments : List (String × Expr)
  condition : Option Expr

/-- The removal of the rows that a condition holds for. -/
structure Delete where
  table : ObjectName
  condition : Option Expr

/-! ## Definitions -/

structure ColumnDefinition where
  name : String
  type : String
  primaryKey : Bool := false
  notNull : Bool := false
  unique : Bool := false
  standard : Option Expr := none

structure ColumnName where
  place : Nat := 0
  name : String

/-- A rule over the columns of a table that is defined. -/
inductive TableConstraint where
  | primaryKey (columns : List ColumnName)
  | unique (columns : List ColumnName)

structure TableDefinition where
  ifAbsent : Bool
  name : ObjectName
  columns : List ColumnDefinition
  constraints : List TableConstraint := []
  withoutRowId : Bool := false

structure IndexDefinition where
  unique : Bool
  ifAbsent : Bool
  name : ObjectName
  table : String
  terms : List Expr

structure ViewDefinition where
  ifAbsent : Bool
  name : ObjectName
  columns : List String
  query : Select

/-- What sets a trigger off. -/
inductive TriggerEvent where
  | insert
  | delete
  /-- A change of one of the columns, or of any. -/
  | update (columns : List String)
  deriving DecidableEq

structure TriggerDefinition where
  ifAbsent : Bool
  name : ObjectName
  before : Bool
  event : TriggerEvent
  table : ObjectName
  condition : Option Expr
  steps : List Select

inductive Alteration where
  | addColumn (column : ColumnDefinition)
  | renameTo (name : String)

inductive ObjectKind where
  | table
  | index
  | view
  | trigger
  deriving DecidableEq

def ObjectKind.name : ObjectKind → String
  | table => "table"
  | index => "index"
  | view => "view"
  | trigger => "trigger"

/-! ## Transactions -/

/-- When a transaction takes its locks. -/
inductive TransactionMode where
  /-- With the first read or write. -/
  | deferred
  /-- The lock for writing at once. -/
  | immediate
  /-- Against all others at once. -/
  | exclusive
  deriving DecidableEq

inductive Statement where
  | select (query : Select)
  | insert (change : Insert)
  | update (change : Update)
  | delete (change : Delete)
  | createTable (definition : TableDefinition)
  | createIndex (definition : IndexDefinition)
  | createView (definition : ViewDefinition)
  | createTrigger (definition : TriggerDefinition)
  | drop (kind : ObjectKind) (ifPresent : Bool) (name : ObjectName)
  | alter (table : ObjectName) (alteration : Alteration)
  | readVersion
  | writeVersion (version : Int32)
  | begin (mode : TransactionMode)
  | commit
  | rollback
  | savepoint (name : String)
  | release (name : String)
  | rollbackTo (name : String)
  /-- A setting that has no effect here. -/
  | setting

end EntityStore.Sql
