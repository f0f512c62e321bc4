import EntityStore.Sql.Statement

/-! # Tables

A table of the engine with its rows in the order of their keys:

* `Column`, `Table` — what a table is.
* `Table.find?`, `Table.put`, `Table.erase` — one row by its key.
* `Source` — what an expression may name, and where it finds it in a row.
-/

namespace EntityStore.Engine

open EntityStore.Sql (Datum Affinity foldWord sameName)

/-- The values of a row, in the order of the columns. -/
abbrev Row := List Datum

/-- A column of a table. -/
structure Column where
  name : String
  affinity : Affinity
  notNull : Bool := false
  /-- What a row has here that says nothing else. -/
  standard : Datum := .null
  /-- Whether only the names of row ids find the column. -/
  hidden : Bool := false

/-- A table with its rows in the order of their keys. -/
structure Table where
  name : String
  columns : List Column
  key : List Nat
  /-- The place of the column that numbers the rows, if there is one. -/
  rowId : Option Nat
  /-- The places of columns that no two rows have the same values in. -/
  uniques : List (List Nat) := []
  rows : List Row := []

/-! ## Keys -/

/-- The order of lists of values, the first difference deciding. -/
def compareRows : Row → Row → Ordering
  | [], [] => .eq
  | [], _ :: _ => .lt
  | _ :: _, [] => .gt
  | a :: as, b :: bs =>
    match a.compare b with
    | .eq => compareRows as bs
    | order => order

def valuesAt (places : List Nat) (row : Row) : Row := places.map fun i => row.getD i .null

def insertRow (keyOf : Row → Row) (row : Row) : List Row → List Row
  | [] => [row]
  | other :: rest =>
    match compareRows (keyOf row) (keyOf other) with
    | .gt => other :: insertRow keyOf row rest
    | .eq => row :: rest
    | .lt => row :: other :: rest

/-- Whether two rows have the same values at places, none of them null. -/
def agreeAt (places : List Nat) (a b : Row) : Bool :=
  !(valuesAt places a).contains .null
    && compareRows (valuesAt places a) (valuesAt places b) = .eq

namespace Table

def keyOf (t : Table) (row : Row) : Row := valuesAt t.key row

def hasKey (t : Table) (key : Row) (row : Row) : Bool := compareRows key (t.keyOf row) = .eq

def find? (t : Table) (key : Row) : Option Row := t.rows.find? (t.hasKey key)

def put (t : Table) (row : Row) : Table := { t with rows := insertRow t.keyOf row t.rows }

def erase (t : Table) (key : Row) : Table :=
  { t with rows := t.rows.filter fun row => !t.hasKey key row }

def visible (t : Table) : List Column := t.columns.filter fun c => !c.hidden

/-- A number for a row that has none yet: one more than the greatest. -/
def nextRowId (t : Table) : Int64 :=
  match t.rows.getLast? with
  | none => 1
  | some row =>
    match t.keyOf row with
    | [.integer n] => n + 1
    | _ => 1

end Table

/-! ## Names in rows -/

/-- Columns that expressions may name, in the order of the values of a row. -/
structure Source where
  name : String
  columns : List Column
  rowId : Option Nat := none

def rowIdNames : List String := ["rowid", "oid", "_rowid_"]

/-- The place of the column of a name; the names of row ids come last. -/
def columnPlace? (columns : List Column) (rowId : Option Nat) (name : String) : Option Nat :=
  match columns.findIdx? fun c => !c.hidden && sameName c.name name with
  | some i => some i
  | none => if rowIdNames.contains (foldWord name) then rowId else none

/-- The columns of a table as expressions name them. -/
def Table.source (t : Table) : Source :=
  { name := t.name, columns := t.columns, rowId := t.rowId }

/-- The place and the affinity of a column among the values of several sources in a row. -/
def findColumn? (qualifier : Option String) (name : String) : List Source → Nat →
    Option (Nat × Affinity)
  | [], _ => none
  | s :: rest, offset =>
    let found :=
      if qualifier.all (sameName s.name) then columnPlace? s.columns s.rowId name else none
    match found with
    | some i => some (offset + i, (s.columns[i]?.map (·.affinity)).getD .none)
    | none => findColumn? qualifier name rest (offset + s.columns.length)

end EntityStore.Engine
