import EntityStore.Engine.Table

/-! # Databases

* `Database` — tables, indexes, views and triggers by their names.
* `Database.table?` and the like — one of them.
* `Database.setTable` — one table replaced.
-/

namespace EntityStore.Engine

open EntityStore.Sql (Select TriggerDefinition sameName)

/-- An index.  It only matters that it is there, for which columns, and whether it keeps values
    apart. -/
structure Index where
  name : String
  table : String
  /-- The places of its columns, unless it is for anything but columns. -/
  columns : Option (List Nat) := none
  /-- The places of the columns that it keeps apart, if it does. -/
  unique : Option (List Nat) := none

structure View where
  name : String
  /-- The names of its columns, if it gives them names of its own. -/
  columns : List String
  query : Select

structure Database where
  tables : List Table := []
  indexes : List Index := []
  views : List View := []
  /-- The triggers, the latest first. -/
  triggers : List TriggerDefinition := []
  /-- The number that counts the changes of definitions. -/
  version : Int32 := 0

namespace Database

def table? (db : Database) (name : String) : Option Table :=
  db.tables.find? fun t => sameName t.name name

def view? (db : Database) (name : String) : Option View :=
  db.views.find? fun v => sameName v.name name

def givenName (db : Database) (name : String) : String :=
  (((db.table? name).map (·.name)).or ((db.view? name).map (·.name))).getD name

def index? (db : Database) (name : String) : Option Index :=
  db.indexes.find? fun i => sameName i.name name

def trigger? (db : Database) (name : String) : Option TriggerDefinition :=
  db.triggers.find? fun t => sameName t.name.name name

def setTable (db : Database) (t : Table) : Database :=
  { db with tables := db.tables.map fun other => if sameName other.name t.name then t else other }

/-- The places of columns that no two rows of a table have the same values in, the latest rule
    first. -/
def uniques (db : Database) (t : Table) : List (List Nat) :=
  (t.uniques ++ (db.indexes.filter fun i => sameName i.table t.name).filterMap (·.unique)).reverse

end Database

end EntityStore.Engine
