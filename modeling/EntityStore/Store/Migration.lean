import EntityStore.Store.Update
import EntityStore.Text.Case

/-! # Migrations

Bringing a table up to its plan: it is created if it is absent, else the columns that it lacks are
added in the order of the plan, and the indexes that are missing are created.  Columns are never
dropped or changed.  Every definition counts the version of the database up by one.

* `MigrationReport` — what has been done.
* `Session.migrate` — brings a table up to its plan, as a whole or not at all.
-/

namespace EntityStore

open EntityStore.Engine (Database Program)

/-- What a migration has done. -/
structure MigrationReport where
  table : String
  created : Bool := false
  addedColumns : List String := []
  createdIndexes : List String := []
  /-- How many definitions have been run. -/
  ddlCount : Nat := 0

/-- Whether there was nothing to do. -/
def MigrationReport.isNoop (r : MigrationReport) : Bool := r.ddlCount = 0

namespace Engine.Database

/-- Whether there is a table of exactly the name. -/
def hasTable (db : Database) (name : String) : Bool := db.tables.any (·.name = name)

def hasIndex (db : Database) (name : String) : Bool := db.indexes.any (·.name = name)

def columnNames (db : Database) (name : String) : List String :=
  match db.table? name, db.view? name with
  | some t, _ => t.visible.map (·.name)
  | none, some v =>
    match db.query v.query with
    | .ok q => (v.source q).columns.map (·.name)
    | .error _ => []
  | none, none => []

end Engine.Database

def textQuery (find : Database → List String) : Program :=
  { writes := false, width := 1
    run := fun _ db => .ok { database := db, rows := (find db).map fun s => [.ofString s] } }

namespace Session

def finds (id : Nat) (test : Database → Bool) : Session Bool := do
  let outcome ← execute id (textQuery fun db => if test db then ["1"] else []) []
  return !outcome.rows.isEmpty

/-- Whether the database behind a connection has a table. -/
def tableExists (id : Nat) (table : String) : Session Bool := finds id (·.hasTable table)

/-- Whether the database behind a connection has an index. -/
def indexExists (id : Nat) (index : String) : Session Bool := finds id (·.hasIndex index)

def liveColumns (id : Nat) (table : String) : Session (List String) := do
  let outcome ← execute id (textQuery fun db => db.columnNames table) []
  return outcome.rows.flatten.map fun d => Text.lowercase (Sql.Datum.readText d.textBytes)

def define (id : Nat) (text : String) (report : MigrationReport) : Session MigrationReport := do
  Session.report (Event.remark .debug "ddl" [("sql", text)])
  executeBatch id text
  let _ ← bumpVersion id
  return { report with ddlCount := report.ddlCount + 1 }

/-- Adds a column, unless the table has it. -/
def addColumn (id : Nat) (p : MappingPlan) (live : List String) (report : MigrationReport)
    (c : ColumnPlan) : Session MigrationReport := do
  if live.contains (Text.lowercase c.column) then return report
  let report ← define id (p.addColumn c) report
  return { report with addedColumns := report.addedColumns ++ [c.column] }

def migrateTable (id : Nat) (p : MappingPlan) : Session MigrationReport := do
  let report : MigrationReport := { table := p.table }
  if ← tableExists id p.table then
    p.columns.foldlM (addColumn id p (← liveColumns id p.table)) report
  else
    let report ← define id p.createTable report
    return { report with created := true }

def addIndex (id : Nat) (p : MappingPlan) (report : MigrationReport) (c : ColumnPlan) :
    Session MigrationReport := do
  let name := c.indexName p.table
  if ← indexExists id name then return report
  let report ← define id (p.createIndex c) report
  return { report with createdIndexes := report.createdIndexes ++ [name] }

def migrateWithin (id : Nat) (p : MappingPlan) : Session MigrationReport := do
  let report ← p.indexedColumns.foldlM (addIndex id p) (← migrateTable id p)
  let done := Event.remark .debug "table migrated"
    [("created", toString report.created), ("ddl_count", toString report.ddlCount)]
  Session.report { done with table := some p.table }
  return report

def migrationPoint : String := "sqlmapper_migrate"

/-- Brings a table up to its plan.  If that fails, the definitions that have been run are undone. -/
def migrate (id : Nat) (p : MappingPlan) : Session MigrationReport := do
  control id (.savepoint migrationPoint)
  match ← attempt (migrateWithin id p) with
  | .ok report =>
    -- Giving up the outermost savepoint commits, which another connection may prevent.
    control id (.release migrationPoint)
    return report
  | .error failure =>
    -- What has gone wrong first is what is reported, whether or not this works.
    let _ ← attempt do
      control id (.rollbackTo migrationPoint)
      control id (.release migrationPoint)
    throw { failure with op := some "migrate", table := some p.table }

end Session

end EntityStore
