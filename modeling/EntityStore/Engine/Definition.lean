import EntityStore.Engine.Change

/-! # Definitions

Tables, indexes, views and triggers that come, go and change, as programs:

* `Table.define` — the table of a definition.
* `createTable`, `createIndex`, `createView`, `createTrigger` — what is created.
* `prepareDrop`, `prepareRename`, `prepareColumn` — what is dropped and altered.
-/

namespace EntityStore.Engine

open EntityStore.Sql
  (Datum Affinity Expr ObjectName SortKey ColumnDefinition ColumnName TableConstraint TableDefinition
   IndexDefinition ViewDefinition TriggerDefinition ObjectKind foldWord sameName)

/-! ## Programs -/

def Program.define (change : Database → Database) : Program :=
  { run := fun _ db => .ok { database := change db } }

/-- A program that does nothing, for what is there already or gone already. -/
def Program.nothing : Program :=
  { writes := false, run := fun _ db => .ok { database := db } }

/-! ## Names -/

/-- A name that the engine does not keep for itself. -/
def checkName (name : String) : Except Fault Unit :=
  if "sqlite_".toList.isPrefixOf (foldWord name).toList then
    .error (.statement ("object name reserved for internal use: " ++ name))
  else .ok ()

def Database.holder? (db : Database) (name : String) : Option String :=
  if (db.table? name).isSome then some "table"
  else if (db.view? name).isSome then some "view"
  else none

/-- The name of a new table or view: whether it is free; if it is taken, that may be no fault. -/
def isFree (db : Database) (name : ObjectName) (ifAbsent : Bool) : Except Fault Bool := do
  checkName name.name
  match db.holder? name.name with
  | some kind =>
    if ifAbsent then return false
    else throw (.located name.place (kind ++ " " ++ name.written ++ " already exists"))
  | none =>
    if (db.index? name.name).isSome then
      throw (.statement ("there is already an index named " ++ name.name))
    else return true

/-! ## Tables -/

def defineColumn (d : ColumnDefinition) : Except Fault Column := do
  let affinity := Affinity.ofType d.type
  let standard ←
    match d.standard with
    | none => pure .null
    | some expr =>
      match ({} : Scope).resolve expr with
      | .ok term => pure (affinity.store (term.eval { parameters := [] }))
      | .error _ =>
        throw (.statement ("default value of column [" ++ d.name ++ "] is not constant"))
  return { name := d.name, affinity := affinity, notNull := d.notNull, standard := standard }

def secondKey (table : String) : Fault :=
  .statement ("table \"" ++ table ++ "\" has more than one primary key")

/-- The columns of a definition, after others with the names `seen`, perhaps with a key. -/
def defineColumns (table : String) (seen : List String) (keyed : Bool) :
    List ColumnDefinition → Except Fault (List Column)
  | [] => .ok []
  | d :: rest => do
    if seen.any (sameName d.name) then throw (.statement ("duplicate column name: " ++ d.name))
    let column ← defineColumn d
    if keyed && d.primaryKey then throw (secondKey table)
    return column :: (← defineColumns table (d.name :: seen) (keyed || d.primaryKey) rest)

def namedPlaces (columns : List Column) (names : List ColumnName) : Except Fault (List Nat) :=
  names.mapM fun name =>
    match columnPlace? columns none name.name with
    | some i => .ok i
    | none => .error (.noColumn name.place name.name)

def primaryKeys (d : TableDefinition) : List (List ColumnName) :=
  (d.columns.filter (·.primaryKey)).map (fun c => [{ name := c.name }])
    ++ d.constraints.filterMap fun
      | .primaryKey columns => some columns
      | .unique _ => none

def declaredUniques (d : TableDefinition) : List (List ColumnName) :=
  (d.columns.filter (·.unique)).map (fun c => [{ name := c.name }])
    ++ d.constraints.filterMap fun
      | .primaryKey _ => none
      | .unique columns => some columns

/-- Whether a key is the number of the row: a single column of the type of integers. -/
def isRowNumber (d : TableDefinition) : List Nat → Bool
  | [i] => d.columns[i]?.any fun c => foldWord c.type = "integer"
  | _ => false

/-- The column that numbers rows where none of the columns does. -/
def hiddenNumber : Column := { name := "", affinity := .integer, hidden := true }

/-- The table of a definition.  Its rows are kept by the declared key if they have no numbers, else
    by their number, which may be the declared key. -/
def Table.define (d : TableDefinition) : Except Fault Table := do
  let columns ← defineColumns d.name.name [] false d.columns
  let uniques ← (declaredUniques d).mapM (namedPlaces columns)
  match primaryKeys d with
  | _ :: _ :: _ => throw (secondKey d.name.name)
  | keys =>
    let key ← (keys.mapM (namedPlaces columns)).map List.flatten
    if d.withoutRowId then
      if key.isEmpty then throw (.statement ("PRIMARY KEY missing on table " ++ d.name.name))
      let columns := columns.zipIdx.map fun (c, i) => { c with notNull := c.notNull || key.contains i }
      return { name := d.name.name, columns := columns, key := key, rowId := none
               uniques := uniques }
    else if isRowNumber d key then
      return { name := d.name.name, columns := columns, key := key, rowId := key.head?
               uniques := uniques }
    else
      -- No column numbers the rows, so a hidden one does, and the key is one more rule.
      let number := columns.length
      let uniques := if key.isEmpty then uniques else key :: uniques
      return { name := d.name.name, columns := columns ++ [hiddenNumber], key := [number]
               rowId := some number, uniques := uniques }

def createTable (db : Database) (d : TableDefinition) : Except Fault Program := do
  if ← isFree db d.name d.ifAbsent then
    let t ← Table.define d
    return .define fun db => { db with tables := db.tables ++ [t] }
  else return .nothing

/-! ## Indexes, views and triggers -/

def checkHolder (db : Database) (name : String) : Except Fault Unit :=
  if (db.holder? name).isSome then .ok () else .error (.noTable ("main." ++ name))

/-- Whether two rows share values that an index keeps apart. -/
def hasTwins (places : List Nat) : List Row → Bool
  | [] => false
  | row :: rest => rest.any (agreeAt places row) || hasTwins places rest

def Term.place? : Term → Option Nat
  | .column i _ => some i
  | _ => none

def createIndex (db : Database) (d : IndexDefinition) : Except Fault Program := do
  checkHolder db d.table
  let some t := db.table? d.table | throw (.statement "views may not be indexed")
  checkName d.name.name
  if (db.holder? d.name.name).isSome then
    throw (.statement ("there is already a table named " ++ d.name.name))
  if (db.index? d.name.name).isSome then
    if d.ifAbsent then return .nothing
    else throw (.statement ("index " ++ d.name.name ++ " already exists"))
  -- An index is over columns; the number of the row is none unless it has a name of its own.
  let terms ← ({ sources := [{ t.source with rowId := none }] } : Scope).resolveAll d.terms
  let columns := terms.mapM Term.place?
  let unique := if d.unique then columns else none
  let index : Index := { name := d.name.name, table := t.name, columns := columns, unique := unique }
  return { run := fun _ db =>
    let rows := ((db.table? t.name).map (·.rows)).getD []
    match unique with
    | some places =>
      if hasTwins places rows then
        .error { fault := .constraint ("UNIQUE constraint failed: " ++ shownColumns t places) }
      else .ok { database := { db with indexes := db.indexes ++ [index] } }
    | none => .ok { database := { db with indexes := db.indexes ++ [index] } } }

def createView (db : Database) (d : ViewDefinition) : Except Fault Program := do
  if ← isFree db d.name d.ifAbsent then
    let view : View := { name := d.name.name, columns := d.columns, query := d.query }
    return .define fun db => { db with views := db.views ++ [view] }
  else return .nothing

def createTrigger (db : Database) (d : TriggerDefinition) : Except Fault Program := do
  checkHolder db d.table.name
  checkName d.name.name
  if (db.trigger? d.name.name).isSome then
    if d.ifAbsent then return .nothing
    else throw (.located d.name.place ("trigger " ++ d.name.written ++ " already exists"))
  if (db.view? d.table.name).isSome then
    let time := if d.before then "BEFORE" else "AFTER"
    throw (.statement ("cannot create " ++ time ++ " trigger on view: " ++ d.table.name))
  return .define fun db => { db with triggers := d :: db.triggers }

/-! ## What goes -/

/-- The database without a table and what belongs to it. -/
def Database.dropTable (db : Database) (name : String) : Database :=
  { db with
    tables := db.tables.filter fun t => !sameName t.name name
    indexes := db.indexes.filter fun i => !sameName i.table name
    triggers := db.triggers.filter fun d => !sameName d.table.name name }

def Database.dropOther (db : Database) (kind : ObjectKind) (name : String) : Database :=
  match kind with
  | .table => db
  | .index => { db with indexes := db.indexes.filter fun i => !sameName i.name name }
  | .view => { db with views := db.views.filter fun v => !sameName v.name name }
  | .trigger => { db with triggers := db.triggers.filter fun d => !sameName d.name.name name }

def Database.has (db : Database) (kind : ObjectKind) (name : String) : Bool :=
  match kind with
  | .table => (db.table? name).isSome
  | .index => (db.index? name).isSome
  | .view => (db.view? name).isSome
  | .trigger => (db.trigger? name).isSome

def prepareDrop (db : Database) (kind : ObjectKind) (ifPresent : Bool) (name : ObjectName) :
    Except Fault Program :=
  if name.isMain && db.has kind name.name then
    if kind = .table then .ok (.define fun db => db.dropTable name.name)
    else .ok (.define fun db => db.dropOther kind name.name)
  else if kind = .table && db.has .view name.name then
    .error (.statement ("use DROP VIEW to delete view " ++ db.givenName name.name))
  else if kind = .view && db.has .table name.name then
    .error (.statement ("use DROP TABLE to delete table " ++ db.givenName name.name))
  else if ifPresent then .ok .nothing
  else .error (.statement ("no such " ++ kind.name ++ ": " ++ name.shown))

/-! ## What changes -/

/-- The name of a table after another table has been renamed. -/
def renamed (old new name : String) : String := if sameName name old then new else name

def renamedObject (old new : String) (o : ObjectName) : ObjectName :=
  { o with name := renamed old new o.name }

/-- The database with a table under another name, wherever the name stands. -/
def Database.renameTable (db : Database) (old new : String) : Database :=
  { db with
    tables := db.tables.map fun t => { t with name := renamed old new t.name }
    indexes := db.indexes.map fun i => { i with table := renamed old new i.table }
    triggers := db.triggers.map fun d => { d with table := renamedObject old new d.table }
    views := db.views.map fun v =>
      { v with query := { v.query with source := v.query.source.map (renamedObject old new) } } }

/-- A part of the database that must make sense before a table is renamed. -/
def checkPart {α : Type} (kind : ObjectKind) (name : String) (part : Except Fault α) :
    Except Fault Unit :=
  match part with
  | .ok _ => .ok ()
  | .error fault =>
    .error (.statement ("error in " ++ kind.name ++ " " ++ name ++ ": " ++ fault.text))

def checkParts (db : Database) : Except Fault Unit := do
  db.views.forM fun v => checkPart .view v.name (db.query v.ownQuery)
  db.triggers.reverse.forM fun d =>
    match db.table? d.table.name with
    | some t => checkPart .trigger d.name.name (prepareTrigger db t d)
    | none => .ok ()

def prepareRename (db : Database) (table : ObjectName) (name : String) : Except Fault Program := do
  if (db.tableOf? table).isNone && (db.viewOf? table).isNone then throw (.noTable table.shown)
  if (db.holder? name).isSome || (db.index? name).isSome then
    throw (.statement ("there is already another table or index with this name: " ++ name))
  checkName name
  match db.tableOf? table with
  | none => throw (.statement ("view " ++ db.givenName table.name ++ " may not be altered"))
  | some t =>
    checkParts db
    return .define fun db => db.renameTable t.name name

/-- A table with one more column, which its rows have the standard value in. -/
def Table.addColumn (t : Table) (c : Column) : Table :=
  { t with columns := t.columns ++ [c], rows := t.rows.map (· ++ [c.standard]) }

def prepareColumn (db : Database) (table : ObjectName) (d : ColumnDefinition) :
    Except Fault Program := do
  match db.tableOf? table, db.viewOf? table with
  | none, none => throw (.noTable table.shown)
  | none, some _ => throw (.statement "Cannot add a column to a view")
  | some t, _ =>
    if (columnPlace? t.columns none d.name).isSome then
      throw (.statement ("duplicate column name: " ++ d.name))
    if d.primaryKey then throw (.statement "Cannot add a PRIMARY KEY column")
    if d.unique then throw (.statement "Cannot add a UNIQUE column")
    let c ← defineColumn d
    return { run := fun _ db =>
      match db.table? t.name with
      | none => .ok { database := db }
      | some t =>
        if c.notNull && c.standard = .null && !t.rows.isEmpty then
          .error { fault := .constraint "Cannot add a NOT NULL column with default value NULL" }
        else .ok { database := db.setTable (t.addColumn c) } }

end EntityStore.Engine
