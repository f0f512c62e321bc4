import EntityStore.Engine.Trigger

/-! # Changes of rows

* `Program` — a statement whose names are found, ready to run.
* `storeRow` — one row into a table, under the constraints of the table.
* `prepareInsert`, `prepareUpdate`, `prepareDelete` — the changes of rows as programs.

A statement goes through its rows one by one.  What it does when a constraint is broken is up to
the statement: it is undone, stops, goes on without the row, or makes way for it.
-/

namespace EntityStore.Engine

open EntityStore.Sql (Datum Expr ObjectName Insert Update Delete ConflictAction TriggerEvent)

/-- What a statement has done. -/
structure Outcome where
  database : Database
  rows : List Row := []
  /-- How many rows it has changed. -/
  changes : Nat := 0

/-- A statement that is ready to run. -/
structure Program where
  /-- Whether it asks for the right to write. -/
  writes : Bool := true
  /-- How many columns its answer has. -/
  width : Nat := 0
  run : List Datum → Database → Except Stop Outcome

/-! ## Constraints -/

/-- The end of a statement that breaks a constraint, unless the row is left out. -/
def breakConstraint {α : Type} (action : ConflictAction) (db : Database) (text : String) :
    Except Stop (Option α) :=
  match action with
  | .ignore => .ok none
  | .fail => .error { fault := .constraint text, effect := .keep db }
  | .rollback => .error { fault := .constraint text, effect := .endTransaction }
  | .abort | .replace => .error { fault := .constraint text }

/-- A row whose nulls give way to standard values where they may not be. -/
def fillNulls (columns : List Column) (row : Row) : Row :=
  (columns.zip row).map fun (column, value) =>
    if column.notNull && value = .null then column.standard else value

def nullColumn? (columns : List Column) (row : Row) : Option Column :=
  ((columns.zip row).find? fun (column, value) => column.notNull && value = .null).map (·.1)

/-- The names of columns of a table, as broken constraints show them. -/
def shownColumns (t : Table) (places : List Nat) : String :=
  ", ".intercalate (places.map fun i =>
    match t.columns[i]? with
    | some c => t.name ++ "." ++ (if c.hidden then "rowid" else c.name)
    | none => t.name)

/-- The rows other than the one that is replaced that keep a new row out, by its key or by columns
    that no two rows may share. -/
def rivals (t : Table) (own : Option Row) (row : Row) (places : List Nat) (isKey : Bool) :
    List Row :=
  t.rows.filter fun other =>
    !own.any (fun key => t.hasKey key other)
      && (if isKey then t.hasKey (t.keyOf row) other else agreeAt places row other)

/-- A table with room for a row, or nothing if the row is left out. -/
def makeRoom (action : ConflictAction) (db : Database) (own : Option Row) (row : Row) :
    List (List Nat × Bool) → Table → Except Stop (Option Table)
  | [], t => .ok (some t)
  | (places, isKey) :: rest, t =>
    match rivals t own row places isKey with
    | [] => makeRoom action db own row rest t
    | others =>
      if action = .replace then
        makeRoom action db own row rest (others.foldl (fun t other => t.erase (t.keyOf other)) t)
      else breakConstraint action db ("UNIQUE constraint failed: " ++ shownColumns t places)

/-- The database with a row in a table, in place of the one with the key `own` if that is given;
    nothing if the row is left out. -/
def storeRow (action : ConflictAction) (db : Database) (t : Table) (own : Option Row) (row : Row) :
    Except Stop (Option Database) := do
  let row := if action = .replace then fillNulls t.columns row else row
  match nullColumn? t.columns row with
  | some column =>
    breakConstraint action db ("NOT NULL constraint failed: " ++ t.name ++ "." ++ column.name)
  | none =>
    -- The key comes first, so that it names the constraint if a row breaks several.
    let demands := (t.key, true) :: (db.uniques t).map fun places => (places, false)
    match ← makeRoom action db own row demands t with
    | none => return none
    | some t =>
      let t := match own with
        | some key => t.erase key
        | none => t
      return some (db.setTable (t.put row))

/-- The database and the count of changed rows so far. -/
structure Progress where
  database : Database
  changes : Nat := 0

/-- The triggers around a change. -/
structure Triggers where
  before : List TriggerPlan
  after : List TriggerPlan

def triggersAround (db : Database) (t : Table) (change : TriggerEvent) :
    Except Fault Triggers := do
  return { before := ← prepareTriggers db t change true
           after := ← prepareTriggers db t change false }

/-- One change of a row between its triggers; `change` gives nothing if the row is left out. -/
def changeBetween (triggers : Triggers) (progress : Progress) (before after : Row)
    (change : Except Stop (Option Database)) : Except Stop Progress := do
  if ← fire progress.database before triggers.before then
    match ← change with
    | none => return progress
    | some db =>
      let _ ← fire db after triggers.after
      return { database := db, changes := progress.changes + 1 }
  else return progress

/-- What a program has done when all rows are through. -/
def Progress.outcome (p : Progress) : Outcome :=
  { database := p.database, changes := p.changes }

/-! ## Tables to change -/

/-- The table of a name, which views are not. -/
def changedTable (db : Database) (name : ObjectName) : Except Fault Table :=
  match db.tableOf? name, db.viewOf? name with
  | some t, _ => .ok t
  | none, some v => do
    let _ ← openSource db.query db name
    throw (.statement ("cannot modify " ++ v.name ++ " because it is a view"))
  | none, none => .error (.noTable name.shown)

def checkRowId (t : Table) (row : Row) : Except Stop Row :=
  match t.rowId with
  | none => .ok row
  | some i =>
    match (row.getD i .null).asInteger? with
    | some n => .ok (row.set i (.integer n))
    | none => .error { fault := .mismatch }

/-! ## New rows -/

def insertPlaces (t : Table) (shown : String) : Option (List String) → Except Fault (List Nat)
  | none => .ok (t.columns.zipIdx.filterMap fun (c, i) => if c.hidden then none else some i)
  | some names => names.mapM fun name =>
    match columnPlace? t.columns t.rowId name with
    | some i => .ok i
    | none => .error (.statement ("table " ++ shown ++ " has no column named " ++ name))

def newRow (t : Table) (places : List Nat) (values : Row) : Row :=
  t.columns.zipIdx.map fun (column, i) =>
    match (places.zip values).find? fun p => p.1 = i with
    | some (_, value) => column.affinity.store value
    | none => column.standard

def numbered (t : Table) (number : Int64) (row : Row) : Row :=
  match t.rowId with
  | none => row
  | some i => if row.getD i .null = .null then row.set i (.integer number) else row

/-- The values of a new row fit the columns that they are for. -/
def checkWidth (ins : Insert) (t : Table) (places : List Nat) (count : Nat) : Except Fault Unit :=
  if count = places.length then .ok ()
  else
    match ins.columns with
    | none =>
      .error (.statement ("table " ++ ins.table.shown ++ " has " ++ toString t.visible.length
        ++ " columns but " ++ toString count ++ " values were supplied"))
    | some _ =>
      .error (.statement (toString count ++ " values for " ++ toString places.length
        ++ " columns"))

def checkWidths (rows : List (List Expr)) : Except Fault Unit :=
  match rows with
  | [] => .ok ()
  | first :: rest =>
    if rest.all fun row => row.length = first.length then .ok ()
    else .error (.statement "all VALUES must have the same number of terms")

def insertOne (action : ConflictAction) (name : String) (places : List Nat) (triggers : Triggers)
    (progress : Progress) (values : Row) : Except Stop Progress :=
  match progress.database.table? name with
  | none => .ok progress
  | some t => do
    let given := newRow t places values
    let row ← checkRowId t (numbered t t.nextRowId given)
    -- Before the row is there it has no number, which its triggers see as −1.
    changeBetween triggers progress (numbered t (-1) given) row
      (storeRow action progress.database t none row)

/-- New rows as a program.  The names of later rows are looked for first. -/
def prepareInsert (db : Database) (ins : Insert) : Except Fault Program := do
  let t ← changedTable db ins.table
  let places ← insertPlaces t ins.table.shown ins.columns
  -- The last row is looked at first, and the width only after all names.
  let rows ← ins.rows.reverse.mapM ({} : Scope).resolveAll
  checkWidths ins.rows
  checkWidth ins t places ((ins.rows.head?.map (·.length)).getD 0)
  let triggers ← triggersAround db t .insert
  return { run := fun parameters db => do
    let values := rows.reverse.map fun row => row.map (·.eval { parameters := parameters })
    let progress ← values.foldlM (insertOne ins.onConflict t.name places triggers) ⟨db, 0⟩
    return progress.outcome }

/-! ## Changed rows -/

def matchingKeys (db : Database) (name : String) (parameters : List Datum)
    (condition : Option Term) : List Row :=
  match db.table? name with
  | none => []
  | some t =>
    (t.rows.filter fun row => holdsAll { parameters := parameters, row := row } condition).map
      t.keyOf

def prepareAssignment (t : Table) (assignment : String × Expr) : Except Fault (Nat × Term) := do
  let term ← ({ sources := [t.source] } : Scope).resolve assignment.2
  match columnPlace? t.columns t.rowId assignment.1 with
  | some i => return (i, term)
  | none => throw (.statement ("no such column: " ++ assignment.1))

/-- A row with new values, all made from the row as it was. -/
def assign (t : Table) (assignments : List (Nat × Term)) (parameters : List Datum) (row : Row) :
    Row :=
  assignments.foldl (fun changed (i, term) =>
    let affinity := (t.columns[i]?.map (·.affinity)).getD .none
    changed.set i (affinity.store (term.eval { parameters := parameters, row := row }))) row

def updateOne (action : ConflictAction) (name : String) (assignments : List (Nat × Term))
    (triggers : Triggers) (parameters : List Datum) (progress : Progress) (key : Row) :
    Except Stop Progress :=
  match progress.database.table? name with
  | none => .ok progress
  | some t =>
    match t.find? key with
    | none => .ok progress
    | some old => do
      let row ← checkRowId t (assign t assignments parameters old)
      changeBetween triggers progress (old ++ row) (old ++ row)
        (storeRow action progress.database t (some key) row)

def prepareUpdate (db : Database) (u : Update) : Except Fault Program := do
  let t ← changedTable db u.table
  let assignments ← u.assignments.mapM (prepareAssignment t)
  let condition ← ({ sources := [t.source] } : Scope).resolve? u.condition
  let triggers ← triggersAround db t (.update (u.assignments.map (·.1)))
  return { run := fun parameters db => do
    -- The rows are chosen once, before the first of them changes.
    let keys := matchingKeys db t.name parameters condition
    let progress ←
      keys.foldlM (updateOne u.onConflict t.name assignments triggers parameters) ⟨db, 0⟩
    return progress.outcome }

/-! ## Removed rows -/

def deleteOne (name : String) (triggers : Triggers) (progress : Progress) (key : Row) :
    Except Stop Progress :=
  match progress.database.table? name with
  | none => .ok progress
  | some t =>
    match t.find? key with
    | none => .ok progress
    | some old =>
      changeBetween triggers progress old old
        (.ok (some (progress.database.setTable (t.erase key))))

def prepareDelete (db : Database) (d : Delete) : Except Fault Program := do
  let t ← changedTable db d.table
  let triggers ← triggersAround db t .delete
  let condition ← ({ sources := [t.source] } : Scope).resolve? d.condition
  return { run := fun parameters db => do
    let keys := matchingKeys db t.name parameters condition
    let progress ← keys.foldlM (deleteOne t.name triggers) ⟨db, 0⟩
    return progress.outcome }

end EntityStore.Engine
