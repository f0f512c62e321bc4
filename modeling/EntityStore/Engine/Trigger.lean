import EntityStore.Engine.Query

/-! # Triggers

* `TriggerPlan` — a trigger whose names are found.
* `prepareTriggers` — the triggers that a change of a table sets off.
* `fire` — runs triggers for one row; they may leave the row alone or stop the statement.
-/

namespace EntityStore.Engine

open EntityStore.Sql
  (Select Output ObjectName RaiseAction TriggerEvent TriggerDefinition sameName)

/-- A step of a trigger: it raises an error if a row of its source meets its condition. -/
structure TriggerStep where
  rows : Database → Except Fault (List Row)
  condition : Option Term
  raise : Option (RaiseAction × String)

/-- A trigger whose names are found, over the row as it was and as it becomes. -/
structure TriggerPlan where
  condition : Option Term
  steps : List TriggerStep

/-- The columns of the row that a trigger sees, as it was and as it becomes. -/
def triggerSources (t : Table) : TriggerEvent → List Source
  | .insert => [{ t.source with name := "new" }]
  | .delete => [{ t.source with name := "old" }]
  | .update _ => [{ t.source with name := "old" }, { t.source with name := "new" }]

def raisedBy? : Output → Option (RaiseAction × String)
  | .value (.raise action message) _ => some (action, message)
  | _ => none

/-- The source of a step; without one there is a single row without values. -/
def stepSource (db : Database) (q : Select) :
    Except Fault (List Source × (Database → Except Fault (List Row))) :=
  match q.source with
  | none => .ok ([], fun _ => .ok [[]])
  | some name =>
    (openSource db.query db name).map fun (source, rows) => ([source.under q.label], rows)

def prepareStep (db : Database) (sources : List Source) (q : Select) :
    Except Fault TriggerStep := do
  let (own, rows) ← stepSource db q
  let scope : Scope := { sources := own ++ sources }
  for output in q.outputs.filter fun output => (raisedBy? output).isNone do
    let _ ← resolveOutput scope output
  return { rows := rows, condition := ← scope.resolve? q.condition
           raise := q.outputs.findSome? raisedBy? }

def prepareTrigger (db : Database) (t : Table) (d : TriggerDefinition) :
    Except Fault TriggerPlan := do
  let sources := triggerSources t d.event
  return { condition := ← ({ sources := sources } : Scope).resolve? d.condition
           steps := ← d.steps.mapM (prepareStep db sources) }

/-- Whether a change sets off what an event does: an update may name the columns that matter. -/
def meets (event change : TriggerEvent) : Bool :=
  match event, change with
  | .insert, .insert => true
  | .delete, .delete => true
  | .update columns, .update changed =>
    columns.isEmpty || columns.any fun c => changed.any (sameName c)
  | _, _ => false

/-- The triggers that a change of a table sets off, before or after it. -/
def prepareTriggers (db : Database) (t : Table) (change : TriggerEvent) (before : Bool) :
    Except Fault (List TriggerPlan) :=
  (db.triggers.filter fun d =>
    sameName d.table.name t.name && d.before = before && meets d.event change).mapM fun d =>
      (prepareTrigger db t d).mapError Fault.elsewhere

/-! ## Running -/

def stopOn {α : Type} (r : Except Fault α) : Except Stop α := r.mapError fun fault => { fault := fault }

/-- What raising an error does; whether the row is still changed. -/
def raiseError (db : Database) (action : RaiseAction) (message : String) : Except Stop Bool :=
  match action with
  | .ignore => .ok false
  | .abort => .error { fault := .constraint message }
  | .fail => .error { fault := .constraint message, effect := .keep db }
  | .rollback => .error { fault := .constraint message, effect := .endTransaction }

/-- Runs steps for a row; whether it is still changed. -/
def runSteps (db : Database) (row : Row) : List TriggerStep → Except Stop Bool
  | [] => .ok true
  | step :: rest => do
    let rows ← stopOn (step.rows db)
    let env (own : Row) : Env := { parameters := [], row := own ++ row }
    let met := rows.any fun own => holdsAll (env own) step.condition
    match step.raise with
    | some (action, message) =>
      if met then
        if ← raiseError db action message then runSteps db row rest else return false
      else runSteps db row rest
    | none => runSteps db row rest

/-- Runs triggers for a row; whether it is still changed. -/
def fire (db : Database) (row : Row) : List TriggerPlan → Except Stop Bool
  | [] => .ok true
  | t :: rest => do
    if holdsAll { parameters := [], row := row } t.condition then
      if ← runSteps db row t.steps then fire db row rest else return false
    else fire db row rest

end EntityStore.Engine
