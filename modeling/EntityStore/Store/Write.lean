import EntityStore.Store.Read

/-! # Writes

* `Mapper.save`, `Mapper.saveAll` — rows in place of those with their keys.
* `Mapper.delete`, `Mapper.deleteBy` — a row by its key.
* `Mapper.deleteWhere`, `Mapper.updateWhere` — all rows that a predicate holds for.

Every write reports its start and its end.
-/

namespace EntityStore

namespace Mapper

open Session (report prepareCached runWith attempt)

variable (m : Mapper)

def writeComponent : String := "sqlmapper_store::mapper::write"

def writeEvent (e : Event) : Event :=
  { e with component := some writeComponent, table := some m.table }

/-- Runs a write on the table, which is up to date. -/
def write {α : Type} (op : String) (block : Nat → Session α) : Session α := do
  report (m.writeEvent (Event.started op))
  match ← attempt (m.withTable block) with
  | .ok value =>
    report (m.writeEvent (Event.finished op))
    return value
  | .error failure =>
    let failure := m.note op failure
    report (m.writeEvent (Event.failed op failure))
    throw failure

/-! ## Saving -/

def bound (row : Record) : Session (List Sql.Datum) := do
  return (← Session.ofExcept (m.entity.bindRow row)).map .ofStored

/-- Saves a row in place of the one with its key; whether one row has been written. -/
def save (row : Record) : Session Bool :=
  m.write "save" fun id => do
    let parameters ← m.bound row
    let outcome ← runWith id (← prepareCached id m.plan.insert) parameters
    m.countWrite
    return outcome.changes = 1

/-- Saves rows one after the other; whether there were any. -/
def saveAll (rows : List Record) : Session Bool := do
  if rows.isEmpty then return false
  m.write "save_all" fun id => do
    let p ← prepareCached id m.plan.insert
    for row in rows do
      let _ ← runWith id p (← m.bound row)
      m.countWrite
    return true

/-! ## Deleting -/

/-- Deletes the row of a key; whether there was one. -/
def deleteKey (id : Nat) (key : Int64) : Session Bool := do
  let outcome ← runWith id (← prepareCached id m.plan.delete) [.integer key]
  m.countWrite
  return outcome.changes = 1

/-- Deletes a row by its key; whether there was one. -/
def delete (row : Record) : Session Bool :=
  m.write "delete" fun id => m.deleteKey id (m.entity.keyOf row)

/-- Deletes the row of a key; whether there was one. -/
def deleteBy (key : Int64) : Session Bool := m.write "delete_by" fun id => m.deleteKey id key

/-! ## Many rows at once -/

/-- Runs a statement that changes rows and counts it; how many rows it has changed. -/
def changeRows (op text : String) (parameters : List StoredValue) : Session Nat :=
  m.write op fun id => do
    let changed ← Session.change id text parameters
    m.countWrite
    return changed

/-- Deletes the rows that a predicate holds for; how many. -/
def deleteWhere (predicate : String) (parameters : List StoredValue) : Session Nat :=
  m.changeRows "delete_where" (m.plan.deleteWhere predicate) parameters

/-- Changes the rows that a predicate holds for; how many. -/
def updateWhere (assignments predicate : String) (parameters : List StoredValue) : Session Nat :=
  m.changeRows "update_where" (m.plan.updateWhere assignments predicate) parameters

end Mapper

end EntityStore
