import EntityStore.Store.Write

/-! # Rows with what they refer to

Relations are followed a limited number of levels deep: every step into another mapper takes one, so
that rows which refer to each other in a circle do no harm.

* `Registry.stores` — the mappers of a registry as the stores of relations, with levels to go.
* `Mapper.wrap`, `Mapper.wrapRelation` — attaches what rows refer to.
* `Mapper.resolved` — the same for what has been read, where a failure is only reported.
* `Mapper.saveWithRelated`, `Mapper.saveAllWithRelated` — saves rows and what they hold.
-/

namespace EntityStore

/-- The stores that relations are followed into; nothing if no level is left. -/
abbrev Stores := Option (String → Option (RelatedStore Session))

namespace Mapper

variable (m : Mapper)

def droppedRegistry : Failure :=
  { kind := .unknownMapper, entity := some m.entityName, message := "registry was dropped" }

/-- Fails unless the registry is still in use. -/
def requireRegistry : Session Unit := do
  if ← Session.isAlive m.registry.id then return () else throw m.droppedRegistry

def attachRelated (stores : Stores) (rows : List Record) : Session (List Record) := do
  match stores with
  | none => return rows
  | some stores =>
    -- With nothing to do it does not matter whether the registry is still there.
    if rows.isEmpty || m.entity.relations.isEmpty then return rows
    m.requireRegistry
    m.entity.relations.foldlM (fun rows relation => relation.resolve stores rows) rows

def saveRelated (stores : Stores) (rows : List Record) : Session Unit := do
  match stores with
  | none => return ()
  | some stores =>
    if rows.isEmpty || m.entity.relations.isEmpty then return ()
    m.requireRegistry
    m.entity.relations.forM fun relation => relation.save stores rows

/-- Attaches what rows that have been read refer to; a failure is reported and leaves the rows. -/
def resolved (stores : Stores) (rows : List Record) : Session (List Record) := do
  match ← Session.attempt (m.attachRelated stores rows) with
  | .ok rows => return rows
  | .error failure =>
    Session.report { level := .error, op := some "wrap_ref", table := some m.table
                     details := [("err.code", failure.kind.code), ("message", failure.text)] }
    -- The source hands on the rows as they are by then.  In a registry that has been built these are the
    -- rows as fetched: every target has a mapper and its reads do not fail, so what fails is
    -- `requireRegistry`, before the first relation.
    return rows

def store (next : Stores) : RelatedStore Session where
  keyOf := m.entity.keyOf
  fetchByKeys keys := do m.resolved next (← m.gets keys)
  fetchByText text := do m.resolved next (← m.getsListed text)
  saveRelated rows := do
    if ← m.saveAll rows then
      m.saveRelated next rows
      return true
    else return false

end Mapper

/-- The mappers of a registry as the stores of relations, with so many levels to go. -/
def Registry.stores (r : Registry) : Nat → Stores
  | 0 => none
  | depth + 1 => some fun target => (r.mapper? target).map fun m => m.store (r.stores depth)

namespace Mapper

variable (m : Mapper)

/-- The stores for as many levels as the registry allows. -/
def stores : Stores := m.registry.stores m.maxRefDepth

/-! ## Attaching -/

def wrap (rows : List Record) : Session (List Record) := m.attachRelated m.stores rows

def noRelation (name : String) : Failure :=
  { kind := .internal, op := some "wrap_ref_relation", entity := some m.entityName
    field := some name, message := "no relation with this name" }

def wrapRelation (rows : List Record) (name : String) : Session (List Record) := do
  match m.entity.relation? name with
  | none => throw (m.noRelation name)
  | some relation =>
    match m.stores with
    | none => return rows
    | some stores =>
      if rows.isEmpty then return rows
      m.requireRegistry
      relation.resolve stores rows

/-- Rows that are read, with what they refer to. -/
def withRelated (read : Session (List Record)) : Session (List Record) := do
  m.resolved m.stores (← read)

def getWithRelated (key : Int64) : Session (Option Record) := do
  match ← m.get key with
  | none => return none
  | some row => return (← m.resolved m.stores [row]).getLast?

/-! ## Saving -/

def saveWithRelated (row : Record) : Session Bool := do
  if ← m.save row then
    m.saveRelated m.stores [row]
    return true
  else return false

/-- Saves rows and what they hold. -/
def saveAllWithRelated (rows : List Record) : Session Bool := do
  if ← m.saveAll rows then
    m.saveRelated m.stores rows
    return true
  else return false

end Mapper

end EntityStore
