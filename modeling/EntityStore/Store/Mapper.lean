import EntityStore.Store.Migration

/-! # Mappers

A mapper works on the table of one entity.  It looks up the context of the entity on first use, and
brings the table up to date whenever the context has opened a new connection.

* `Registry`, `Mapper` — the mappers of an application, and one of them.
* `Mapper.contextId` — the context that the mapper is bound to.
* `Mapper.prepare`, `Mapper.reset` — its table is brought up to date now, or again.
* `Mapper.withTable` — an operation on the connection, the table up to date.
-/

namespace EntityStore

/-- The mappers of an application and the contexts that they work on. -/
structure Registry where
  /-- The number under which the world knows it. -/
  id : Nat
  /-- The number of its group of contexts. -/
  group : Nat
  catalog : CompiledCatalog
  maxRefDepth : Nat

structure Mapper where
  registry : Registry
  /-- Its place among the mappers of the registry. -/
  index : Nat
  entity : CompiledEntity

def Registry.mapper? (r : Registry) (name : String) : Option Mapper :=
  match r.catalog.entities.findIdx? fun e => e.schema.qualifiedName = name with
  | none => none
  | some i => r.catalog.entities[i]?.map fun e => ⟨r, i, e⟩

def Registry.mappers (r : Registry) : List Mapper :=
  r.catalog.entities.zipIdx.map fun (e, i) => ⟨r, i, e⟩

def unknownContext (tag : String) : Failure :=
  { kind := .unknownContext, op := some "context_lookup", tag := some tag
    message := "no context configured for this tag" }

namespace Session

def contextOf (group : Nat) (tag : String) : Session Nat := do
  match ((← get).groups.getD group []).lookup tag with
  | some id => return id
  | none => throw (unknownContext tag)

end Session

namespace Mapper

open Session (report context annotate withConnection)

variable (m : Mapper)

def plan : MappingPlan := m.entity.plan

def table : String := m.plan.table

def entityName : String := m.plan.entity

/-- How many levels of relations are followed. -/
def maxRefDepth : Nat := m.registry.maxRefDepth

/-! ## State -/

def state : Session MapperState :=
  return ((← get).registries.getD m.registry.id default).mappers.getD m.index default

def modifyState (f : MapperState → MapperState) : Session Unit :=
  modify fun w => { w with
    registries := w.registries.modify m.registry.id fun r =>
      { r with mappers := r.mappers.modify m.index f } }

def countQuery : Session Unit := m.modifyState fun s => { s with queries := s.queries + 1 }

def countWrite : Session Unit := m.modifyState fun s => { s with writes := s.writes + 1 }

def debug : Session String := do
  let s ← m.state
  let stats := structureText "MapperStats"
    [("queries", toString s.queries), ("writes", toString s.writes)]
  return structureText "Mapper" [
    ("entity", Text.quoted m.entityName), ("table", Text.quoted m.table), ("stats", stats)]

/-! ## The context -/

def contextId : Session Nat := do
  match (← m.state).bound with
  | some id => return id
  | none =>
    let id ← annotate (fun failure => { failure with entity := some m.entityName })
      (Session.contextOf m.registry.group m.plan.tag)
    m.modifyState fun s => { s with bound := some id }
    return id

def note (op : String) (failure : Failure) : Failure :=
  { failure with
    op := some op, entity := some m.entityName, table := some m.table, tag := some m.plan.tag }

/-- Remembers that the table is up to date.  What a transaction has defined may still be undone, so
    it counts only outside of transactions. -/
def markMigrated (id generation : Nat) : Session Unit := do
  if ← Session.isAutocommit id then
    m.modifyState fun s => { s with migrated := generation }

/-- Brings the table up to date now. -/
def prepare : Session MigrationReport := do
  let id ← m.contextId
  annotate (m.note "prepare") do
    withConnection id fun generation => do
      let report ← Session.migrate id m.plan
      m.markMigrated id generation
      return report

/-- Forgets the context, with its statements, and that the table is up to date. -/
def reset : Session Unit := do
  -- Only a bound mapper has a connection with statements.
  if let some id := (← m.state).bound then Session.flushStatements id
  m.modifyState fun s => { s with migrated := 0, bound := none }

/-- An operation on the connection of the context, the table up to date. -/
def withTable {α : Type} (op : Nat → Session α) : Session α := do
  let id ← m.contextId
  withConnection id fun generation => do
    if (← m.state).migrated ≠ generation then
      let _ ← Session.migrate id m.plan
      m.markMigrated id generation
    op id

end Mapper

end EntityStore
