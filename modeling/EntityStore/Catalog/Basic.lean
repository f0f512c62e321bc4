import EntityStore.Catalog.Entity
import EntityStore.Log

/-! # Catalogs

Entities registered one by one and compiled together:

* `Catalog.register` — analyzes one declaration; the first violation stays.
* `Catalog.compile` — the checks across entities, and the compiled entities.
* `CompiledCatalog` — what a registry is built from.
-/

namespace EntityStore

/-- The entities registered so far, and the first violation. -/
structure Catalog where
  entities : List AnalyzedEntity := []
  violation : Option Violation := none

/-- Entities that have passed all checks, in the order of their registration. -/
structure CompiledCatalog where
  entities : List CompiledEntity

namespace Catalog

def component : String := "sqlmapper_core::catalog"

def registeredEvent (s : EntitySchema) : Event :=
  { Event.remark .debug "entity registered" [("entity", s.qualifiedName)] with
    table := some s.table }

/-- The catalog with one more declaration, and what is reported.  After the first violation
    nothing is registered any more. -/
def register (c : Catalog) (m : Model) : Catalog × List Event :=
  match c.violation with
  | some _ => (c, [])
  | none =>
    if c.entities.any (·.schema.qualifiedName = m.qualifiedName) then
      ({ c with violation := some (.duplicateEntity m.qualifiedName) }, [])
    else
      match m.analyze with
      | .error violation => ({ c with violation := some violation }, [])
      | .ok entity =>
        ({ c with entities := c.entities ++ [entity] }, [registeredEvent entity.schema])

def registerAll (c : Catalog) : List Model → Catalog × List Event
  | [] => (c, [])
  | m :: rest =>
    let (c, events) := c.register m
    let (c, more) := c.registerAll rest
    (c, events ++ more)

def find? (c : Catalog) (name : String) : Option AnalyzedEntity :=
  c.entities.find? (·.schema.qualifiedName = name)

def linkTarget (c : Catalog) (owner : EntitySchema) (r : RelationSpec) :
    Except Violation RelationSpec :=
  match (c.find? r.target).bind fun t => t.schema.keyField?.map fun key => (t.schema, key) with
  | some (target, key) =>
    .ok { r with targetTable := target.table, targetPrimaryKey := key.column }
  | none => .error (.unresolvedRelationTarget owner.qualifiedName r.name r.target)

def linkSchema (c : Catalog) (s : EntitySchema) : Except Violation EntitySchema := do
  return { s with relations := ← s.relations.mapM (c.linkTarget s) }

def compileEntity (e : AnalyzedEntity) (s : EntitySchema) : Except Violation CompiledEntity :=
  match MappingPlan.ofSchema? s with
  | none => .error (.emptyEntity s.qualifiedName)
  | some plan =>
    .ok { schema := s, plan := plan, keyType := e.keyType, initial := e.initial
          columns := e.columns, relations := e.relations }

def check (c : Catalog) : Except Violation CompiledCatalog :=
  match c.violation with
  | some violation => .error violation
  | none => do
    let schemas ← c.entities.mapM fun e => c.linkSchema e.schema
    checkUniqueTables schemas
    let entities ← (c.entities.zip schemas).mapM fun (e, s) => compileEntity e s
    return ⟨entities⟩

def compileEvent (e : Event) : Event := { e with component := some component }

def compile (c : Catalog) : Except Failure CompiledCatalog × List Event :=
  let count := [("entities", toString c.entities.length)]
  let start := compileEvent { Event.started Log.compileOp with details := count }
  match c.check with
  | .error violation =>
    let failure := violation.toFailure
    (.error failure, [start, compileEvent (Event.failed Log.compileOp failure)])
  | .ok compiled =>
    (.ok compiled, [start, compileEvent { Event.finished Log.compileOp with details := count }])

end Catalog

namespace CompiledCatalog

def find? (c : CompiledCatalog) (name : String) : Option CompiledEntity :=
  c.entities.find? (·.schema.qualifiedName = name)

def schemas (c : CompiledCatalog) : List EntitySchema := c.entities.map (·.schema)

def plans (c : CompiledCatalog) : List MappingPlan := c.entities.map (·.plan)

def schema? (c : CompiledCatalog) (name : String) : Option EntitySchema :=
  c.schemas.find? (·.qualifiedName = name)

/-- The databases that entities live in, in the order of first use. -/
def tags (c : CompiledCatalog) : List String := distinct (c.schemas.map (·.tag))

end CompiledCatalog

end EntityStore
