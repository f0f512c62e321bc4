import EntityStore.Catalog.Manifest
import EntityStore.Store.Related

/-! # Registries

The mappers of an application, built once from its declarations and its configuration.

* `Session.build` — a registry from declarations, on contexts of its own or on those of another.
* `Registry.prepareAll`, `Registry.reset`, `Registry.close` — all mappers and contexts at once.
* `Registry.lookup`, `Registry.context`, `Registry.update` — one mapper, one context.
-/

namespace EntityStore

namespace Session

def registryComponent : String := "sqlmapper_store::registry"

def registryEvent (e : Event) (details : List (String × String)) : Event :=
  { e with component := some registryComponent, details := details ++ e.details }

/-- Contexts for configurations, as a new group; its number. -/
def addGroup (configs : List ContextConfig) : Session Nat := do
  let entries ← configs.mapM fun config => do return (config.tag, ← addContext config)
  let group := (← get).groups.length
  modify fun w => { w with groups := w.groups ++ [entries] }
  return group

def openGroup (config : StoreConfig) : Session Nat := do
  ofExcept config.validate
  addGroup config.contexts

def buildRegistry (config : StoreConfig) (shared : Option Nat) (catalog : Catalog) :
    Session Registry := do
  let group ← match shared with
    | some group => pure group
    | none => openGroup config
  let (compiled, events) := catalog.compile
  reportAll events
  let compiled ← ofExcept compiled
  let id := (← get).registries.length
  let mappers := compiled.entities.map fun _ => ({} : MapperState)
  modify fun w => { w with registries := w.registries ++ [{ mappers := mappers }] }
  return { id := id, group := group, catalog := compiled, maxRefDepth := config.maxRefDepth }

/-- Registers declarations and builds a registry of them, on the contexts of a group if one is
    given.  No database is touched. -/
def build (config : StoreConfig) (shared : Option Nat) (models : List Model) :
    Session Registry := do
  -- A broken declaration is remembered and only fails the build when it is compiled.
  let (catalog, events) := ({} : Catalog).registerAll models
  reportAll events
  report (registryEvent (Event.started Log.buildOp) [("entities", toString models.length)])
  match ← attempt (buildRegistry config shared catalog) with
  | .ok registry =>
    let count := toString registry.catalog.entities.length
    report (registryEvent (Event.finished Log.buildOp) [("entities", count)])
    return registry
  | .error failure =>
    report (registryEvent (Event.failed Log.buildOp failure) [])
    throw failure

/-- Adds a context to a group; a tag can only be taken once. -/
def insertContext (group : Nat) (config : ContextConfig) : Session Nat := do
  let entries := (← get).groups.getD group []
  match entries.lookup config.tag with
  | some _ => throw (configFailure ("context '" ++ config.tag ++ "' is already registered"))
  | none =>
    let id ← addContext config
    modify fun w => { w with groups := w.groups.set group (entries ++ [(config.tag, id)]) }
    return id

def retainGroups (groups : List Nat) : Session Unit := do
  let all := (← get).groups
  let kept := groups.flatMap fun group => (all.getD group []).map (·.2)
  modify fun w => { w with
    contexts := w.contexts.zipIdx.map fun (c, id) =>
      if kept.contains id then c else { c with connection := none } }

end Session

namespace Registry

open Session (report registryEvent attempt)

variable (r : Registry)

def size : Nat := r.catalog.entities.length

def context (tag : String) : Session Nat := Session.contextOf r.group tag

def tags : Session (List String) := do
  let entries := (← get).groups.getD r.group []
  return (entries.map (·.1)).mergeSort fun a b => a ≤ b

def unregistered (name : String) : Failure :=
  { kind := .unknownMapper, op := some "mapper_lookup", entity := some name
    message := "entity type is not registered" }

def lookup (name : String) : Session Mapper := do
  match r.mapper? name with
  | some m => return m
  | none => throw (unregistered name)

/-- Runs a block in a write transaction on the context of a tag. -/
def update {α : Type} (tag : String) (block : Session α) : Session α := do
  Session.update (← r.context tag) block

/-- Brings all tables up to date. -/
def prepareAll : Session (List MigrationReport) := do
  report (registryEvent (Event.started Log.prepareOp) [("entities", toString r.size)])
  match ← attempt (r.mappers.mapM Mapper.prepare) with
  | .ok reports =>
    let count := reports.foldl (fun n report => n + report.ddlCount) 0
    report (registryEvent (Event.finished Log.prepareOp) [("ddl_count", toString count)])
    return reports
  | .error failure =>
    report (registryEvent (Event.failed Log.prepareOp failure) [])
    throw failure

def reset : Session Unit := do
  r.mappers.forM Mapper.reset
  report (Event.remark .debug "registry reset" [("entities", toString r.size)])

def close : Session Unit := do
  r.reset
  ((← get).groups.getD r.group []).forM fun entry => Session.closeContext entry.2

def stats : Session (List (String × MapperState)) :=
  r.mappers.mapM fun m => do return (m.entityName, ← m.state)

def drop : Session Unit :=
  modify fun w => { w with registries := w.registries.modify r.id fun s => { s with alive := false } }

def debug : Session String := do
  return structureText "Registry" [
    ("entities", toString r.size), ("tags", Text.quotedList (← r.tags))]

end Registry

end EntityStore
