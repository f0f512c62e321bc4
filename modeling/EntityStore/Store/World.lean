import EntityStore.Catalog.Basic
import EntityStore.Config.Basic
import EntityStore.Store.Disk

/-! # The world of a session

Everything that the operations of a session read and change:

* `Context` — one logical database: its configuration and its connection, if it is open.
* `RegistryState`, `MapperState` — what registries and their mappers remember.
* `World` — the disk, the contexts, the registries and the log.
* `Session` — an operation in the world, which may fail; what it has changed until then stays.
-/

namespace EntityStore

open EntityStore.Engine (Database Transaction Lock Handle)

/-! ## Contexts -/

/-- Where the database behind a connection is kept. -/
inductive Backing where
  /-- In the connection itself. -/
  | memory (image : Database)
  /-- In the file with the names along its path. -/
  | file (path : List String)

structure Connection where
  backing : Backing
  transaction : Option Transaction := none
  /-- The texts of the statements that are kept for later, the latest first. -/
  kept : List String := []

/-- One logical database. -/
structure Context where
  config : ContextConfig
  connection : Option Connection := none
  /-- How often a connection has been opened. -/
  generation : Nat := 0
  /-- The name that replaces the configured one until the database is opened again. -/
  nameOverride : Option String := none
  userId : Option String := none

instance : Inhabited Context := ⟨{ config := {} }⟩

def Context.ofConfig (config : ContextConfig) : Context :=
  { config := config, userId := config.userId }

def Context.tag (c : Context) : String := c.config.tag

/-! ## Registries -/

/-- What a mapper remembers. -/
structure MapperState where
  /-- The context that it is bound to, since its first use. -/
  bound : Option Nat := none
  /-- The generation of the connection that its table was last brought up to date on. -/
  migrated : Nat := 0
  /-- How many read statements it has run. -/
  queries : Nat := 0
  /-- How many write statements it has run. -/
  writes : Nat := 0

instance : Inhabited MapperState := ⟨{}⟩

/-- What a registry remembers. -/
structure RegistryState where
  /-- Whether the registry is still in use. -/
  alive : Bool := true
  mappers : List MapperState

instance : Inhabited RegistryState := ⟨{ mappers := [] }⟩

/-! ## The world -/

/-- What the engine refuses for reasons beyond the session, by the number of the statement. -/
structure Faults where
  /-- Where it neither begins nor commits a transaction.  In an open one those are left out at which the
      engine would undo all of it by itself. -/
  within : Nat → Option Refusal := fun _ => none
  /-- Where it begins or commits a transaction. -/
  atEnds : Nat → Option Refusal := fun _ => none

/-- Everything that the operations of a session read and change. -/
structure World where
  disk : Disk := {}
  contexts : List Context := []
  /-- The tags of each group of contexts, with the numbers of the contexts. -/
  groups : List (List (String × Nat)) := []
  registries : List RegistryState := []
  /-- The files that somebody else holds for himself. -/
  guests : List (List String) := []
  /-- The reports so far, the latest first. -/
  log : List Event := []
  /-- How many request ids have been given out. -/
  requests : Nat := 0
  /-- How many statements the engine has been given. -/
  statements : Nat := 0
  faults : Faults := {}

/-- An operation in the world. -/
abbrev Session := ExceptT Failure (StateM World)

namespace Session

def report (e : Event) : Session Unit := modify fun w => { w with log := e :: w.log }

def reportAll (events : List Event) : Session Unit :=
  modify fun w => { w with log := events.reverse ++ w.log }

def context (id : Nat) : Session Context := return (← get).contexts.getD id default

def modifyContext (id : Nat) (f : Context → Context) : Session Unit :=
  modify fun w => { w with contexts := w.contexts.modify id f }

def addContext (config : ContextConfig) : Session Nat := do
  let id := (← get).contexts.length
  modify fun w => { w with contexts := w.contexts ++ [.ofConfig config] }
  return id

def isAlive (registry : Nat) : Session Bool :=
  return ((← get).registries.getD registry default).alive

def newRequestId : Session RequestId := do
  let n := (← get).requests
  modify fun w => { w with requests := n + 1 }
  return ⟨BitVec.ofNat 128 n⟩

/-- An operation whose failures get more context. -/
def annotate {α : Type} (note : Failure → Failure) (op : Session α) : Session α :=
  tryCatch op fun failure => throw (note failure)

def attempt {α : Type} (op : Session α) : Session (Except Failure α) :=
  tryCatch (Except.ok <$> op) fun failure => return .error failure

end Session

end EntityStore
