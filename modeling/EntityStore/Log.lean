import EntityStore.Failure

/-! # Log events

What operations report while they run:

* `Event` — one report: its level, what it is indexed by, and further details as text.
* `Event.started`, `Event.finished`, `Event.failed` — the brackets around an operation.
* `Event.retrying` — a transaction is run once more.
* `Profile.defaultFilter` — what is reported in which surroundings.
* `forOp`, `forTable`, `retries`, `hasEvent` — questions about a log, oldest event first.
-/

namespace EntityStore

/-- The severity of an event. -/
inductive Level where
  | debug
  | info
  | warn
  | error
  deriving DecidableEq

def Level.name : Level → String
  | debug => "DEBUG"
  | info => "INFO"
  | warn => "WARN"
  | error => "ERROR"

/-- What an event says about its operation. -/
inductive Phase where
  | start
  | finish
  | fail
  /-- A write transaction met lock contention and is run once more. -/
  | retry
  deriving DecidableEq

def Phase.name : Phase → String
  | start => "start"
  | finish => "end"
  | fail => "end_error"
  | retry => "retry"

/-- One report of an operation. -/
structure Event where
  level : Level
  component : Option String := none
  op : Option String := none
  phase : Option Phase := none
  tag : Option String := none
  table : Option String := none
  details : List (String × String) := []
  deriving DecidableEq

namespace Event

def started (op : String) : Event := { level := .debug, op := some op, phase := some .start }

def finished (op : String) : Event := { level := .debug, op := some op, phase := some .finish }

def failureDetails (failure : Failure) : List (String × String) :=
  [("err.kind", failure.kind.name), ("err.code", failure.kind.code), ("message", failure.text)]

def failed (op : String) (failure : Failure) : Event :=
  { level := .error, op := some op, phase := some .fail, details := failureDetails failure }

/-- A write transaction of the database `tag` is run once more. -/
def retrying (op tag : String) : Event :=
  { level := .warn, op := some op, phase := some .retry, tag := some tag }

/-- A remark outside the brackets of operations. -/
def remark (level : Level) (message : String) (details : List (String × String)) : Event :=
  { level := level, details := details ++ [("message", message)] }

def indexNames : List String := ["component", "op", "event", "db_tag", "table"]

def field? (e : Event) (name : String) : Option String :=
  match name with
  | "component" => e.component
  | "op" => e.op
  | "event" => e.phase.map Phase.name
  | "db_tag" => e.tag
  | "table" => e.table
  | _ => e.details.lookup name

end Event

/-- The surroundings that a program runs in. -/
inductive Profile where
  | development
  | production
  | test
  deriving DecidableEq

/-- What is reported unless asked otherwise: starts and ends of operations in development only. -/
def Profile.defaultFilter : Profile → String
  | development => "sqlmapper_core=debug,sqlmapper_store=debug"
  | production | test => "sqlmapper_core=info,sqlmapper_store=info"

namespace Log

def compileOp : String := "catalog_compile"

def buildOp : String := "registry_build"

def prepareOp : String := "registry_prepare"

def updateOp : String := "update"

/-- The names of the operations that are not named for a mapper's method. -/
def operations : List String := [compileOp, buildOp, prepareOp, updateOp]

def phases : List String := [Phase.start, .finish, .fail, .retry].map Phase.name

def forOp (op : String) (log : List Event) : List Event := log.filter (·.op = some op)

def forTable (table : String) (log : List Event) : List Event :=
  log.filter (·.table = some table)

/-- How many retries the log holds for a database. -/
def retries (tag : String) (log : List Event) : Nat :=
  (log.filter fun e => e.phase = some .retry ∧ e.tag = some tag).length

/-- Whether an operation has an event of the given name. -/
def hasEvent (op event : String) (log : List Event) : Bool :=
  log.any fun e => e.op = some op ∧ e.phase.map Phase.name = some event

end Log

end EntityStore
