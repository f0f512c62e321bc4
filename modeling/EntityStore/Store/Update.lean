import EntityStore.Store.Lifecycle

/-! # Write transactions and reads

* `Session.update` — a block in a write transaction, run a second time if another connection was in
  the way.
* `Session.readOr` — a read whose failure is reported and gives way to an empty result.
-/

namespace EntityStore

namespace Session

/-! ## Transactions -/

def transactionEvent (tag message : String) (details : List (String × String)) : Event :=
  { Event.remark .debug message details with tag := some tag }

/-- A statement about transactions, if the connection is still the one of the generation. -/
def controlOn (id generation : Nat) (s : Sql.Statement) (op : String) : Session Unit := do
  let c ← context id
  if c.connection.isSome && c.generation = generation then
    annotate (fun failure => { failure with op := some op, tag := some c.tag }) (control id s)
  else throw (closedConnection c.tag op)

def beginWrite (id : Nat) : Session Nat :=
  withConnection id fun generation => do
    annotate (fun failure => { failure with op := some "begin" })
      (control id (.begin .immediate))
    return generation

def undo (id generation : Nat) : Session Unit := do
  let tag := (← context id).tag
  match ← attempt (controlOn id generation .rollback "rollback") with
  | .ok () => report (transactionEvent tag "rollback" [])
  | .error failure =>
    report (transactionEvent tag "rollback skipped" [("error", failure.text)])

def runOnce {α : Type} (id : Nat) (block : Session α) : Session α := do
  let tag := (← context id).tag
  let generation ← beginWrite id
  report (transactionEvent tag "begin" [])
  let committed : Session α := do
    let value ← block
    controlOn id generation .commit "commit"
    return value
  match ← attempt committed with
  | .ok value =>
    report (transactionEvent tag "commit" [])
    return value
  | .error failure =>
    undo id generation
    throw failure

/-- The module that transaction events name. -/
def contextComponent : String := "sqlmapper_store::context"

def updateEvent (tag : String) (e : Event) : Event :=
  { e with component := some contextComponent, tag := some tag }

/-- What is reported before a block runs for the second time. -/
def retryEvent (config : ContextConfig) : Event :=
  let details := [("backoff_ms", toString config.lockBackoffMs),
    ("message", "database locked, retrying once")]
  { Event.retrying Log.updateOp config.tag with details := details }

def retry {α : Type} (id : Nat) (block : Session α) : Session α := do
  report (retryEvent (← context id).config)
  -- The connection goes and a new one comes, so that nothing of the first run is left in it.
  forceClose id
  openContext id
  runOnce id block

/-- Runs a block in a write transaction.  What the block has changed is there as a whole if the
    block succeeds, and not at all if it fails.  If another connection was in the way, the block
    runs once more on a new connection. -/
def update {α : Type} (id : Nat) (block : Session α) : Session α := do
  let tag := (← context id).tag
  -- One id for both runs: they are the same request.
  let request ← newRequestId
  report (updateEvent tag (Event.started Log.updateOp))
  let first ← attempt (runOnce id block)
  let result ← match first with
    | .error failure =>
      if failure.isLockContention then attempt (retry id block) else pure first
    | .ok _ => pure first
  match result with
  | .ok value =>
    report (updateEvent tag (Event.finished Log.updateOp))
    return value
  | .error failure =>
    let failure := { failure with tag := some tag, requestId := some request }
    report (updateEvent tag (Event.failed Log.updateOp failure))
    throw failure

/-! ## Reads -/

def readFailure (op tag : String) (failure : Failure) : Failure :=
  { kind := .transientQuery, op := some op, tag := some tag
    message := failure.message, cause := some failure }

/-- Runs a read; if it fails, that is reported and the standard result given. -/
def readOr {α : Type} (id : Nat) (op : String) (standard : α) (block : Session α) : Session α := do
  match ← attempt block with
  | .ok value => return value
  | .error failure =>
    let tag := (← context id).tag
    let failure := readFailure op tag failure
    report { level := .error, op := some op, tag := some tag
             details := Event.failureDetails failure }
    return standard

end Session

end EntityStore
