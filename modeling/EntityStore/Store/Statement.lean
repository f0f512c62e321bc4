import EntityStore.Store.World

/-! # Statements on connections

* `World.handle?`, `World.putHandle` — the database behind a connection.
* `Session.execute`, `Session.control` — one program on a connection, and one step of its
  transaction.
* `Session.executeBatch` — the statements of a text, one after the other.
* `Session.prepareCached`, `Session.flushStatements` — the statements that a connection keeps.
* `Session.rows`, `Session.change` — one statement with parameters.
-/

namespace EntityStore

open EntityStore.Engine (Database Lock Handle Program Outcome)
open EntityStore.Sql (Datum Statement)

namespace Connection

def file? (c : Connection) : Option (List String) :=
  match c.backing with
  | .memory _ => none
  | .file path => some path

def lock (c : Connection) : Lock := (c.transaction.map (·.lock)).getD .unlocked

end Connection

def Refusal.foreign : Refusal := ⟨26, "file is not a database", false⟩

def Refusal.empty : Refusal := ⟨21, "not an error", false⟩

namespace World

/-- What a connection does to its database; nothing if the file holds none. -/
def handle? (w : World) (c : Connection) : Option Handle :=
  match c.backing with
  | .memory image => some ⟨image, c.transaction⟩
  | .file path =>
    match w.disk.file? path with
    | some (.database image) => some ⟨image, c.transaction⟩
    | some .foreign => none
    | none => some ⟨{}, c.transaction⟩

def othersOn (w : World) (id : Nat) (path : List String) : List Lock :=
  (w.guests.filter (· = path)).map (fun _ => Lock.exclusive)
    ++ w.contexts.zipIdx.filterMap fun (context, other) =>
      if other = id then none
      else
        match context.connection with
        | none => none
        | some c => if c.file? = some path then some c.lock else none

def others (w : World) (id : Nat) (c : Connection) : List Lock :=
  match c.file? with
  | none => []
  | some path => w.othersOn id path

def putHandle (w : World) (id : Nat) (c : Connection) (h : Handle) : World :=
  let backing := match c.backing with
    | .memory _ => .memory h.image
    | .file path => .file path
  let connection := { c with backing := backing, transaction := h.transaction }
  { w with
    contexts := w.contexts.modify id fun context => { context with connection := some connection }
    disk := match c.backing with
      | .memory _ => w.disk
      | .file path => w.disk.write path (.database h.image) }

end World

/-- Whether no transaction is open on the connection of a context. -/
def World.isIdle (w : World) (id : Nat) : Bool :=
  ((w.contexts.getD id default).connection.bind (·.transaction)).isNone

/-- Why a statement is refused that is not about transactions, or a savepoint. -/
def Faults.inside (idle : Bool) (f : Faults) (n : Nat) : Option Refusal :=
  (f.within n).filter fun r => idle || r.isLasting

def Faults.about : Statement → Bool → Faults → Nat → Option Refusal
  | .begin _, _, f | .commit, _, f => f.atEnds
  | _, idle, f => f.inside idle

namespace Session

def refuse {α : Type} (r : Refusal) : Session α := throw r.toFailure

def connection (id : Nat) : Session Connection := do
  let context ← context id
  match context.connection with
  | some c => return c
  | none => throw (closedConnection context.tag "with_connection")

/-- Does something to the database behind the connection of a context. -/
def onHandle {α : Type} (id : Nat) (step : List Lock → Handle → Except Refusal α × Handle) :
    Session α := do
  let c ← connection id
  let w ← get
  match w.handle? c with
  | none => refuse .foreign
  | some h =>
    let (result, h) := step (w.others id c) h
    set (w.putHandle id c h)
    match result with
    | .ok a => return a
    | .error r => refuse r

/-- Counts a statement that the engine is given; why the engine refuses it for reasons of its own, if it
    does. -/
def nextFault (id : Nat) (kind : Bool → Faults → Nat → Option Refusal) : Session (Option Refusal) := do
  let w ← get
  set { w with statements := w.statements + 1 }
  return kind (w.isIdle id) w.faults w.statements

/-- Counts a statement that is not about transactions, which may be refused. -/
def countStatement (id : Nat) : Session Unit := do
  match ← nextFault id Faults.inside with
  | none => return ()
  | some r => refuse r

def database (id : Nat) : Session Database := onHandle id fun _ h => (.ok h.current, h)

def isAutocommit (id : Nat) : Session Bool := do
  return (← connection id).transaction.isNone

def execute (id : Nat) (p : Program) (parameters : List Datum) : Session Outcome := do
  countStatement id
  onHandle id fun others h => h.run others p parameters

/-- Whether a statement may be refused: undoing changes always succeeds, and giving up a savepoint
    only matters if that commits a transaction that writes. -/
def mayFail (h : Handle) : Statement → Bool
  | .rollback | .rollbackTo _ => false
  | .release name =>
    match h.transaction with
    | none => false
    | some t =>
      t.writing && !t.begun
        && ((Engine.Handle.savepointsFrom name t.savepoints).drop 1).isEmpty
  | _ => true

def controlFault (id : Nat) (s : Statement) : Session (Option Refusal) := do
  if ← onHandle id fun _ h => (.ok (mayFail h s), h) then nextFault id (Faults.about s) else return none

/-- Runs a statement about transactions. -/
def control (id : Nat) (s : Statement) : Session Unit := do
  let refusal ← controlFault id s
  onHandle id fun others h => h.controlUnless refusal others s

/-! ## Texts -/

/-- The first statement of a text, prepared; `again` if it has been prepared before.  It is prepared by the
    definitions of now, where SQLite may start from those that the connection has read before and find out
    only when the statement runs. -/
def prepare (id : Nat) (text : String) (again : Bool := false) : Session (Option Prepared) := do
  match prepareText (← database id) text again with
  | .ok prepared => return prepared
  | .error r => refuse r

def runPrepared (id : Nat) (p : Prepared) : Session Unit := do
  match p.program with
  | some program =>
    let _ ← execute id program []
  | none => control id p.statement

def executeUpTo (id : Nat) : Nat → String → Session Unit
  | 0, _ => return ()
  | count + 1, text => do
    match ← prepare id text with
    | none => return ()
    | some p =>
      runPrepared id p
      if p.rest.isEmpty then return () else executeUpTo id count p.rest

def executeBatch (id : Nat) (text : String) : Session Unit := executeUpTo id text.length text

def checkParameters (needed given : Nat) : Session Unit :=
  if given = needed then return ()
  else refuse (.statement ("Wrong number of parameters passed to query. Got "
    ++ toString (min given (needed + 1)) ++ ", needed " ++ toString needed))

def runWith (id : Nat) (p : Prepared) (parameters : List Datum) : Session Outcome := do
  checkParameters p.parameters parameters.length
  match p.program with
  | some program => execute id program parameters
  | none =>
    control id p.statement
    return { database := {} }

def prepareOne (id : Nat) (text : String) (again : Bool := false) : Session Prepared := do
  match ← prepare id text again with
  | some p => return p
  | none => refuse .empty

def keptStatements : Nat := 16

def modifyKept (id : Nat) (f : List String → List String) : Session Unit :=
  modifyContext id fun context =>
    { context with connection := context.connection.map fun c => { c with kept := f c.kept } }

/-- Prepares a statement that is kept for later, without the blanks around it. -/
def prepareCached (id : Nat) (text : String) : Session Prepared := do
  let text := Text.trim text
  let p ← prepareOne id text ((← connection id).kept.contains text)
  -- The statement used last comes first; the one that has been left longest goes.
  modifyKept id fun kept => (text :: kept.erase text).take keptStatements
  return p

def flushStatements (id : Nat) : Session Unit := modifyKept id fun _ => []

def rows (id : Nat) (p : Prepared) (parameters : List StoredValue) :
    Session (List (List StoredValue)) := do
  let outcome ← runWith id p (parameters.map .ofStored)
  return outcome.rows.map fun row => row.map (·.toStored)

/-- How many rows the only statement of a text changes. -/
def change (id : Nat) (text : String) (parameters : List StoredValue) : Session Nat := do
  let p ← prepareOne id text
  if !p.rest.isEmpty then refuse (.statement "Multiple statements provided")
  return (← runWith id p (parameters.map .ofStored)).changes

end Session

end EntityStore
