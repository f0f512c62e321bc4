import EntityStore.Store.Statement

/-! # The lifecycle of contexts

A context opens its connection on first use.  Closing it undoes what is not committed, and in
memory takes the database with it.

* `Context.name?` — the name of the database: the last one asked for, the configured one, or that
  of the user.
* `Session.openContext`, `Session.closeContext`, `Session.reopen`, `Session.openNamed`,
  `Session.setUser` — what opens and closes connections.
* `Session.databasePath`, `Session.databaseExists`, `Session.deleteFile` — the file of a database.
* `Session.holdFile`, `Session.releaseFiles` — somebody else is in the way, and no longer is.
* `Session.withConnection` — an operation on the open connection.
-/

namespace EntityStore

open EntityStore.Engine (Database)

/-! ## Names and paths -/

def Context.name? (c : Context) : Option String :=
  c.nameOverride <|> c.config.name <|> c.userId.map ("user_" ++ ·)

def Context.requireName (c : Context) : Except Failure String :=
  match c.name? with
  | some name => .ok name
  | none =>
    let failure := configFailure
      ("context '" ++ c.tag ++ "' has neither a name nor a user id")
    .error { failure with tag := some c.tag }

def Context.noFile (c : Context) : Failure :=
  let failure := configFailure ("context '" ++ c.tag ++ "' is in memory and has no file")
  { failure with tag := some c.tag }

def Refusal.cannotOpen (path : String) : Refusal :=
  ⟨14, "unable to open database file: " ++ path, false⟩

namespace Session

def ofExcept {α : Type} (r : Except Failure α) : Session α :=
  match r with
  | .ok a => return a
  | .error failure => throw failure

def resolvePath (id : Nat) : Session String := do
  let c ← context id
  match c.config.storage with
  | .memory => throw c.noFile
  | .directory path =>
    match (← get).disk.createDirectories (pathParts path) with
    | .error reason => throw (fileFailure "database_path" reason)
    | .ok disk =>
      modify fun w => { w with disk := disk }
      return joinPath path ((← ofExcept c.requireName) ++ ".db")

/-! ## Opening -/

/-- Opens the file of a path, which is taken as it is: what the engine does with URIs is left out. -/
def connectFile (path : String) : Session Connection := do
  match (← get).disk.create (pathParts path) with
  | none => refuse (.cannotOpen path)
  | some disk =>
    modify fun w => { w with disk := disk }
    return { backing := .file (pathParts path) }

def connect (id : Nat) : Session Connection := do
  match (← context id).config.storage with
  | .memory => return { backing := .memory {} }
  | .directory _ => connectFile (← resolvePath id)

def keyStatement (secret : Secret) : String :=
  "PRAGMA key=" ++ Sql.quotedAs '\'' secret.exposed

/-- Sets up a connection that has just been opened; without success it is closed again. -/
def configure (id : Nat) : Session Unit := do
  match (← context id).config.secret with
  | none => return ()
  | some secret =>
    tryCatch (executeBatch id (keyStatement secret)) fun failure => do
      modifyContext id fun c => { c with connection := none }
      throw failure

def openContext (id : Nat) : Session Unit := do
  if (← context id).connection.isNone then
    let connection ← connect id
    modifyContext id fun c => { c with connection := some connection }
    configure id
    modifyContext id fun c => { c with generation := c.generation + 1 }
    let c ← context id
    let opened := Event.remark .debug "context opened" [("generation", toString c.generation)]
    report { opened with tag := some c.tag }

def closeContext (id : Nat) : Session Unit := do
  let c ← context id
  if c.connection.isSome then
    modifyContext id fun c => { c with connection := none }
    report { Event.remark .debug "context closed" [] with tag := some c.tag }

def forceClose (id : Nat) : Session Unit :=
  modifyContext id fun c => { c with connection := none }

/-- Closes the connection and opens it again under the configured name. -/
def reopen (id : Nat) : Session Unit := do
  closeContext id
  modifyContext id fun c => { c with nameOverride := none }
  openContext id

/-- Closes the connection and opens another database in its place. -/
def openNamed (id : Nat) (name : String) : Session Unit := do
  closeContext id
  modifyContext id fun c => { c with nameOverride := some name }
  openContext id

/-- Turns to the database of another user, which the next access opens. -/
def setUser (id : Nat) (user : String) : Session Unit := do
  if (← context id).userId ≠ some user then
    closeContext id
    modifyContext id fun c => { c with userId := some user }

/-- An operation on the connection of a context, opened before if it is closed; the operation is
    given the generation of the connection. -/
def withConnection {α : Type} (id : Nat) (op : Nat → Session α) : Session α := do
  openContext id
  op (← context id).generation

/-! ## Files -/

def isOpen (id : Nat) : Session Bool := return (← context id).connection.isSome

def databasePath (id : Nat) : Session String := resolvePath id

def pathExists (path : String) : Session Bool := do
  let disk := (← get).disk
  let parts := pathParts path
  return (disk.file? parts).isSome || disk.isDirectory parts

/-- Whether the database of a context exists; in memory, whether it is open. -/
def databaseExists (id : Nat) : Session Bool := do
  match (← context id).config.storage with
  | .memory => isOpen id
  | .directory _ =>
    match ← attempt (databasePath id) with
    | .ok path => pathExists path
    | .error _ => return false

/-- Closes the connection and deletes the file of a context; whether there was one. -/
def deleteFile (id : Nat) : Session Bool := do
  closeContext id
  let c ← context id
  if c.config.storage = .memory then return false
  let path ← resolvePath id
  if !(← pathExists path) then return false
  if (← get).disk.isDirectory (pathParts path) then
    throw (fileFailure "delete_file" "Is a directory (os error 21)")
  modify fun w => { w with disk := w.disk.remove (pathParts path) }
  report { Event.remark .info "database deleted" [("path", path)] with tag := some c.tag }
  return true

/-- Somebody else opens the file of a context and holds it for himself, if nobody is in the way. -/
def holdFile (id : Nat) : Session Unit := do
  let path ← databasePath id
  let _ ← connectFile path
  let w ← get
  let others := w.othersOn w.contexts.length (pathParts path)
  if Engine.mayCommit others then
    set { w with guests := pathParts path :: w.guests }
  else refuse .busy

/-- Nobody else holds a file any more. -/
def releaseFiles : Session Unit := modify fun w => { w with guests := [] }

/-! ## Versions -/

def singleInteger (rows : List (List Sql.Datum)) : Int :=
  match rows with
  | [.integer n] :: _ => n.toInt
  | _ => 0

def versionOn (id : Nat) : Session Int := do
  let program : Engine.Program :=
    { writes := false, width := 1
      run := fun _ db =>
        .ok { database := db, rows := [[.integer (Int64.ofInt db.version.toInt)]] } }
  return singleInteger (← execute id program []).rows

/-- An integer as a version; zero if it is out of range. -/
def versionOf (n : Int) : Int32 := if Number.Fits 32 n then Int32.ofInt n else 0

/-- Counts the version of the database behind a connection up by one; the next version. -/
def bumpVersion (id : Nat) : Session Int := do
  let next := (← versionOn id) + 1
  let _ ← execute id (.define fun db => { db with version := versionOf next }) []
  return next

def userVersion (id : Nat) : Session Int := withConnection id fun _ => versionOn id

end Session

def Context.debug (c : Context) : String :=
  structureText "SqliteContext" [
    ("tag", Text.quoted c.tag),
    ("storage", c.config.storage.debug),
    ("open", toString c.connection.isSome)]

end EntityStore
