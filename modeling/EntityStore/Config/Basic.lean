import EntityStore.Config.Secret
import EntityStore.Failure
import EntityStore.Text.Quoted

/-! # Configuration

How databases are opened and how deep relations are followed:

* `Storage`, `ContextConfig`, `StoreConfig` — one database tag, and all of them.
* `StoreConfig.withContext` — adds the configuration of a tag, or replaces it.
* `StoreConfig.validate` — no tag twice.
* `StoreConfig.debug` — the text that diagnostics show; secrets do not appear in it.
-/

namespace EntityStore

/-- Where a database is kept. -/
inductive Storage where
  /-- In a file of the directory. -/
  | directory (path : String)
  /-- In memory, until it is closed. -/
  | memory
  deriving DecidableEq

structure ContextConfig where
  tag : String := "default"
  /-- The name of the database; by default that of the user. -/
  name : Option String := none
  userId : Option String := none
  storage : Storage := .memory
  secret : Option Secret := none
  /-- The pause before the second attempt of a transaction that met lock contention. -/
  lockBackoffMs : Nat := 100
  /-- How long the engine itself waits for a lock. -/
  busyTimeoutMs : Nat := 0
  deriving DecidableEq

/-- The configuration of all databases. -/
structure StoreConfig where
  /-- How many levels of relations are resolved and saved. -/
  maxRefDepth : Nat := 3
  contexts : List ContextConfig := []
  deriving DecidableEq

def configFailure (reason : String) : Failure :=
  { kind := .config, op := some "config", message := reason }

/-! ## Text -/

def optionText (shown : Option String) : String :=
  match shown with
  | none => "None"
  | some text => "Some(" ++ text ++ ")"

def structureText (name : String) (parts : List (String × String)) : String :=
  name ++ " \x7b " ++ ", ".intercalate (parts.map fun (n, s) => n ++ ": " ++ s) ++ " \x7d"

def Storage.debug : Storage → String
  | directory path => structureText "Directory" [("path", Text.quotedPath path)]
  | memory => "Memory"

def ContextConfig.debug (c : ContextConfig) : String :=
  structureText "ContextConfig" [
    ("tag", Text.quoted c.tag),
    ("name", optionText (c.name.map Text.quoted)),
    ("user_id", optionText (c.userId.map Text.quoted)),
    ("storage", c.storage.debug),
    ("secret", optionText (c.secret.map Secret.shown)),
    ("lock_backoff_ms", toString c.lockBackoffMs),
    ("busy_timeout_ms", toString c.busyTimeoutMs)]

namespace StoreConfig

def debug (c : StoreConfig) : String :=
  structureText "OrmConfig" [
    ("max_ref_depth", toString c.maxRefDepth),
    ("contexts", "[" ++ ", ".intercalate (c.contexts.map ContextConfig.debug) ++ "]")]

/-! ## Contexts -/

def inMemory (tag : String) : StoreConfig := { contexts := [{ tag := tag }] }

/-- Adds the configuration of a tag in place of the one that the tag has. -/
def withContext (c : StoreConfig) (context : ContextConfig) : StoreConfig :=
  { c with contexts := c.contexts.filter (·.tag ≠ context.tag) ++ [context] }

def repeatedTag? (seen : List String) : List ContextConfig → Option String
  | [] => none
  | c :: rest => if c.tag ∈ seen then some c.tag else repeatedTag? (c.tag :: seen) rest

def validate (c : StoreConfig) : Except Failure Unit :=
  match repeatedTag? [] c.contexts with
  | none => .ok ()
  | some tag => .error (configFailure ("context '" ++ tag ++ "' is configured more than once"))

end StoreConfig

end EntityStore
