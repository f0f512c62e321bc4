import EntityStore.Config.Basic
import EntityStore.Toml.Document

/-! # Reading a configuration

A configuration from a TOML document.  Every part is optional except the kind of a storage and
the path of a directory; a table gives the parts by name, an array by position, and parts that
have no meaning are ignored.
-/

namespace EntityStore

open EntityStore.Toml (Value)

namespace Config

/-- An optional part: the default if it is absent, nothing if it cannot be read. -/
def part? {α : Type} (read : Value → Option α) (default : α) (v : Value) (name : String)
    (position : Nat) : Option α := do
  match ← v.member? name position with
  | none => some default
  | some found => read found

def text? : Value → Option String
  | .text s => some s
  | _ => none

def natural? : Value → Option Nat
  | .integer n => if 0 ≤ n.toInt then some n.toInt.toNat else none
  | _ => none

def items? : Value → Option (List Value)
  | .array items => some items
  | _ => none

/-- Whether an array has exactly so many items; a table may have any. -/
def isComplete (count : Nat) : Value → Bool
  | .array items => items.length = count
  | _ => true

def storage? (v : Value) : Option Storage := do
  match ← text? (← ← v.member? "kind" 0) with
  | "memory" => if isComplete 1 v then some .memory else none
  | "directory" =>
    let path ← text? (← ← v.member? "path" 1)
    if isComplete 2 v then some (.directory path) else none
  | _ => none

def context? (v : Value) : Option ContextConfig := do
  let standard : ContextConfig := {}
  return {
    tag := ← part? text? standard.tag v "tag" 0
    name := ← part? (fun w => (text? w).map some) standard.name v "name" 1
    userId := ← part? (fun w => (text? w).map some) standard.userId v "user_id" 2
    storage := ← part? storage? standard.storage v "storage" 3
    secret := ← part? (fun w => (text? w).map fun s => some ⟨s⟩) standard.secret v "secret" 4
    lockBackoffMs := ← part? natural? standard.lockBackoffMs v "lock_backoff_ms" 5
    busyTimeoutMs := ← part? natural? standard.busyTimeoutMs v "busy_timeout_ms" 6 }

def store? (v : Value) : Option StoreConfig := do
  let standard : StoreConfig := {}
  return {
    maxRefDepth := ← part? natural? standard.maxRefDepth v "max_ref_depth" 0
    contexts := ← part? (fun w => do (← items? w).mapM context?) standard.contexts v "contexts" 1 }

end Config

def StoreConfig.read (text : String) : Except Failure StoreConfig :=
  match (Toml.readDocument? text).bind Config.store? with
  | none => .error (configFailure "invalid config")
  | some config => do
    config.validate
    return config

end EntityStore
