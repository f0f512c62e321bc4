import EntityStore.Engine.Refusal
import EntityStore.Engine.Database

/-! # Faults

* `Fault` — why a statement is not run, before the text of the statement is known.
* `Stop` — why a statement that runs has come to an end, and what becomes of its changes.
-/

namespace EntityStore.Engine

/-- Why a statement is not run. -/
structure Fault where
  text : String
  code : Int := Refusal.statementCode
  /-- Where in the statement the reason stands. -/
  place : Option Nat := none

namespace Fault

def statement (text : String) : Fault := { text := text }

def located (place : Nat) (text : String) : Fault := { text := text, place := some place }

/-- A fault in the text of another statement, which has no place in this one. -/
def elsewhere (fault : Fault) : Fault := { fault with place := none }

def constraint (text : String) : Fault := { text := text, code := Refusal.constraintCode }

/-- A value of another type stands where an integer is needed. -/
def mismatch : Fault := { text := "datatype mismatch", code := 20 }

def noColumn (place : Nat) (name : String) : Fault := located place ("no such column: " ++ name)

def noTable (name : String) : Fault := statement ("no such table: " ++ name)

end Fault

/-- What becomes of the changes of a statement that stops. -/
inductive StopEffect where
  /-- They are undone. -/
  | undo
  /-- They stay, up to the database given. -/
  | keep (database : Database)
  /-- They are undone with the whole transaction. -/
  | endTransaction

/-- Why a running statement has come to an end. -/
structure Stop where
  fault : Fault
  effect : StopEffect := .undo

end EntityStore.Engine
