import EntityStore.Failure

/-! # Refusals of the engine

* `Refusal` — why a statement has not run.
* `Refusal.isLocked` — whether another connection was in the way.
* `Refusal.isLasting` — whether it leaves an open transaction open.
* `Refusal.toFailure` — the failure that it is reported as.
-/

namespace EntityStore

/-- Whether a list occurs in another without gaps. -/
def occursIn (part : List Char) : List Char → Bool
  | [] => part.isEmpty
  | c :: rest => part.isPrefixOf (c :: rest) || occursIn part rest

/-- Why the engine has not run a statement. -/
structure Refusal where
  /-- The result code; its lowest byte says what kind of refusal it is. -/
  code : Int
  text : String
  /-- Whether the text points to a place in the statement. -/
  located : Bool := false
  deriving DecidableEq

namespace Refusal

def statementCode : Int := 1

/-- The result code of a database that another connection holds. -/
def busyCode : Int := 5

def constraintCode : Int := 19

def busy : Refusal := ⟨busyCode, "database is locked", false⟩

/-- Whether the code is that of a database that another connection holds. -/
def isBusy (r : Refusal) : Bool := r.code % 256 = busyCode

/-- Whether a transaction is still open after the refusal of a statement in it.  Without memory (7),
    interrupted (9), where a file cannot be read or written (10) and when the disk is full (13), the
    engine undoes the whole transaction by itself. -/
def isLasting (r : Refusal) : Bool := r.code % 256 ∉ [7, 9, 10, 13]

def statement (text : String) : Refusal := ⟨statementCode, text, false⟩

/-- Whether another connection was in the way: by the code, or by the words. -/
def isLocked (r : Refusal) : Bool :=
  !r.located && (r.code % 256 = 5 || r.code % 256 = 6
    || occursIn "database is locked".toList r.text.toList)

def toFailure (r : Refusal) : Failure :=
  { kind := if r.isLocked then .lockContention else .persistence
    op := some "sqlite", message := r.text }

end Refusal

def closedConnection (tag op : String) : Failure :=
  { kind := .statementState, op := some op, tag := some tag
    message := "connection was closed during the transaction" }

def fileFailure (op reason : String) : Failure :=
  { kind := .io, op := some op, message := reason }

end EntityStore
