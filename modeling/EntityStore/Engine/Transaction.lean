import EntityStore.Engine.Prepare

/-! # Transactions

What a connection does to its database, statement by statement:

* `Lock` — what a transaction keeps others from.
* `Transaction`, `Handle` — an open transaction, and a database with perhaps one.
* `Handle.run` — a statement that is not about transactions.
* `Handle.control` — a statement that is.
* `Handle.refused` — what is left if the engine refuses such a statement for reasons of its own.

The locks of other connections to the same database are given to each step.
-/

namespace EntityStore.Engine

open EntityStore (Refusal)
open EntityStore.Sql (Datum Statement TransactionMode sameName)

/-! ## Locks -/

/-- What a transaction keeps other connections from. -/
inductive Lock where
  | unlocked
  /-- From committing changes: it has read. -/
  | shared
  /-- From changing anything: it has written. -/
  | reserved
  /-- From starting to read as well: it could not commit while others were reading. -/
  | pending
  /-- From everything. -/
  | exclusive
  deriving DecidableEq

/-- Whether a connection may start to read beside others. -/
def mayRead (others : List Lock) : Bool := others.all fun l => l ≠ .pending && l ≠ .exclusive

/-- Whether a connection may start to write beside others. -/
def mayWrite (others : List Lock) : Bool := others.all fun l => l = .unlocked || l = .shared

/-- Whether a connection may commit changes beside others. -/
def mayCommit (others : List Lock) : Bool := others.all (· = .unlocked)

/-- Whether a connection may begin a transaction in the mode beside others. -/
def mayBegin (others : List Lock) : TransactionMode → Bool
  | .deferred => true
  | .immediate => mayWrite others
  | .exclusive => mayCommit others

/-! ## Transactions -/

structure Transaction where
  /-- Whether a statement of its own has begun it, and not its outermost savepoint. -/
  begun : Bool
  /-- The database as it is changed, if anything has been written. -/
  changed : Option Database := none
  /-- The savepoints, the innermost first, with what had been changed then. -/
  savepoints : List (String × Option Database) := []
  lock : Lock := .unlocked
  /-- Whether it has started to write, even if nothing has changed. -/
  writing : Bool := false
  /-- Something has opened it: a statement of its own, or a savepoint that is still there. -/
  rooted : begun = true ∨ savepoints ≠ [] := by simp

/-- A statement of its own is enough. -/
theorem Transaction.rooted_begun : true = true ∨ ([] : List (String × Option Database)) ≠ [] := .inl rfl

/-- A transaction that starts to write, or goes on writing. -/
def Transaction.toWrite (t : Transaction) : Transaction :=
  { t with writing := true, lock := if t.lock = .unlocked || t.lock = .shared then .reserved else t.lock }

def Transaction.lockedFor (t : Transaction) : TransactionMode → Transaction
  | .deferred => t
  | .immediate => t.toWrite
  | .exclusive => { t.toWrite with lock := .exclusive }

/-- A transaction that has asked for everything while others were reading. -/
def Transaction.blocking (t : Transaction) : Transaction :=
  { t with lock := if t.lock = .unlocked then .unlocked else .pending }

/-- A transaction that cannot be committed before others have ended. -/
def Transaction.waiting (t : Transaction) : Transaction :=
  { t with lock := if t.lock = .reserved then .pending else t.lock }

/-- A database as others see it, and the transaction that is open on it. -/
structure Handle where
  image : Database
  transaction : Option Transaction := none

namespace Handle

def current (h : Handle) : Database := ((h.transaction.bind (·.changed))).getD h.image

def isAutocommit (h : Handle) : Bool := h.transaction.isNone

def lock (h : Handle) : Lock := (h.transaction.map (·.lock)).getD .unlocked

/-- A statement that runs for itself: what it has changed is there for all at once. -/
def runAlone (h : Handle) (others : List Lock) (p : Program) (parameters : List Datum) :
    Except Refusal Outcome × Handle :=
  let allowed := if p.writes then mayWrite others else mayRead others
  if !allowed then (.error .busy, h)
  else
    match p.run parameters h.image with
    | .ok outcome =>
      if p.writes then
        if mayCommit others then (.ok outcome, { h with image := outcome.database })
        else (.error .busy, h)
      else (.ok outcome, h)
    | .error stop =>
      let refusal : Refusal := ⟨stop.fault.code, stop.fault.text, false⟩
      match stop.effect with
      | .keep db =>
        if mayCommit others then (.error refusal, { h with image := db }) else (.error .busy, h)
      | _ => (.error refusal, h)

def runWithin (h : Handle) (t : Transaction) (others : List Lock) (p : Program)
    (parameters : List Datum) : Except Refusal Outcome × Handle :=
  -- A transaction that has read may go on reading, whoever waits for it.
  let allowed := if p.writes then mayWrite others else t.lock ≠ .unlocked || mayRead others
  if !allowed then (.error .busy, h)
  else if p.writes then
    -- From the first write on the transaction has a database of its own.
    let t := { t.toWrite with changed := some h.current }
    let writing := { h with transaction := some t }
    match p.run parameters h.current with
    | .ok outcome =>
      (.ok outcome, { h with transaction := some { t with changed := some outcome.database } })
    | .error stop =>
      let refusal : Refusal := ⟨stop.fault.code, stop.fault.text, false⟩
      match stop.effect with
      | .undo => (.error refusal, writing)
      | .keep db => (.error refusal, { h with transaction := some { t with changed := some db } })
      | .endTransaction => (.error refusal, { h with transaction := none })
  else
    let t := { t with lock := if t.lock = .unlocked then .shared else t.lock }
    ((p.run parameters h.current).mapError fun stop => ⟨stop.fault.code, stop.fault.text, false⟩,
      { h with transaction := some t })

/-- A statement that is not about transactions. -/
def run (h : Handle) (others : List Lock) (p : Program) (parameters : List Datum) :
    Except Refusal Outcome × Handle :=
  match h.transaction with
  | none => h.runAlone others p parameters
  | some t => h.runWithin t others p parameters

/-! ## Beginning and ending -/

/-- Begins a transaction.  Where one is open that has not written, its lock is asked for before that
    turns out. -/
def begin (h : Handle) (others : List Lock) (mode : TransactionMode) :
    Except Refusal Unit × Handle :=
  match h.transaction with
  | none =>
    let t : Transaction := { begun := true, rooted := Transaction.rooted_begun }
    if mayBegin others mode then (.ok (), { h with transaction := some (t.lockedFor mode) })
    else (.error .busy, h)
  | some t =>
    let nested : Refusal := .statement "cannot start a transaction within a transaction"
    if t.writing then (.error nested, h)
    else if mayBegin others mode then (.error nested, { h with transaction := some (t.lockedFor mode) })
    else if mode = .exclusive && mayWrite others then
      (.error .busy, { h with transaction := some t.blocking })
    else (.error .busy, h)

/-- Makes the changes of a transaction visible to all.  One that writes cannot be committed while
    others are reading, even if it has changed nothing; it stays open then. -/
def commitChanges (h : Handle) (t : Transaction) (others : List Lock) :
    Except Refusal Unit × Handle :=
  if t.writing && !mayCommit others then
    (.error .busy, { h with transaction := some t.waiting })
  else (.ok (), { image := t.changed.getD h.image, transaction := none })

def commit (h : Handle) (others : List Lock) : Except Refusal Unit × Handle :=
  match h.transaction with
  | none => (.error (.statement "cannot commit - no transaction is active"), h)
  | some t => h.commitChanges t others

def rollback (h : Handle) : Except Refusal Unit × Handle :=
  match h.transaction with
  | none => (.error (.statement "cannot rollback - no transaction is active"), h)
  | some _ => (.ok (), { h with transaction := none })

/-! ## Savepoints -/

/-- Marks a point to come back to; without a transaction it opens one. -/
def savepoint (h : Handle) (name : String) : Handle :=
  match h.transaction with
  | none => { h with transaction := some { begun := false, savepoints := [(name, none)] } }
  | some t =>
    { h with transaction := some { t with savepoints := (name, t.changed) :: t.savepoints
                                          rooted := by simp } }

def savepointsFrom (name : String) (savepoints : List (String × Option Database)) :
    List (String × Option Database) :=
  savepoints.dropWhile fun s => !sameName s.1 name

def noSavepoint (name : String) : Refusal := .statement ("no such savepoint: " ++ name)

/-- Gives up a savepoint and those within it; the outermost one ends the transaction that it has
    opened. -/
def release (h : Handle) (others : List Lock) (name : String) : Except Refusal Unit × Handle :=
  match h.transaction with
  | none => (.error (noSavepoint name), h)
  | some t =>
    match savepointsFrom name t.savepoints with
    | [] => (.error (noSavepoint name), h)
    | _ :: outer =>
      -- If the changes cannot be committed, the transaction stays open with its savepoints.
      if last : outer.isEmpty && !t.begun then h.commitChanges t others
      else (.ok (), { h with transaction := some { t with savepoints := outer
                                                          rooted := by grind } })

/-- Comes back to a savepoint, which stays. -/
def rollbackTo (h : Handle) (name : String) : Except Refusal Unit × Handle :=
  match h.transaction with
  | none => (.error (noSavepoint name), h)
  | some t =>
    match savepointsFrom name t.savepoints with
    | [] => (.error (noSavepoint name), h)
    | s :: outer =>
      (.ok (), { h with transaction := some { t with changed := s.2, savepoints := s :: outer
                                                     rooted := by simp } })

def control (h : Handle) (others : List Lock) : Statement → Except Refusal Unit × Handle
  | .begin mode => h.begin others mode
  | .commit => h.commit others
  | .rollback => h.rollback
  | .savepoint name => (.ok (), h.savepoint name)
  | .release name => h.release others name
  | .rollbackTo name => h.rollbackTo name
  | _ => (.ok (), h)

/-! ## Refusals of the engine's own -/

/-- What a statement about transactions leaves if the engine refuses it for reasons of its own.  A
    commit that others hinder can be tried again; after another failure of it nothing is left. -/
def refused (h : Handle) (r : Refusal) : Statement → Handle
  | .begin _ => if r.isLasting then h else { h with transaction := none }
  | .commit => { h with transaction := if r.isBusy then h.transaction.map (·.waiting) else none }
  | .release _ => { h with transaction := h.transaction.map (·.waiting) }
  | _ => h

/-- A statement about transactions, if the engine does not refuse it for reasons of its own. -/
def controlUnless (refusal : Option Refusal) (h : Handle) (others : List Lock) (s : Statement) :
    Except Refusal Unit × Handle :=
  match refusal with
  | none => h.control others s
  | some r => (.error r, h.refused r s)

end Handle

end EntityStore.Engine
