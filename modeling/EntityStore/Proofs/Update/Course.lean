import EntityStore.Proofs.Update.Attempt

/-! # The course of a transaction

* `World.requested`, `Session.conclude` — how a transaction starts, and how it reports its end.
* `Session.outcome_update` — a transaction is one attempt, or two.
* `Session.Enters` — the worlds in which a transaction runs its block.
* `Session.beginWrite_ok` — there the transaction has begun, and nothing has changed yet.
-/

namespace EntityStore

open EntityStore.Engine (Database)
open World (Inside)

variable {id : Nat} {v w : World} {α : Type}

/-- The world in which the first attempt of a transaction starts. -/
def World.requested (w : World) (id : Nat) : World :=
  { w with
    requests := w.requests + 1
    log := Session.updateEvent (w.context id).tag (Event.started Log.updateOp) :: w.log }

namespace Session

def conclude (tag : String) (request : RequestId) : Except Failure α → Session α
  | .ok value => do
    report (updateEvent tag (Event.finished Log.updateOp))
    return value
  | .error failure => do
    let failure := { failure with tag := some tag, requestId := some request }
    report (updateEvent tag (Event.failed Log.updateOp failure))
    throw failure

/-- The last attempt of a transaction: the first, unless another connection was in its way. -/
def lastAttempt (id : Nat) (block : Session α) : Session α :=
  tryCatch (runOnce id block) fun failure =>
    if failure.isLockContention then retry id block else throw failure

/-- A transaction is its last attempt, with its end reported. -/
theorem outcome_update (id : Nat) (block : Session α) (w : World) :
    (update id block).outcome w =
      (conclude (w.context id).tag ⟨BitVec.ofNat 128 w.requests⟩
        ((lastAttempt id block).outcome (w.requested id)).1).outcome
          ((lastAttempt id block).outcome (w.requested id)).2 := by
  rw [update, outcome_bind_ok (outcome_context id w), outcome_bind_ok (outcome_newRequestId w),
    outcome_bind_ok (outcome_report _ _)]
  change (attempt (runOnce id block) >>= _).outcome (w.requested id) = _
  rw [outcome_bind_ok (outcome_attempt _ _), lastAttempt, outcome_tryCatch]
  rcases (runOnce id block).outcome (w.requested id) with ⟨result, v⟩
  cases result with
  | ok value => rfl
  | error failure =>
    dsimp only
    split
    · rw [outcome_bind_ok (outcome_attempt _ _)]
      rfl
    · rfl

/-! ## Attempts -/

theorem lastAttempt_first {block : Session α} {result : Except Failure α} {v : World}
    (ran : (runOnce id block).outcome w = (result, v))
    (last : ∀ failure, result = .error failure → failure.isLockContention = false) :
    (lastAttempt id block).outcome w = (result, v) := by
  rw [lastAttempt, outcome_tryCatch, ran]
  cases result with
  | ok value => rfl
  | error failure => simp only [last failure rfl, Bool.false_eq_true, ↓reduceIte, outcome_throw]

theorem lastAttempt_second {block : Session α} {failure : Failure} {v : World}
    (ran : (runOnce id block).outcome w = (.error failure, v))
    (contention : failure.isLockContention = true) :
    (lastAttempt id block).outcome w = (retry id block).outcome v := by
  rw [lastAttempt, outcome_tryCatch, ran]
  simp only [contention, ↓reduceIte]

theorem conclude_ok (tag : String) (request : RequestId) (value : α) (w : World) :
    (conclude tag request (.ok value)).outcome w = (.ok value,
      { w with log := updateEvent tag (Event.finished Log.updateOp) :: w.log }) := rfl

theorem conclude_error (tag : String) (request : RequestId) (failure : Failure) (w : World) :
    ∃ event raised, (conclude tag request (.error failure) : Session α).outcome w =
        (.error raised, { w with log := event :: w.log })
      ∧ raised.tag = some tag ∧ raised.requestId = some request :=
  ⟨_, _, rfl, rfl, rfl⟩

/-! ## The worlds of a transaction -/

/-- What happens between the two runs of a block. -/
def renew (id : Nat) : Session Unit := do
  report (retryEvent (← context id).config)
  forceClose id
  openContext id

theorem retry_eq (id : Nat) (block : Session α) :
    retry id block = renew id >>= fun _ => runOnce id block := by
  rw [retry, renew, bind_assoc]
  simp only [bind_assoc]

/-- The worlds in which a transaction runs its block, for the first time or again. -/
inductive Enters (id : Nat) (block : Session α) (w : World) : Bool → World → Prop
  | first {generation : Nat} {v : World}
      (begun : (beginWrite id).outcome (w.requested id) = (.ok generation, v)) :
      Enters id block w false (startedIn (w.context id).tag v)
  | again {failure : Failure} {generation : Nat} {u v x : World}
      (failed : (runOnce id block).outcome (w.requested id) = (.error failure, u))
      (contention : failure.isLockContention = true) (renewed : (renew id).outcome u = (.ok (), v))
      (begun : (beginWrite id).outcome v = (.ok generation, x)) :
      Enters id block w true (startedIn (v.context id).tag x)

theorem beginWrite_ok {generation : Nat} (begun : (beginWrite id).outcome w = (.ok generation, v))
    (on : AllOn among id w.bindings) :
    ∃ (base : World) (image : Database), generation = (base.context id).generation
      ∧ Inside (· = image) (AllOn among id) base id image true [] v
      ∧ ∀ path, v.stored path = w.stored path := by
  obtain ⟨stored, bindings⟩ := openContext_aside id w
  rcases beginWrite_cases id w with ⟨failure, _, _, refused⟩ | ⟨u, opened, begins⟩
  · rw [begun] at refused
    cases refused
  · rw [opened] at stored bindings
    rcases begins with ⟨failure, _, refused, _⟩ | ⟨_, h, begins, _, _, inside⟩
    · rw [begun] at refused
      cases refused
    · rw [begun] at begins
      cases begins
      have inside := inside (AllOn among id) (bindings ▸ on)
      exact ⟨u, h.image, rfl, inside, fun path => (inside.stored path).trans (stored path)⟩

end Session

end EntityStore
