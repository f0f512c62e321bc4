import EntityStore.Proofs.Mapper.Block
import EntityStore.Proofs.Update.Idle
import EntityStore.Store.Update

/-! # Attempts of a transaction

One run of a block between the beginning and the end of a write transaction:

* `Session.beginWrite_cases` — beginning is refused, or it opens a transaction.
* `Session.controlOn_commit`, `Session.undo_restores` — the two ends of a transaction.
* `Session.Attempt` — what an attempt can come to, and in which world it has run the block.
* `Session.attempt_runOnce`, `Session.attempt_retry` — attempts on an open and on a new connection.
-/

namespace EntityStore

open EntityStore.Engine (Database Handle Lock)
open EntityStore.Sql (Statement)
open World (Idle Inside Step Still)

variable {B : Bindings} {base u v w x y : World} {id : Nat} {h : Handle} {image : Database}
  {begun : Bool} {points : List (String × Option Database)} {Q : Database → Prop}

/-! ## Beginning -/

/-- A context that has been idle is idle again when its transaction has left the database as it was. -/
theorem World.Idle.undone (idle : Idle B base id u) (inside : Inside Q B u id image begun points x)
    (step : Step id x v) (next : v.handleOf id = some ⟨image, none⟩) : Idle B base id v := by
  obtain ⟨h, found, within⟩ := inside.handle
  refine ⟨(step.settings.trans inside.beside.settings).trans idle.settings, fun path => ?_,
    step.bindings ▸ inside.bindings, World.transactionOf_handle next, fun file opened => idle.file file ?_⟩
  · rw [← idle.stored path, ← inside.stored path]
    by_cases own : x.fileOf id = some (some path)
    · rw [World.stored_handle next (step.file.trans own), World.stored_handle found own,
        within.image_eq]
    · exact step.stored path own
  · rw [← inside.beside.file, ← step.file, opened]

namespace Session

variable {α : Type}

/-- Beginning a write transaction opens the context.  Then it is refused and the database is as it was,
    or the transaction is open. -/
theorem beginWrite_cases (id : Nat) (w : World) :
    (∃ failure v, (openContext id).outcome w = (.error failure, v)
        ∧ (beginWrite id).outcome w = (.error failure, v))
      ∨ ∃ u, (openContext id).outcome w = (.ok (), u)
        ∧ ((∃ failure v, (beginWrite id).outcome w = (.error failure, v) ∧ Still id u v)
          ∨ ∃ v h, (beginWrite id).outcome w = (.ok (u.context id).generation, v)
            ∧ u.handleOf id = some h ∧ h.transaction = none
            ∧ ∀ B : Bindings, B u.bindings → Inside (· = h.image) B u id h.image true [] v) := by
  rcases opened : (openContext id).outcome w with ⟨result, u⟩
  rw [beginWrite, withConnection]
  cases result with
  | error failure => exact .inl ⟨failure, u, rfl, outcome_bind_error opened _⟩
  | ok _ =>
    refine .inr ⟨u, rfl, ?_⟩
    rw [outcome_bind_ok opened, outcome_bind_ok (outcome_context id u), outcome_bind,
      outcome_annotate]
    cases found : u.handleOf id with
    | none =>
      obtain ⟨failure, failed⟩ := control_none found (.begin .immediate)
      rw [failed]
      exact .inl ⟨_, u, rfl, .refl id u⟩
    | some h =>
      obtain ⟨result, v, done, step, cases⟩ := control_cases found (.begin .immediate)
      rw [done]
      rcases cases with ⟨_, r, rfl, same⟩ | ⟨others, rfl, next⟩
      · exact .inl ⟨_, v, rfl, .of_spares step found same (h.refused_begin r _)⟩
      · rw [show h.control others (.begin .immediate) = h.begin others .immediate from rfl] at next ⊢
        rcases h.begin_cases others with ⟨r, left, refused, spares⟩ | ⟨ended, begins, within⟩
        · rw [refused] at next ⊢
          exact .inl ⟨_, v, rfl, .of_spares step found next spares⟩
        · rw [begins]
          exact .inr ⟨v, h, rfl, rfl, ended, fun B bindings => ⟨step.bindings ▸ bindings,
            ⟨_, next, within⟩, step.toBeside, fun path file => World.stored_handle found file⟩⟩

theorem beginWrite_idle {directory : String}
    (storage : (base.context id).config.storage = .directory directory)
    (idle : Idle B base id w) :
    (∃ failure v, (beginWrite id).outcome w = (.error failure, v) ∧ Idle B base id v)
      ∨ ∃ u v h, (beginWrite id).outcome w = (.ok (u.context id).generation, v)
        ∧ Idle B base id u ∧ u.handleOf id = some h
        ∧ Inside (· = h.image) B u id h.image true [] v := by
  have idleU := keeps_openContext_idle storage w idle
  rcases beginWrite_cases id w with ⟨failure, v, opened, refused⟩ | ⟨u, opened, begins⟩
  · rw [opened] at idleU
    exact .inl ⟨failure, v, refused, idleU⟩
  · rw [opened] at idleU
    rcases begins with ⟨failure, v, refused, still⟩ | ⟨v, h, begun, found, _, inside⟩
    · exact .inl ⟨failure, v, refused, idleU.still still⟩
    · exact .inr ⟨u, v, h, begun, idleU, found, inside B idleU.bindings⟩

theorem beginWrite_open (opened : w.transactionOf id ≠ none) :
    ∃ failure v, (beginWrite id).outcome w = (.error failure, v) ∧ Still id w v := by
  have connected : ∃ c, (w.context id).connection = some c := by
    cases closed : (w.context id).connection with
    | some c => exact ⟨c, rfl⟩
    | none => rw [World.transactionOf, closed] at opened; exact absurd rfl opened
  obtain ⟨c, connected⟩ := connected
  rcases beginWrite_cases id w with ⟨failure, v, failed, _⟩ | ⟨u, noop, begins⟩
  · rw [openContext_open connected] at failed
    cases failed
  · rw [openContext_open connected] at noop
    cases noop
    rcases begins with refused | ⟨v, h, _, found, ended, _⟩
    · exact refused
    · rw [World.transactionOf_handle found, ended] at opened
      exact absurd rfl opened

/-! ## Ending -/

/-- A statement about transactions is run where the connection is still there. -/
theorem outcome_controlOn {generation : Nat} (found : x.handleOf id = some h)
    (same : (x.context id).generation = generation) (s : Statement) (op : String) :
    ∃ note : Failure → Failure, (controlOn id generation s op).outcome x =
      (((control id s).outcome x).1.mapError note, ((control id s).outcome x).2) := by
  obtain ⟨c, opened, _⟩ := World.connection_of_handle found
  have here : ((x.context id).connection.isSome && decide ((x.context id).generation = generation)) = true := by
    rw [opened, same]
    simp
  let note (failure : Failure) : Failure :=
    { failure with op := some op, tag := some (x.context id).tag }
  refine ⟨note, ?_⟩
  rw [controlOn, outcome_bind_ok (outcome_context id x)]
  change outcome (if ((x.context id).connection.isSome && decide ((x.context id).generation = generation)) = true
    then annotate note (control id s) else _) x = _
  rw [if_pos here, outcome_annotate]

/-- What a transaction has changed is stored, or others see what they have seen. -/
theorem controlOn_commit (inside : Inside Q B u id image begun points x) (op : String) :
    ∃ result v h, (controlOn id (u.context id).generation .commit op).outcome x = (result, v)
      ∧ Step id x v ∧ v.handleOf id = some h
      ∧ (result = .ok () ∧ x.seen id = some h.image ∧ h.transaction = none
        ∨ (∃ failure, result = .error failure) ∧ h.image = image) := by
  obtain ⟨h, found, within⟩ := inside.handle
  obtain ⟨note, outcome⟩ := outcome_controlOn found inside.beside.generation .commit op
  obtain ⟨result, v, done, step, cases⟩ := control_cases found .commit
  rw [outcome, done]
  rcases cases with ⟨_, r, rfl, next⟩ | ⟨others, rfl, next⟩
  · refine ⟨_, v, _, rfl, step, next, .inr ⟨⟨_, rfl⟩, ?_⟩⟩
    rcases within.refused_commit r with waits | undone
    · exact waits.image_eq
    · rw [undone]
  · rw [show h.control others .commit = h.commit others from rfl] at next ⊢
    rcases within.commit others with committed | ⟨r, waits, refused, left⟩
    · rw [committed] at next ⊢
      exact ⟨_, v, _, rfl, step, next, .inl ⟨rfl, by rw [World.seen, found]; rfl, rfl⟩⟩
    · rw [refused] at next ⊢
      exact ⟨_, v, _, rfl, step, next, .inr ⟨⟨_, rfl⟩, left.image_eq⟩⟩

/-- Undoing leaves the database as others see it, whether the transaction is still open or not. -/
theorem undo_restores {generation : Nat} (found : x.handleOf id = some h)
    (same : (x.context id).generation = generation) :
    ∃ v, (undo id generation).outcome x = (.ok (), v) ∧ Step id x v
      ∧ v.handleOf id = some ⟨h.image, none⟩ := by
  obtain ⟨note, outcome⟩ := outcome_controlOn found same .rollback "rollback"
  obtain ⟨result, v, done, step, cases⟩ := control_cases found .rollback
  have back : (h.rollback).2 = ⟨h.image, none⟩ := by
    obtain ⟨image, _ | t⟩ := h <;> rfl
  have left : v.handleOf id = some ⟨h.image, none⟩ := by
    rcases cases with ⟨fails, _⟩ | ⟨others, _, next⟩
    · cases fails
    · rw [next, ← back]
      rfl
  have reported (e : Event) : Step id x { v with log := e :: v.log } :=
    step.trans ⟨⟨rfl, rfl, rfl, fun _ _ => rfl⟩, rfl⟩
  rw [undo, outcome_bind_ok (outcome_context id x), outcome_bind_ok (outcome_attempt _ x), outcome, done]
  cases result with
  | ok _ => exact ⟨_, rfl, reported _, left⟩
  | error failure => exact ⟨_, rfl, reported _, left⟩

/-! ## Attempts -/

/-- What an attempt to run a block comes to.  The index is the world in which the block has been
    run, if the transaction has begun; what the block does in other worlds does not matter. -/
inductive Attempt (B : Bindings) (base : World) (id : Nat) (run : Session α → Session α)
    (block : Session α) (w : World) : Option World → Prop
  | refused {failure : Failure} {v : World}
      (always : ∀ other, (run other).outcome w = (.error failure, v))
      (idle : Idle B base id v) : Attempt B base id run block w none
  | failed {y v : World} {failure : Failure}
      (once : ∀ other : Session α, other.outcome y = block.outcome y →
        (run other).outcome w = (.error failure, v))
      (idle : Idle B base id v) : Attempt B base id run block w (some y)
  | done {x y v : World} {path : List String} {value : α}
      (once : ∀ other : Session α, other.outcome y = block.outcome y →
        (run other).outcome w = (.ok value, v))
      (returned : block.outcome y = (.ok value, x))
      (start : y.seen id = base.stored path)
      (file : v.fileOf id = some (some path))
      (stored : v.stored path = x.seen id)
      (others : ∀ other, other ≠ path → v.stored other = base.stored other)
      (ended : v.transactionOf id = none) : Attempt B base id run block w (some y)

/-- A step of an attempt before the transaction begins. -/
theorem Attempt.after {run next : Session α → Session α} {block : Session α} {started : Option World}
    (leads : ∀ other, (run other).outcome w = (next other).outcome v)
    (attempt : Attempt B base id next block v started) :
    Attempt B base id run block w started := by
  cases attempt with
  | refused always idle => exact .refused (fun other => (leads other).trans (always other)) idle
  | failed once idle =>
    exact .failed (fun other same => (leads other).trans (once other same)) idle
  | done once returned start file stored others ended =>
    exact .done (fun other same => (leads other).trans (once other same)) returned start file
      stored others ended

def runBegun (id generation : Nat) (tag : String) (block : Session α) : Session α := do
  match ← Session.attempt (do
    let value ← block
    controlOn id generation .commit "commit"
    return value) with
  | .ok value =>
    report (transactionEvent tag "commit" [])
    return value
  | .error failure =>
    undo id generation
    throw failure

def startedIn (tag : String) (w : World) : World :=
  { w with log := transactionEvent tag "begin" [] :: w.log }

theorem outcome_runOnce {generation : Nat} (begun : (beginWrite id).outcome w = (.ok generation, v))
    (block : Session α) : (runOnce id block).outcome w =
      (runBegun id generation (w.context id).tag block).outcome
        (startedIn (w.context id).tag v) := by
  rw [runOnce, outcome_bind_ok (outcome_context id w), outcome_bind_ok begun,
    outcome_bind_ok (outcome_report _ v)]
  rfl

theorem runBegun_congr {block other : Session α} (same : other.outcome w = block.outcome w)
    (id generation : Nat) (tag : String) : (runBegun id generation tag other).outcome w =
      (runBegun id generation tag block).outcome w := by
  rw [runBegun, runBegun, outcome_bind, outcome_bind, outcome_attempt, outcome_attempt,
    outcome_bind, outcome_bind, same]

variable {among : Mapper → Prop} {block : Session α}

theorem runBegun_cases (kept : Keeps (World.Held among u id image) block)
    (held : World.Held among u id image y) (tag : String) :
    (∃ failure x v, (runBegun id (u.context id).generation tag block).outcome y = (.error failure, v)
        ∧ World.Held among u id image x ∧ Step id x v ∧ v.handleOf id = some ⟨image, none⟩)
      ∨ ∃ value x v h, (runBegun id (u.context id).generation tag block).outcome y = (.ok value, v)
        ∧ block.outcome y = (.ok value, x) ∧ World.Held among u id image x ∧ Step id x v
        ∧ x.seen id = some h.image ∧ v.handleOf id = some h ∧ h.transaction = none := by
  -- Whatever has failed, the connection is still there when the transaction is undone.
  have fails {failure : Failure} {x z : World} {h : Handle} (held : World.Held among u id image x)
      (step : Step id x z) (found : z.handleOf id = some h) (same : h.image = image) (failed : (do
      let value ← block
      controlOn id (u.context id).generation .commit "commit"
      return value : Session α).outcome y = (.error failure, z)) :
      ∃ v, (runBegun id (u.context id).generation tag block).outcome y = (.error failure, v)
        ∧ Step id x v ∧ v.handleOf id = some ⟨image, none⟩ := by
    obtain ⟨v, undone, last, left⟩ :=
      undo_restores found (step.generation.trans held.beside.generation)
    refine ⟨v, ?_, step.trans last, same ▸ left⟩
    rw [runBegun, outcome_bind_ok (outcome_attempt _ y), failed]
    exact outcome_bind_ok undone _
  have heldX := kept y held
  rcases ran : block.outcome y with ⟨result, x⟩
  rw [ran] at heldX
  cases result with
  | error failure =>
    obtain ⟨h, found, within⟩ := heldX.handle
    obtain ⟨v, outcome, left⟩ :=
      fails heldX (.refl id x) found within.image_eq (outcome_bind_error ran _)
    exact .inl ⟨failure, x, v, outcome, heldX, left⟩
  | ok value =>
    obtain ⟨result, v, h, committed, step, found, ⟨rfl, seen, ended⟩ | ⟨⟨failure, rfl⟩, same⟩⟩ :=
      controlOn_commit heldX "commit"
    · have outcome : (runBegun id (u.context id).generation tag block).outcome y = (.ok value,
          { v with log := transactionEvent tag "commit" [] :: v.log }) := by
        rw [runBegun, outcome_bind_ok (outcome_attempt _ _), outcome_bind_ok ran,
          outcome_bind_ok committed]
        rfl
      exact .inr ⟨value, x, _, h, outcome, rfl, heldX, step.trans ⟨⟨rfl, rfl, rfl, fun _ _ => rfl⟩, rfl⟩,
        seen, found, ended⟩
    · obtain ⟨z, outcome, left⟩ :=
        fails heldX step found same (by rw [outcome_bind_ok ran, outcome_bind_error committed])
      exact .inl ⟨failure, x, z, outcome, heldX, left⟩

theorem attempt_runOnce {directory : String}
    (storage : (base.context id).config.storage = .directory directory)
    (steady : ∀ path db, base.Uses id path → base.stored path = some db → db.Steady)
    (kept : ∀ u image, Keeps (World.Held among u id image) block)
    (idle : Idle (AllOn among id) base id w) :
    ∃ started, Attempt (AllOn among id) base id (runOnce id) block w started := by
  rcases beginWrite_idle storage idle with ⟨failure, v, failed, idleV⟩ |
    ⟨u, y, h, begun, idleU, found, inside⟩
  · have always (other : Session α) : (runOnce id other).outcome w = (.error failure, v) := by
      rw [runOnce, outcome_bind_ok (outcome_context id w), outcome_bind_error failed]
    exact ⟨none, .refused always idleV⟩
  -- The transaction has begun on the database that was stored when the attempts began.
  obtain ⟨c, opened, _⟩ := World.connection_of_handle found
  obtain ⟨path, same, uses⟩ := idleU.file c.file? (by rw [World.fileOf, opened]; rfl)
  have file : u.fileOf id = some (some path) := by rw [World.fileOf, opened, ← same]; rfl
  have stored : base.stored path = some h.image := by
    rw [← idleU.stored path, World.stored_handle found file]
  let tag := (w.context id).tag
  have insideY : Inside (· = h.image) (AllOn among id) u id h.image true [] (startedIn tag y) :=
    inside.congr inside.bindings rfl rfl
  have heldY : World.Held among u id h.image (startedIn tag y) :=
    insideY.imp fun db (same : db = h.image) => same ▸ steady path h.image uses stored
  have once (other : Session α) (same : other.outcome (startedIn tag y) = block.outcome (startedIn tag y)) :
      (runOnce id other).outcome w =
        (runBegun id (u.context id).generation tag block).outcome (startedIn tag y) := by
    rw [outcome_runOnce begun other, runBegun_congr same]
  refine ⟨some (startedIn tag y), ?_⟩
  rcases runBegun_cases (kept u h.image) heldY tag with
    ⟨failure, x, v, outcome, heldX, step, left⟩ |
    ⟨value, x, v, last, outcome, returned, heldX, step, seen, foundV, ended⟩
  · exact .failed (fun other same => (once other same).trans outcome) (idleU.undone heldX step left)
  · have fileX : x.fileOf id = some (some path) := heldX.beside.file.trans file
    have fileV : v.fileOf id = some (some path) := step.file.trans fileX
    have others (other : List String) (apart : other ≠ path) : v.stored other = base.stored other := by
      rw [← idleU.stored other, ← heldX.stored other]
      exact step.stored other fun own => apart (by rw [fileX] at own; cases own; rfl)
    exact .done (fun other same => (once other same).trans outcome) returned
      (insideY.seen.trans stored.symm) fileV ((World.stored_handle foundV fileV).trans seen.symm) others
      ((World.transactionOf_handle foundV).trans ended)

/-- The second attempt, on a new connection. -/
theorem attempt_retry {directory : String}
    (storage : (base.context id).config.storage = .directory directory)
    (steady : ∀ path db, base.Uses id path → base.stored path = some db → db.Steady)
    (kept : ∀ u image, Keeps (World.Held among u id image) block)
    (settings : (w.context id).settings = (base.context id).settings)
    (stored : ∀ path, w.stored path = base.stored path) (bindings : AllOn among id w.bindings) :
    ∃ started, Attempt (AllOn among id) base id (retry id) block w started := by
  let event := retryEvent (w.context id).config
  let reported : World := { w with log := event :: w.log }
  -- Closing the connection ends whatever transaction there was.
  have closed : Idle (AllOn among id) base id ((forceClose id).outcome reported).2 :=
    idle_close settings stored bindings
  have idle := keeps_openContext_idle storage _ closed
  rcases opened : (openContext id).outcome ((forceClose id).outcome reported).2 with ⟨result, v⟩
  rw [opened] at idle
  have leads (other : Session α) : (retry id other).outcome w =
      (openContext id >>= fun _ => runOnce id other).outcome
        ((forceClose id).outcome reported).2 := by
    rw [retry, outcome_bind_ok (outcome_context id w), outcome_bind_ok (outcome_report _ w)]
    rfl
  cases result with
  | error failure =>
    exact ⟨none, .refused (fun other => (leads other).trans (outcome_bind_error opened _)) idle⟩
  | ok _ =>
    obtain ⟨started, attempt⟩ := attempt_runOnce storage steady kept idle
    exact ⟨started, attempt.after fun other => (leads other).trans (outcome_bind_ok opened _)⟩

end Session

end EntityStore
