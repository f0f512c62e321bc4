import EntityStore.Proofs.Update.AllOrNothing

/-! # Transactions in memory

A database in memory is gone with its connection, and a transaction that is run again is run on a new
connection:

* `Session.Retried` — the first run of a block has met another connection, or says so.
* `Session.renew_memory` — what is left of a database in memory then.
* `Session.update_in_memory` — a transaction starts from the database as it was, unless it is run again:
  then it starts from an empty one.
-/

namespace EntityStore

open EntityStore.Engine (Database Handle)
open World (Alike Inside Step)

variable {among : Mapper → Prop} {id : Nat} {image : Database} {v w : World} {α : Type} {block : Session α}

namespace Session

/-- The first run of a block has failed as if another connection were in the way. -/
def Retried (id : Nat) (block : Session α) (w : World) : Prop :=
  ∃ failure v, (runOnce id block).outcome (w.requested id) = (.error failure, v)
    ∧ failure.isLockContention = true

theorem runOnce_open (kept : ∀ u image, Keeps (World.Held among u id image) block)
    (open_ : w.handleOf id = some ⟨image, none⟩) (on : AllOn among id w.bindings) (steady : image.Steady) :
    (∃ failure v, (runOnce id block).outcome w = (.error failure, v)
        ∧ v.handleOf id = some ⟨image, none⟩ ∧ (v.context id).settings = (w.context id).settings
        ∧ AllOn among id v.bindings)
      ∨ ∃ generation y value x v h, (beginWrite id).outcome w = (.ok generation, y)
        ∧ (startedIn (w.context id).tag y).seen id = some image
        ∧ block.outcome (startedIn (w.context id).tag y) = (.ok value, x)
        ∧ (runOnce id block).outcome w = (.ok value, v) ∧ x.seen id = some h.image
        ∧ v.handleOf id = some h ∧ h.transaction = none := by
  obtain ⟨c, connected, _⟩ := World.connection_of_handle open_
  have idle : w.transactionOf id = none := World.transactionOf_handle open_
  rcases beginWrite_cases id w with ⟨failure, v, failed, _⟩ | ⟨u, noop, begins⟩
  · rw [openContext_open connected] at failed
    cases failed
  rw [openContext_open connected] at noop
  cases noop
  rcases begins with ⟨failure, v, refused, still⟩ | ⟨y, h, begun, found, _, inside⟩
  · refine .inl ⟨failure, v, ?_, (still.idle idle).1.trans open_, still.settings, still.bindings ▸ on⟩
    rw [runOnce, outcome_bind_ok (outcome_context id w), outcome_bind_error refused]
  · cases open_.symm.trans found
    have inside := (inside _ on).congr (v := startedIn (w.context id).tag y) (inside _ on).bindings rfl rfl
    have held : World.Held among w id image (startedIn (w.context id).tag y) :=
      inside.imp fun db (same : db = image) => same ▸ steady
    have once := outcome_runOnce begun block
    rcases runBegun_cases (kept w image) held (w.context id).tag with
      ⟨failure, x, v, outcome, heldX, step, left⟩ | ⟨value, x, v, h, outcome, returned, _, _, seen, found, ended⟩
    · exact .inl ⟨failure, v, once.trans outcome, left, step.settings.trans heldX.beside.settings,
        step.bindings ▸ heldX.bindings⟩
    · exact .inr ⟨_, y, value, x, v, h, begun, inside.seen, returned, once.trans outcome, seen, found, ended⟩

/-- A database in memory does not outlast its connection. -/
theorem renew_memory (memory : (w.context id).config.storage = .memory)
    (there : id < w.contexts.length) :
    (∃ failure v, (renew id).outcome w = (.error failure, v) ∧ v.fileOf id = none)
      ∨ ∃ v, (renew id).outcome w = (.ok (), v) ∧ v.handleOf id = some ⟨{}, none⟩
        ∧ v.bindings = w.bindings := by
  let closed : World := { w with log := retryEvent (w.context id).config :: w.log }.changed id
    fun c => { c with connection := none }
  have context : closed.context id = { w.context id with connection := none } :=
    World.context_changed there _
  have empty : (closed.context id).connection = none := by rw [context]
  have same : (renew id).outcome w = (openContext id).outcome closed := by
    rw [renew, outcome_bind_ok (outcome_context id w), outcome_bind_ok (outcome_report _ w)]
    rfl
  rw [same]
  rcases openContext_cases empty with ⟨failure, v, failed, alike⟩ | ⟨c, v, opened, opens, alike⟩
  · refine .inl ⟨failure, v, failed, ?_⟩
    rw [World.fileOf, alike.context, empty]
    rfl
  · refine .inr ⟨v, opened, ?_, alike.bindings⟩
    -- In memory a new connection comes with a new database.
    have fresh : c = { backing := .memory {} } := by
      cases opens with
      | memory _ => rfl
      | file place =>
        rw [Context.place?, context, memory] at place
        cases place
    have bound : id < closed.contexts.length := by simpa [closed, World.changed] using there
    rw [alike.handleOf, World.handleOf, World.reconnected, World.context_changed bound, fresh]
    rfl

/-- What a context sees when its connection is not in a transaction. -/
theorem seen_committed {v : World} {h : Handle} (found : v.handleOf id = some h)
    (idle : h.transaction = none) : v.seen id = some h.image ∧ v.transactionOf id = none := by
  rw [World.seen, found, World.transactionOf_handle found, idle]
  refine ⟨?_, rfl⟩
  rcases h with ⟨image, transaction⟩
  cases idle
  rfl

/-- Without a connection there is nothing to see. -/
theorem seen_gone {v : World} (gone : v.fileOf id = none) :
    v.seen id = none ∧ v.transactionOf id = none := by
  have closed : (v.context id).connection = none := Option.map_eq_none_iff.mp gone
  rw [World.seen, World.handleOf, World.transactionOf, closed]
  exact ⟨rfl, rfl⟩

/-- The second run of a block starts from an empty database, or there is none when it fails. -/
theorem retry_in_memory (kept : ∀ u image, Keeps (World.Held among u id image) block)
    (memory : (w.context id).config.storage = .memory) (there : id < w.contexts.length)
    (on : AllOn among id w.bindings) :
    (∃ failure v, (retry id block).outcome w = (.error failure, v) ∧ v.transactionOf id = none
        ∧ (v.seen id = some {} ∨ v.seen id = none))
      ∨ ∃ generation u y value x v, (renew id).outcome w = (.ok (), u)
        ∧ (beginWrite id).outcome u = (.ok generation, y)
        ∧ (startedIn (u.context id).tag y).seen id = some {}
        ∧ block.outcome (startedIn (u.context id).tag y) = (.ok value, x)
        ∧ (retry id block).outcome w = (.ok value, v)
        ∧ v.seen id = x.seen id ∧ v.transactionOf id = none := by
  rw [retry_eq]
  rcases renew_memory memory there with ⟨failure, v, failed, gone⟩ | ⟨u, renewed, empty, bindings⟩
  · exact .inl ⟨failure, v, outcome_bind_error failed _, (seen_gone gone).2, .inr (seen_gone gone).1⟩
  rw [outcome_bind_ok renewed]
  rcases runOnce_open kept empty (bindings ▸ on) (fun _ member => absurd member List.not_mem_nil) with
    ⟨failure, v, failed, left, _⟩ | ⟨_, y, value, x, v, h, begun, start, returned, done, made, found, idle⟩
  · obtain ⟨seen, idle⟩ := seen_committed left rfl
    exact .inl ⟨failure, v, failed, idle, .inl seen⟩
  · obtain ⟨seen, idle⟩ := seen_committed found idle
    exact .inr ⟨_, u, y, value, x, v, renewed, begun, start, returned, done, seen.trans made.symm, idle⟩

/-- A write transaction on a database in memory.  If its first run does not meet another connection, it
    leaves what its block has made of the database, or the database as it was.  Else the database is
    gone, with all that has been committed before: the block is run again from an empty one. -/
theorem update_in_memory (closed : Mapper.Closed among) (named : ∀ m, among m → m.plan.Named)
    (id : Nat) (w : World) (memory : (w.context id).config.storage = .memory)
    (committed : w.handleOf id = some ⟨image, none⟩) (on : AllOn among id w.bindings)
    (steady : image.Steady) (block : Session α) (made : Block among block) :
    (∀ value v, (update id block).outcome w = (.ok value, v) →
        ∃ again y x, Enters id block w again y ∧ (again = true ↔ Retried id block w)
          ∧ y.seen id = some (if again then {} else image)
          ∧ block.outcome y = (.ok value, x) ∧ v.seen id = x.seen id ∧ v.transactionOf id = none)
      ∧ (∀ failure v, (update id block).outcome w = (.error failure, v) →
        v.transactionOf id = none ∧ (¬ Retried id block w → v.seen id = some image)
          ∧ (Retried id block w → v.seen id = some {} ∨ v.seen id = none)) := by
  have kept (u : World) (image : Database) : Keeps (World.Held among u id image) block :=
    made.keeps_held closed named
  rw [outcome_update]
  -- The first run decides: only contention leads to a second one, on what is left of the database.
  rcases runOnce_open kept (w := w.requested id) committed on steady with
    ⟨failure, u, failed, left, settings, on⟩ | ⟨_, y, value, x, v, h, begun, start, returned, done, made, found, idle⟩
  · obtain ⟨seen, idle⟩ := seen_committed left rfl
    cases contention : failure.isLockContention with
    | false =>
      have once : ¬ Retried id block w := by
        rintro ⟨other, _, again, contends⟩
        rw [failed] at again
        cases again
        rw [contention] at contends
        cases contends
      rw [lastAttempt_first failed (by rintro _ ⟨⟩; exact contention)]
      refine ⟨fun _ _ returned => (by cases returned), ?_⟩
      rintro _ _ ⟨⟩
      exact ⟨idle, fun _ => seen, fun again => absurd again once⟩
    | true =>
      have again : Retried id block w := ⟨failure, u, failed, contention⟩
      have config : (u.context id).config = (w.context id).config := congrArg Prod.fst settings
      obtain ⟨c, connected, _⟩ := World.connection_of_handle left
      rw [lastAttempt_second failed contention]
      rcases retry_in_memory kept (by rw [config, memory]) (World.lt_of_connection connected) on with
        ⟨failure, x, failed, idle, lost⟩
        | ⟨_, z, y, value, x, v, renewed, begun, start, returned, done, seen, idle⟩
      · rw [failed]
        refine ⟨fun _ _ returned => (by cases returned), ?_⟩
        rintro _ _ ⟨⟩
        exact ⟨idle, fun once => absurd again once, fun _ => lost⟩
      · rw [done]
        refine ⟨?_, fun _ _ failed => (by cases failed)⟩
        rintro _ _ ⟨⟩
        exact ⟨true, _, x, .again failed contention renewed begun, by simp [again], start, returned, seen, idle⟩
  · have once : ¬ Retried id block w := by
      rintro ⟨_, _, again, _⟩
      rw [done] at again
      cases again
    obtain ⟨seen, idle⟩ := seen_committed found idle
    rw [lastAttempt_first done (by rintro _ ⟨⟩)]
    refine ⟨?_, fun _ _ failed => (by cases failed)⟩
    rintro _ _ ⟨⟩
    exact ⟨false, _, x, .first begun, by simp [once], start, returned, seen.trans made.symm, idle⟩

def noted : Database where
  tables := [{ name := "notes", columns := [{ name := "id", affinity := .integer }], key := [0]
               rowId := none, rows := [[.integer 1]] }]

def memoryWorld : World :=
  { notesWorld with
    contexts := [{ config := { tag := "main" }, connection := some { backing := .memory noted }
                   generation := 1 }] }

/-- Fails on the connection that there is, as if another one were in the way, and does nothing on any
    other. -/
def contended : Session Unit := do
  if ((← get).context 0).generation = 1 then
    throw { kind := .lockContention, message := "database is locked" }

/-- The note is gone, though the transaction succeeds and does not touch it. -/
theorem update_in_memory_noted : memoryWorld.seen 0 = some noted
    ∧ ∃ y x v, Enters 0 contended memoryWorld true y ∧ y.seen 0 = some {}
      ∧ contended.outcome y = (.ok (), x) ∧ (update 0 contended).outcome memoryWorld = (.ok (), v)
      ∧ v.seen 0 = x.seen 0 ∧ (v.seen 0).map (·.tables.length) = some 0 := by
  have named : ∀ m, m = notes "notes" → m.plan.Named := by
    rintro _ rfl
    exact ⟨by decide, by decide⟩
  have made : Block (· = notes "notes") contended := by
    refine .choose fun w => ?_
    split
    · exact .throw _
    · exact .pure _
  have contends : (match ((runOnce 0 contended).outcome (memoryWorld.requested 0)).1 with
      | .ok _ => false
      | .error failure => failure.isLockContention) = true := by decide +kernel
  have retried : Retried 0 contended memoryWorld := by
    rcases ran : (runOnce 0 contended).outcome (memoryWorld.requested 0) with ⟨result, v⟩
    rw [ran] at contends
    cases result with
    | ok _ => cases contends
    | error failure => exact ⟨failure, v, ran, contends⟩
  have done : (update 0 contended).outcome memoryWorld = (.ok (), _) := outcome_ok (by decide +kernel)
  obtain ⟨again, y, x, enters, second, start, returned, left, _⟩ :=
    (update_in_memory (notes_closed "notes") named 0 memoryWorld rfl rfl (notes_on "notes") nofun
      contended made).1 _ _ done
  cases second.mpr retried
  exact ⟨rfl, y, x, _, enters, start, returned, done, left, by decide +kernel⟩

end Session

end EntityStore
