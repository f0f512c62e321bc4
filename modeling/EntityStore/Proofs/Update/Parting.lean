import EntityStore.Proofs.Lifecycle.Parting
import EntityStore.Proofs.Update.AllOrNothing

/-! # Transactions that lose their connection

When a block closes the connection that its transaction is on, the transaction is undone.  But the block
goes on, and what it does from there on is no part of any transaction:

* `Session.Enters` — the worlds in which a transaction runs its block.
* `Session.update_parted` — the transaction fails, and what the block has done after the call is there.
-/

namespace EntityStore

open EntityStore.Engine (Database)
open World (Alike Around Inside)

variable {among : Mapper → Prop} {id : Nat} {v w x y : World} {α : Type}

namespace Session

/-! ## Blocks in a transaction -/

variable {base : World} {image : Database}

def Tied (among : Mapper → Prop) (base : World) (id : Nat) (image : Database) (w : World) : Prop :=
  World.Held among base id image w ∨ Around among id (Gone (base.context id).generation) w

theorem Parts.around {call : Session Unit} (parts : Parts id w call) (held : World.Held among base id image w) :
    Around among id (Gone (base.context id).generation) (call.outcome w).2 where
  on := parts.released.bindings ▸ held.bindings
  phase := held.beside.generation ▸ parts.released.gone

section
variable (closed : Mapper.Closed among) (named : ∀ m, among m → m.plan.Named)
include closed named

theorem LooseBlock.keeps_tied {op : Session α} (made : LooseBlock among id op) :
    Keeps (Tied among base id image) op := by
  induction made with
  | block made =>
    rintro w (held | around)
    · exact .inl (made.keeps_held closed named w held)
    · exact .inr (Around.loose (.gone _) closed named (.block made) w around)
  | call lifecycle =>
    rintro w (held | around)
    · rcases lifecycle.parts w with parts | same
      · exact .inr (parts.around held)
      · rw [same]
        exact .inl held
    · exact .inr (Around.lifecycle (.gone _) lifecycle w around)
  | bind _ _ first rest => exact .bind first rest
  | attempt _ block => exact block.attempt
  | choose _ rest => exact .bind .get rest

theorem ComesTo.tied {block : Session α} {call : Session Unit} {rest : Except Failure Unit → Session α}
    (comes : ComesTo among id block y call x rest) (tied : Tied among base id image y) :
    Tied among base id image x := by
  induction comes with
  | here _ => exact tied
  | first _ _ ih => exact ih tied
  | later block done _ ih =>
    have between := block.keeps_tied closed named _ tied
    rw [done] at between
    exact ih between
  | attempt _ ih => exact ih tied
  | choose _ ih => exact ih tied

end

/-! ## The end of the transaction -/

/-- Where the connection of a transaction is gone, its end is not reached. -/
theorem outcome_controlOn_gone {generation : Nat}
    (gone : Gone generation (x.context id).generation (x.context id).connection.isSome)
    (s : Sql.Statement) (op : String) :
    (controlOn id generation s op).outcome x = (.error (closedConnection (x.context id).tag op), x) := by
  have elsewhere : ((x.context id).connection.isSome
      && decide ((x.context id).generation = generation)) = false := by
    rcases gone with after | ⟨_, closed⟩
    · rw [decide_eq_false (Nat.ne_of_gt after), Bool.and_false]
    · rw [closed, Bool.false_and]
  rw [controlOn, outcome_bind_ok (outcome_context id x)]
  change (if ((x.context id).connection.isSome
    && decide ((x.context id).generation = generation)) = true then _ else _ : Session Unit).outcome x = _
  rw [elsewhere]
  rfl

def partedFailure (tag : String) : Except Failure α → Failure
  | .ok _ => closedConnection tag "commit"
  | .error failure => failure

theorem runBegun_gone {block : Session α} {generation : Nat} (tag : String) {result : Except Failure α}
    (ran : block.outcome y = (result, x))
    (gone : Gone generation (x.context id).generation (x.context id).connection.isSome) :
    ∃ v, (runBegun id generation tag block).outcome y =
        (.error (partedFailure (x.context id).tag result), v) ∧ Alike x v := by
  have undone : ∃ v, (undo id generation).outcome x = (.ok (), v) ∧ Alike x v := by
    rw [undo, outcome_bind_ok (outcome_context id x), outcome_bind_ok (outcome_attempt _ x),
      outcome_controlOn_gone gone]
    exact ⟨_, rfl, ⟨rfl, fun _ => rfl, rfl⟩⟩
  obtain ⟨v, undone, alike⟩ := undone
  refine ⟨v, ?_, alike⟩
  have ended : (do
      let value ← block
      controlOn id generation .commit "commit"
      return value : Session α).outcome y = (.error (partedFailure (x.context id).tag result), x) := by
    cases result with
    | ok value => rw [outcome_bind_ok ran, outcome_bind_error (outcome_controlOn_gone gone _ _)]; rfl
    | error failure => exact outcome_bind_error ran _
  rw [runBegun, outcome_bind_ok (outcome_attempt _ y), ended]
  exact outcome_bind_ok undone _

/-! ## What becomes of the transaction -/

section
variable {block : Session α} {again : Bool} (closed : Mapper.Closed among)
  (named : ∀ m, among m → m.plan.Named)
include closed named

theorem Enters.inside (made : LooseBlock among id block) (on : AllOn among id w.bindings)
    (enters : Enters id block w again y) :
    ∃ (base : World) (image : Database) (tag : String),
      Inside (· = image) (AllOn among id) base id image true [] y
        ∧ (again = false → ∀ path, y.stored path = w.stored path)
        ∧ ∀ raised v, (runBegun id (base.context id).generation tag block).outcome y = (.error raised, v) →
          (again = true ∨ raised.isLockContention = false) →
            (lastAttempt id block).outcome (w.requested id) = (.error raised, v) := by
  -- The first run begins where the session stands, the second on a new connection.
  cases enters with
  | first begun =>
    obtain ⟨base, image, rfl, inside, stored⟩ := beginWrite_ok begun on
    refine ⟨base, image, (w.context id).tag, inside.congr inside.bindings rfl rfl, fun _ => stored,
      fun raised v ran last => ?_⟩
    have once := outcome_runOnce begun block
    rw [show ((w.requested id).context id).tag = (w.context id).tag from rfl, ran] at once
    refine lastAttempt_first once ?_
    rintro _ ⟨⟩
    exact last.resolve_left nofun
  | @again failure generation u x v failed contention renewed begun =>
    have governs : Governs (Around among id fun _ _ => True) id := Around.governs .true
    have kept := governs.runOnce (Around.loose .true closed named made) (w.requested id) ⟨on, trivial⟩
    rw [failed] at kept
    have renews : Keeps (Around among id fun _ _ => True) (renew id) :=
      .bind (fun _ around => around) fun _ => .bind (governs.reports _) fun _ =>
        .bind governs.closes fun _ => governs.opens
    have kept := renews u kept
    rw [renewed] at kept
    obtain ⟨base, image, rfl, inside, _⟩ := beginWrite_ok begun kept.on
    refine ⟨base, image, (x.context id).tag, inside.congr inside.bindings rfl rfl, nofun, fun raised z ran _ => ?_⟩
    rw [lastAttempt_second failed contention, retry_eq, outcome_bind_ok renewed, outcome_runOnce begun, ran]

/-- A transaction whose block parts with the connection.  With the call, all that has been done before is
    gone.  The transaction fails: its end is not reached, and unless the block has failed itself that
    is the failure.  But what the block has done after the call is there; nothing undoes it. -/
theorem update_parted (on : AllOn among id w.bindings) (made : LooseBlock among id block)
    (enters : Enters id block w again y)
    (steady : ∀ db, y.seen id = some db → db.Steady) {call : Session Unit}
    {rest : Except Failure Unit → Session α} (comes : ComesTo among id block y call x rest)
    (connected : (x.context id).connection.isSome = true)
    (same : (x.context id).generation = (y.context id).generation) :
    (again = false → ∀ path, y.stored path = w.stored path)
      ∧ (∀ path, (call.outcome x).2.stored path = y.stored path)
      ∧ (call.outcome x).2.transactionOf id = none
      ∧ ∀ (result : Except Failure α) (z : World), (attempt call >>= rest).outcome x = (result, z) →
        (again = true ∨ ∀ failure, result = .error failure → failure.isLockContention = false) →
          ∃ raised v, (update id block).outcome w = (.error raised, v)
            ∧ (∀ path, v.stored path = z.stored path)
            ∧ (∀ value, result = .ok value → raised.kind = .statementState)
            ∧ ∀ failure, result = .error failure →
              raised = { failure with tag := raised.tag, requestId := raised.requestId } := by
  obtain ⟨base, image, tag, inside, unchanged, ends⟩ := enters.inside closed named made on
  have held : World.Held among base id image y :=
    inside.imp fun db (same : db = image) => same ▸ steady image inside.seen
  have heldX : World.Held among base id image x := by
    rcases comes.tied closed named (.inl held) with heldX | gone
    · exact heldX
    · rcases gone.phase with after | ⟨_, absent⟩
      · rw [same, held.beside.generation] at after
        exact absurd after (Nat.lt_irrefl _)
      · rw [connected] at absent
        cases absent
  have released := comes.parts.released
  refine ⟨unchanged, fun path => ?_, released.idle, fun result z ran last => ?_⟩
  · rw [released.stored, heldX.stored, held.stored]
  · -- From the call on no transaction is open, and the connection of this one never comes back.
    have gone := Around.loose (.gone _) closed named (comes.rest_loose (call.outcome x).1) _
      (comes.parts.around heldX)
    rw [outcome_bind_ok (outcome_attempt call x)] at ran
    rw [ran] at gone
    have whole : block.outcome y = (result, z) := by
      rw [comes.outcome, outcome_bind_ok (outcome_attempt call x), ran]
    obtain ⟨v, ended, alike⟩ := runBegun_gone tag whole gone.phase
    have final := ends _ v ended <| by
      rcases last with again | last
      · exact .inl again
      · cases result with
        | ok value => exact .inr rfl
        | error failure => exact .inr (last failure rfl)
    rw [outcome_update, final]
    refine ⟨_, _, rfl, alike.stored, ?_, ?_⟩
    · rintro value rfl
      rfl
    · rintro failure rfl
      rfl

end

def closing : Session Unit := do
  let _ ← (notes "notes").save (note 1)
  closeContext 0
  let _ ← (notes "notes").save (note 2)

/-- The second note is there. -/
theorem update_parted_closing : ∃ y x rest raised v,
    Enters 0 closing notesWorld false y
      ∧ ComesTo (· = notes "notes") 0 closing y (closeContext 0) x rest
      ∧ (update 0 closing).outcome notesWorld = (.error raised, v) ∧ raised.kind = .statementState
      ∧ rowCounts ((closeContext 0).outcome x).2 notesFile = rowCounts notesWorld notesFile
      ∧ rowCounts v notesFile = some [1] := by
  let y := startedIn "main" ((beginWrite 0).outcome (notesWorld.requested 0)).2
  let x := (((notes "notes").save (note 1)).outcome y).2
  let rest (result : Except Failure Unit) : Session Unit := do
    ofExcept result
    let _ ← (notes "notes").save (note 2)
  have begun : (beginWrite 0).outcome (notesWorld.requested 0) = (.ok 1, _) :=
    outcome_ok (by decide +kernel)
  have enters : Enters 0 closing notesWorld false y := .first begun
  have saved (number : Int64) : LooseBlock (· = notes "notes") 0 ((notes "notes").save (note number)) :=
    .block (notes_save "notes" (note number))
  have later : LooseBlock (· = notes "notes") 0 (do let _ ← (notes "notes").save (note 2) : Session Unit) :=
    .bind (saved 2) fun _ => .block (.pure _)
  have made : LooseBlock (· = notes "notes") 0 closing :=
    .bind (saved 1) fun _ => .bind (.call .close) fun _ => later
  have done : ((notes "notes").save (note 1)).outcome y = (.ok true, x) := outcome_ok (by decide +kernel)
  -- The block comes to the call after it has saved the first note.
  have comes : ComesTo (· = notes "notes") 0 closing y (closeContext 0) x rest :=
    .later (saved 1) done (.first (.here .close) fun _ => later)
  have named : ∀ m, m = notes "notes" → m.plan.Named := by
    rintro _ rfl
    exact ⟨by decide, by decide⟩
  have untriggered : (y.seen 0).all (·.triggers.isEmpty) = true := by decide +kernel
  have steady : ∀ db, y.seen 0 = some db → db.Steady := by
    intro db seen trigger member
    rw [seen, Option.all_some, List.isEmpty_iff] at untriggered
    rw [untriggered] at member
    cases member
  obtain ⟨before, parted, _, ends⟩ := update_parted (notes_closed "notes") named (notes_on "notes") made enters
    steady comes (by decide +kernel) (by decide +kernel)
  have fine : ((attempt (closeContext 0) >>= rest).outcome x).1.toOption = some () := by decide +kernel
  obtain ⟨raised, v, ended, stored, kind, _⟩ := ends _ _ (outcome_ok fine) (.inr nofun)
  refine ⟨y, x, rest, raised, v, enters, comes, ended, kind () rfl, ?_, ?_⟩
  · rw [rowCounts, parted, before rfl, rowCounts]
  · rw [rowCounts, stored]
    decide +kernel

end Session

end EntityStore
