import EntityStore.Proofs.Transaction.Connection

/-! # What statements leave true

A property of worlds is kept by all that is done behind a connection once it is kept by the single
steps of the engine there:

* `Session.Withstands` — the property is kept by the steps that are allowed.
* `Session.Withstands.execute`, `Session.Withstands.control`, `Session.Withstands.executeBatch` — what
  these steps make up.
* `Session.Withstands.of_steps` — one such property: the engine may do as it likes.
-/

namespace EntityStore

open EntityStore.Engine (Database Handle Lock Program)
open EntityStore.Sql (Datum Statement)
open World (Step)

variable {Allows : Handle → Handle → Prop} {P : World → Prop} {Q : Database → Prop} {id : Nat} {α : Type}
  {w : World} {h : Handle}

namespace Session

/-! ## Statements of no account -/

theorem outcome_nextFault (id : Nat) (kind : Bool → Faults → Nat → Option Refusal) (w : World) :
    (nextFault id kind).outcome w =
      (.ok (kind (w.isIdle id) w.faults w.statements), { w with statements := w.statements + 1 }) := by
  rw [nextFault, outcome_bind_ok (outcome_get w), outcome_bind_ok (outcome_set w _)]
  rfl

theorem outcome_countStatement (id : Nat) (w : World) :
    (countStatement id).outcome w = (match w.faults.inside (w.isIdle id) w.statements with
      | none => .ok ()
      | some r => .error r.toFailure, { w with statements := w.statements + 1 }) := by
  rw [countStatement, outcome_bind_ok (outcome_nextFault id _ w)]
  cases w.faults.inside (w.isIdle id) w.statements <;> rfl

/-- Without a database no statement about transactions is run. -/
theorem control_none (absent : w.handleOf id = none) (s : Statement) :
    ∃ failure, (control id s).outcome w = (.error failure, w) := by
  obtain ⟨failure, failed⟩ := outcome_onHandle_none absent
    fun _ h => ((.ok (mayFail h s) : Except Refusal Bool), h)
  exact ⟨failure, by rw [control, controlFault, outcome_bind, outcome_bind_error failed]⟩

/-- With one, it is counted if it may be refused, and the rest is one step of the engine. -/
theorem outcome_control {c : Connection} (opened : (w.context id).connection = some c)
    (there : w.handle? c = some h) (s : Statement) : ∃ refusal count,
      (refusal.isSome = true → mayFail h s = true) ∧ (control id s).outcome w =
        (onHandle id fun others h => h.controlUnless refusal others s).outcome
          { w.putHandle id c h with statements := count } := by
  rw [control, controlFault, outcome_bind, outcome_bind_ok (outcome_onHandle opened there _)]
  cases mayFail h s with
  | false => exact ⟨none, w.statements, nofun, rfl⟩
  | true => exact ⟨_, _, fun _ => rfl, by rw [if_pos rfl, outcome_nextFault]⟩

theorem keeps_connection : Keeps P (connection id) := by
  refine .bind (fun _ holds => holds) fun context => ?_
  cases context.connection with
  | some c => exact .pure c
  | none => exact .throw _

theorem keeps_checkParameters (needed given : Nat) : Keeps P (checkParameters needed given) := by
  rw [checkParameters]
  split
  · exact .pure _
  · exact .throw _

theorem gives_prepare (sees : ∀ w h, P w → w.handleOf id = some h → Q h.current) (text : String)
    (again : Bool) : Gives P (fun prepared => ∃ db, Q db ∧ prepareText db text again = .ok prepared)
      (prepare id text again) := by
  intro w prepared v holds done
  rw [prepare, database] at done
  cases found : w.handleOf id with
  | none =>
    obtain ⟨failure, failed⟩ := outcome_onHandle_none found
      fun _ h => ((.ok h.current : Except Refusal Database), h)
    rw [outcome_bind_error failed] at done
    cases done
  | some h =>
    obtain ⟨c, opened, there⟩ := World.connection_of_handle found
    rw [outcome_bind_ok (outcome_onHandle opened there _)] at done
    refine ⟨h.current, sees w h holds found, ?_⟩
    cases read : prepareText h.current text again with
    | error r => rw [read] at done; cases done
    | ok _ => rw [read] at done; cases done; rfl

theorem gives_prepareOne (sees : ∀ w h, P w → w.handleOf id = some h → Q h.current) (text : String)
    (again : Bool) : Gives P (fun p => ∃ db, Q db ∧ prepareText db text again = .ok (some p))
      (prepareOne id text again) := by
  intro w p v holds done
  rw [prepareOne] at done
  obtain ⟨prepared, u, read, done⟩ := outcome_bind_inv done
  cases prepared with
  | none => cases done
  | some _ =>
    cases done
    exact gives_prepare sees text again w _ _ holds read

/-- Which statements a connection keeps is not part of what is behind it. -/
theorem step_modifyKept (id : Nat) (f : List String → List String) (w : World) :
    Step id w ((modifyKept id f).outcome w).2
      ∧ ((modifyKept id f).outcome w).2.handleOf id = w.handleOf id := by
  let kept (context : Context) : Context :=
    { context with connection := context.connection.map fun c => { c with kept := f c.kept } }
  change Step id w (w.changed id kept) ∧ (w.changed id kept).handleOf id = w.handleOf id
  rcases Nat.lt_or_ge id w.contexts.length with bound | beyond
  · have context := World.context_changed bound kept
    refine ⟨⟨⟨by rw [context]; rfl, by rw [context], ?_, fun _ _ => rfl⟩, rfl⟩, ?_⟩
    · rw [World.fileOf, context, World.fileOf, Option.map_map]
      rfl
    · rw [World.handleOf, context, World.handleOf]
      change ((w.context id).connection.map _).bind _ = _
      cases (w.context id).connection <;> rfl
  · have context : (w.changed id kept).context id = w.context id := by
      rw [World.context_beyond beyond]
      exact World.context_beyond (by simpa [World.changed] using beyond)
    refine ⟨⟨⟨by rw [context], by rw [context], ?_, fun _ _ => rfl⟩, rfl⟩, ?_⟩
    · rw [World.fileOf, context, World.fileOf]
    · rw [World.handleOf, World.handleOf, context, World.context_beyond beyond]
      rfl

/-! ## Steps -/

/-- A property of worlds that is kept by steps of the engine behind a context, if they take its
    database from one state to another as they are allowed to. -/
structure Withstands (Allows : Handle → Handle → Prop) (P : World → Prop) (id : Nat) : Prop where
  same : ∀ h, Allows h h
  aside : ∀ {w v : World}, P w → v.disk = w.disk → v.contexts = w.contexts →
    v.bindings = w.bindings → P v
  step : ∀ {w : World} {c : Connection} {h next : Handle}, (w.context id).connection = some c →
    w.handle? c = some h → Allows h next → P w → P (w.putHandle id c next)

/-- A property that no step of the engine changes. -/
theorem Withstands.of_steps (steps : ∀ w v, Step id w v → P w → P v) :
    Withstands (fun _ _ => True) P id where
  same _ := trivial
  aside holds disk contexts bindings := steps _ _ (Step.aside disk contexts bindings).1 holds
  step opened _ _ := steps _ _ (.putHandle opened _)

end Session

/-- Whatever is prepared by this, the engine may do where the database is as it is. -/
def Prepared.AllowedAt (Allows : Handle → Handle → Prop) (h : Handle) (parameters : List Datum)
    (p : Prepared) : Prop :=
  match p.program with
  | some program => ∀ others, Allows h (h.run others program parameters).2
  | none => ∀ refusal others, Allows h (h.controlUnless refusal others p.statement).2

theorem Prepared.allowedAt_true (p : Prepared) (h : Handle) (parameters : List Datum) :
    p.AllowedAt (fun _ _ => True) h parameters := by
  rw [AllowedAt]
  split
  · exact fun _ => trivial
  · exact fun _ _ => trivial

namespace Session

namespace Withstands

variable (withstands : Withstands Allows P id)
include withstands

theorem report (e : Event) : Keeps P (report e) := fun _ holds => withstands.aside holds rfl rfl rfl

theorem countStatement : Keeps P (countStatement id) := by
  intro w holds
  rw [outcome_countStatement]
  exact withstands.aside holds rfl rfl rfl

theorem onHandle_at {step : List Lock → Handle → Except Refusal α × Handle}
    (found : w.handleOf id = some h) (allowed : ∀ others, Allows h (step others h).2) (holds : P w) :
    P ((onHandle id step).outcome w).2 := by
  obtain ⟨c, opened, found⟩ := World.connection_of_handle found
  rw [outcome_onHandle opened found]
  exact withstands.step opened found (allowed _) holds

theorem onHandle {step : List Lock → Handle → Except Refusal α × Handle}
    (allowed : ∀ others h, Allows h (step others h).2) : Keeps P (onHandle id step) := by
  intro w holds
  cases found : w.handleOf id with
  | none =>
    obtain ⟨failure, failed⟩ := outcome_onHandle_none found step
    rw [failed]
    exact holds
  | some h => exact withstands.onHandle_at found (fun others => allowed others h) holds

/-! ## Statements -/

theorem execute_at {program : Program} {parameters : List Datum} (found : w.handleOf id = some h)
    (allowed : ∀ others, Allows h (h.run others program parameters).2) (holds : P w) :
    P ((execute id program parameters).outcome w).2 := by
  have counted : P { w with statements := w.statements + 1 } := withstands.aside holds rfl rfl rfl
  have same : World.handleOf { w with statements := w.statements + 1 } id = some h := found
  have count := outcome_countStatement id w
  cases refused : w.faults.inside (w.isIdle id) w.statements with
  | none =>
    rw [refused] at count
    rw [execute, outcome_bind_ok count]
    exact withstands.onHandle_at same allowed counted
  | some r =>
    rw [refused] at count
    rw [execute, outcome_bind_error count]
    exact counted

theorem execute {program : Program} {parameters : List Datum}
    (allowed : ∀ others h, Allows h (h.run others program parameters).2) :
    Keeps P (execute id program parameters) :=
  .bind withstands.countStatement fun _ => withstands.onHandle allowed

theorem control_at {s : Statement} (found : w.handleOf id = some h)
    (allowed : ∀ refusal others, Allows h (h.controlUnless refusal others s).2) (holds : P w) :
    P ((control id s).outcome w).2 := by
  obtain ⟨c, opened, there⟩ := World.connection_of_handle found
  -- Looking whether the statement may fail leaves the database as it is.
  have looked := withstands.step opened there (withstands.same h) holds
  obtain ⟨refusal, count, _, outcome⟩ := outcome_control opened there s
  rw [outcome]
  refine withstands.onHandle_at ?_ (allowed refusal) (withstands.aside looked rfl rfl rfl)
  exact World.handleOf_putHandle opened h

theorem control {s : Statement} (allowed : ∀ refusal others h, Allows h (h.controlUnless refusal others s).2) :
    Keeps P (control id s) := by
  intro w holds
  cases found : w.handleOf id with
  | none =>
    obtain ⟨failure, failed⟩ := control_none found s
    rw [failed]
    exact holds
  | some h => exact withstands.control_at found (fun refusal others => allowed refusal others h) holds

theorem prepare (text : String) (again : Bool) : Keeps P (prepare id text again) := by
  refine .bind (withstands.onHandle fun _ h => withstands.same h) fun db => ?_
  cases prepareText db text again with
  | ok prepared => exact .pure prepared
  | error r => exact .throw r.toFailure

theorem prepareOne (text : String) (again : Bool) : Keeps P (prepareOne id text again) := by
  refine .bind (withstands.prepare text again) fun prepared => ?_
  cases prepared with
  | some p => exact .pure p
  | none => exact .throw _

theorem runPrepared_at {p : Prepared} (found : w.handleOf id = some h)
    (allowed : p.AllowedAt Allows h []) (holds : P w) : P ((runPrepared id p).outcome w).2 := by
  rw [runPrepared]
  rw [Prepared.AllowedAt] at allowed
  cases prepares : p.program with
  | none =>
    rw [prepares] at allowed
    exact withstands.control_at found allowed holds
  | some program =>
    rw [prepares] at allowed
    have ran := withstands.execute_at found allowed holds
    dsimp only
    rw [outcome_bind]
    rcases ended : (Session.execute id program []).outcome w with ⟨result, v⟩
    rw [ended] at ran
    cases result <;> exact ran

/-- The statements of a text.  What is prepared for the database as it is runs on it as it is, and
    leaves a text of the same kind to be run. -/
theorem executeBatch (Texts : String → Prop)
    (runs : ∀ text h p, Texts text → prepareText h.current text false = .ok (some p) →
      p.AllowedAt Allows h [] ∧ (p.rest.isEmpty = false → Texts p.rest))
    {text : String} (starts : Texts text) : Keeps P (executeBatch id text) := by
  rw [Session.executeBatch]
  -- The bound on the number of statements plays no part: any bound would do.
  generalize text.length = count
  induction count generalizing text with
  | zero => exact .pure ()
  | succ count ih =>
    intro w holds
    rw [executeUpTo]
    cases found : w.handleOf id with
    | none =>
      obtain ⟨failure, failed⟩ := outcome_onHandle_none found
        fun _ h => ((.ok h.current : Except Refusal Database), h)
      rw [Session.prepare, database, outcome_bind, outcome_bind_error failed]
      exact holds
    | some h =>
      obtain ⟨c, opened, there⟩ := World.connection_of_handle found
      have looked := withstands.step opened there (withstands.same h) holds
      have same := World.handleOf_putHandle opened h
      have reads : (database id).outcome w = (.ok h.current, w.putHandle id c h) :=
        outcome_onHandle opened there _
      rw [outcome_bind, Session.prepare, outcome_bind_ok reads]
      cases prepares : prepareText h.current text false with
      | error r => exact looked
      | ok prepared =>
        cases prepared with
        | none => exact looked
        | some p =>
          obtain ⟨allowed, rest⟩ := runs text h p starts prepares
          have ran := withstands.runPrepared_at same allowed looked
          dsimp only [outcome_pure]
          rw [outcome_bind]
          rcases ended : (runPrepared id p).outcome (w.putHandle id c h) with ⟨result, v⟩
          rw [ended] at ran
          cases result with
          | error failure => exact ran
          | ok _ =>
            dsimp only
            cases more : p.rest.isEmpty with
            | true => exact ran
            | false => exact ih (rest more) v ran

end Withstands

end Session

end EntityStore
