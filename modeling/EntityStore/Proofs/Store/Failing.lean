import EntityStore.Proofs.Outcome
import EntityStore.Store.Read

/-! # What operations fail with

* `Session.Fails` — what holds of every failure of an operation.
* `Failure.OfConnection` — a failure on the way to a table or on it, whatever its rows hold.
* `Mapper.fails_withTable` — an operation on a table fails of the connection or of itself.
-/

namespace EntityStore

namespace Session

variable {α β : Type} {P : Failure → Prop}

/-- What holds of every failure of an operation, in whatever world it starts. -/
def Fails (P : Failure → Prop) (op : Session α) : Prop :=
  ∀ w failure v, op.outcome w = (.error failure, v) → P failure

namespace Fails

theorem pure (a : α) : Fails P (Pure.pure a : Session α) := nofun

theorem throw {failure : Failure} (holds : P failure) :
    Fails P (MonadExcept.throw failure : Session α) := by
  rintro w _ _ ⟨⟩
  exact holds

theorem get : Fails P (MonadState.get : Session World) := nofun

theorem change (f : World → World) : Fails P (modify f : Session PUnit) := nofun

theorem imp {Q : Failure → Prop} {op : Session α} (weaker : ∀ failure, P failure → Q failure)
    (fails : Fails P op) : Fails Q op :=
  fun w failure v failed => weaker failure (fails w failure v failed)

theorem bind {op : Session α} {next : α → Session β} (first : Fails P op)
    (rest : ∀ a, Fails P (next a)) : Fails P (op >>= next) := by
  intro w failure v failed
  rw [outcome_bind] at failed
  rcases ran : op.outcome w with ⟨result, u⟩
  rw [ran] at failed
  cases result with
  | ok a => exact rest a u failure v failed
  | error other =>
    have same : other = failure := by
      cases failed
      rfl
    exact same ▸ first w other u ran

/-- Only what is thrown while a failure is handled gets out. -/
theorem tryCatch {Q : Failure → Prop} {op : Session α} {handler : Failure → Session α} (fails : Fails Q op)
    (handled : ∀ failure, Q failure → Fails P (handler failure)) :
    Fails P (MonadExcept.tryCatch op handler) := by
  intro w failure v failed
  rw [outcome_tryCatch] at failed
  rcases ran : op.outcome w with ⟨result, u⟩
  rw [ran] at failed
  cases result with
  | ok a => cases failed
  | error other => exact handled other (fails w other u ran) u failure v failed

theorem attempt (op : Session α) : Fails P (Session.attempt op) :=
  .tryCatch (fun _ _ _ _ => trivial) fun _ (_ : True) => .pure _

/-- What follows an operation that has been tried knows what it may have failed with. -/
theorem attempt_bind {op : Session α} {next : Except Failure α → Session β} (fails : Fails P op)
    (done : ∀ a, Fails P (next (.ok a))) (handled : ∀ failure, P failure → Fails P (next (.error failure))) :
    Fails P (Session.attempt op >>= next) := by
  intro w failure v failed
  rw [outcome_bind, outcome_attempt] at failed
  dsimp only at failed
  rcases ran : op.outcome w with ⟨result, u⟩
  rw [ran] at failed
  cases result with
  | ok a => exact done a u failure v failed
  | error other => exact handled other (fails w other u ran) u failure v failed

theorem annotate {op : Session α} {note : Failure → Failure} (fails : Fails P op)
    (kept : ∀ failure, P failure → P (note failure)) : Fails P (Session.annotate note op) := by
  intro w failure v failed
  rw [outcome_annotate] at failed
  rcases ran : op.outcome w with ⟨result, u⟩
  rw [ran] at failed
  cases result with
  | ok a => cases failed
  | error other =>
    cases failed
    exact kept other (fails w other u ran)

theorem foldlM {step : β → α → Session β} (each : ∀ b a, Fails P (step b a)) (items : List α) (b : β) :
    Fails P (items.foldlM step b) := by
  induction items generalizing b with
  | nil => exact .pure b
  | cons a rest ih => exact .bind (each b a) ih

theorem ofExcept {result : Except Failure α} (holds : ∀ failure, result = .error failure → P failure) :
    Fails P (Session.ofExcept result) := by
  cases result with
  | ok a => exact .pure a
  | error failure => exact .throw (holds failure rfl)

theorem ofExcept_bind {result : Except Failure α} {next : α → Session β}
    (failed : ∀ failure, result = .error failure → P failure)
    (done : ∀ a, result = .ok a → Fails P (next a)) : Fails P (Session.ofExcept result >>= next) := by
  cases result with
  | ok a => exact done a rfl
  | error failure => exact .throw (failed failure rfl)

end Fails

/-- A traversal that only computes is one computation. -/
theorem mapM_ofExcept {f : α → Except Failure β} {items : List α} :
    (items.mapM fun a => ofExcept (f a)) = ofExcept (items.mapM f) := by
  induction items with
  | nil => rfl
  | cons a rest ih =>
    rw [List.mapM_cons, List.mapM_cons, ih]
    cases f a with
    | error failure => rfl
    | ok b =>
      cases rest.mapM f with
      | error failure => rfl
      | ok results => rfl

end Session

/-- A failure on the way to a table or on it: nothing that a row holds brings it about. -/
def Failure.OfConnection (failure : Failure) : Prop :=
  failure.kind ∈ [.lockContention, .statementState, .persistence, .config, .io, .unknownContext]

/-! ## Connections -/

namespace Session

variable {α : Type} {id : Nat}

theorem fails_refuse (r : Refusal) : Fails Failure.OfConnection (refuse r : Session α) := by
  apply Fails.throw
  rw [Failure.OfConnection, Refusal.toFailure]
  dsimp only
  split <;> decide

theorem fails_context : Fails Failure.OfConnection (context id) := .bind .get fun _ => .pure _

theorem fails_report (e : Event) : Fails Failure.OfConnection (report e) := .change _

theorem fails_connection : Fails Failure.OfConnection (connection id) := by
  refine .bind fails_context fun context => ?_
  cases context.connection with
  | none => exact .throw (by simp [Failure.OfConnection, closedConnection])
  | some c => exact .pure c

theorem fails_onHandle {step : List Engine.Lock → Engine.Handle → Except Refusal α × Engine.Handle} :
    Fails Failure.OfConnection (onHandle id step) := by
  refine .bind fails_connection fun c => .bind .get fun w => ?_
  cases w.handle? c with
  | none => exact fails_refuse _
  | some h =>
    refine .bind (.change _) fun _ => ?_
    split
    · exact .pure _
    · exact fails_refuse _

theorem fails_nextFault (kind : Bool → Faults → Nat → Option Refusal) :
    Fails Failure.OfConnection (nextFault id kind) := .bind .get fun _ => .bind (.change _) fun _ => .pure _

theorem fails_countStatement : Fails Failure.OfConnection (countStatement id) := by
  refine .bind (fails_nextFault _) fun refusal => ?_
  cases refusal with
  | none => exact .pure _
  | some r => exact fails_refuse r

theorem fails_execute (p : Engine.Program) (parameters : List Sql.Datum) :
    Fails Failure.OfConnection (execute id p parameters) :=
  .bind fails_countStatement fun _ => fails_onHandle

theorem fails_control (s : Sql.Statement) : Fails Failure.OfConnection (control id s) := by
  refine .bind (.bind fails_onHandle fun mayFail => ?_) fun _ => fails_onHandle
  cases mayFail with
  | true => exact fails_nextFault _
  | false => exact .pure _

theorem fails_prepare (text : String) (again : Bool) :
    Fails Failure.OfConnection (prepare id text again) := by
  refine .bind fails_onHandle fun db => ?_
  split
  · exact .pure _
  · exact fails_refuse _

theorem fails_executeBatch (text : String) : Fails Failure.OfConnection (executeBatch id text) := by
  -- On the bound, for all texts, since each statement leaves another one.
  have upTo (count : Nat) (text : String) : Fails Failure.OfConnection (executeUpTo id count text) := by
    induction count generalizing text with
    | zero => exact .pure ()
    | succ count ih =>
      refine .bind (fails_prepare text false) fun prepared => ?_
      cases prepared with
      | none => exact .pure ()
      | some p =>
        have runs : Fails Failure.OfConnection (runPrepared id p) := by
          rw [runPrepared]
          split
          · exact .bind (fails_execute _ _) fun _ => .pure _
          · exact fails_control _
        refine .bind runs fun _ => ?_
        split
        · exact .pure ()
        · exact ih p.rest
  exact upTo _ _

theorem fails_prepareCached (text : String) : Fails Failure.OfConnection (prepareCached id text) := by
  refine .bind fails_connection fun c => .bind ?_ fun p => .bind (.change _) fun _ => .pure p
  refine .bind (fails_prepare _ _) fun prepared => ?_
  cases prepared with
  | none => exact fails_refuse _
  | some p => exact .pure p

theorem fails_rows (p : Prepared) (parameters : List StoredValue) :
    Fails Failure.OfConnection (rows id p parameters) := by
  refine .bind (.bind ?_ fun _ => ?_) fun _ => .pure _
  · rw [checkParameters]
    split
    · exact .pure ()
    · exact fails_refuse _
  · split
    · exact fails_execute _ _
    · exact .bind (fails_control _) fun _ => .pure _

/-! ## The way to a connection -/

theorem fails_connect : Fails Failure.OfConnection (connect id) := by
  refine .bind fails_context fun c => ?_
  split
  · exact .pure _
  · refine .bind (.bind fails_context fun c => ?_) fun path => .bind .get fun w => ?_
    · split
      · exact .throw (by simp [Failure.OfConnection, Context.noFile, configFailure])
      · refine .bind .get fun w => ?_
        split
        · exact .throw (by simp [Failure.OfConnection, fileFailure])
        · refine .bind (.change _) fun _ => .bind (.ofExcept fun failure missing => ?_) fun _ => .pure _
          rw [Context.requireName] at missing
          split at missing
          · cases missing
          · cases missing
            simp [Failure.OfConnection, configFailure]
    · split
      · exact fails_refuse _
      · exact .bind (.change _) fun _ => .pure _

theorem fails_openContext : Fails Failure.OfConnection (openContext id) := by
  refine .bind fails_context fun c => ?_
  split
  · refine .bind fails_connect fun c => .bind (.change _) fun _ => .bind ?_ fun _ =>
      .bind (.change _) fun _ => .bind fails_context fun _ => fails_report _
    refine .bind fails_context fun c => ?_
    split
    · exact .pure ()
    · exact .tryCatch (fails_executeBatch _) fun failure known =>
        .bind (.change _) fun _ => .throw known
  · exact .pure ()

theorem fails_withConnection {P : Failure → Prop} {op : Nat → Session α}
    (outside : ∀ failure, failure.OfConnection → P failure) (fails : ∀ generation, Fails P (op generation)) :
    Fails P (withConnection id op) :=
  .bind (.imp outside fails_openContext) fun _ => .bind (.imp outside fails_context) fun _ => fails _

/-! ## Migrations -/

theorem fails_define (text : String) (report : MigrationReport) :
    Fails Failure.OfConnection (define id text report) :=
  .bind (fails_report _) fun _ => .bind (fails_executeBatch text) fun _ =>
    .bind (.bind (.bind (fails_execute _ _) fun _ => .pure _) fun _ =>
      .bind (fails_execute _ _) fun _ => .pure _) fun _ => .pure _

theorem fails_finds (test : Engine.Database → Bool) : Fails Failure.OfConnection (finds id test) :=
  .bind (fails_execute _ _) fun _ => .pure _

theorem fails_migrateWithin (p : MappingPlan) : Fails Failure.OfConnection (migrateWithin id p) := by
  have table : Fails Failure.OfConnection (migrateTable id p) := by
    refine .bind (fails_finds _) fun found => ?_
    split
    · refine .bind (.bind (fails_execute _ _) fun _ => .pure _) fun live => .foldlM (fun report c => ?_) _ _
      rw [addColumn]
      split
      · exact .pure _
      · exact .bind (fails_define _ _) fun _ => .pure _
    · exact .bind (fails_define _ _) fun _ => .pure _
  refine .bind table fun report => .bind (.foldlM (fun report c => ?_) _ _) fun report =>
    .bind (fails_report _) fun _ => .pure _
  refine .bind (fails_finds _) fun found => ?_
  split
  · exact .pure _
  · exact .bind (fails_define _ _) fun _ => .pure _

theorem fails_migrate (p : MappingPlan) : Fails Failure.OfConnection (migrate id p) := by
  refine .bind (fails_control _) fun _ => .attempt_bind (fails_migrateWithin p) (fun report => ?_)
    fun failure known => ?_
  · exact .bind (fails_control _) fun _ => .pure report
  · exact .bind (.attempt _) fun _ => .throw known

end Session

/-! ## Tables -/

namespace Mapper

open Session (Fails)

variable {α : Type} {P : Failure → Prop} (m : Mapper)

theorem fails_contextId : Fails Failure.OfConnection m.contextId := by
  refine .bind (.bind .get fun _ => .pure _) fun state => ?_
  split
  · exact .pure _
  · refine .bind (.annotate (.bind .get fun w => ?_) fun _ known => known) fun id =>
      .bind (.change _) fun _ => .pure id
    split
    · exact .pure _
    · exact .throw (by simp [Failure.OfConnection, unknownContext])

/-- Before an operation on the table there are only failures of the connection. -/
theorem fails_withTable {op : Nat → Session α} (outside : ∀ failure, failure.OfConnection → P failure)
    (fails : ∀ id, Fails P (op id)) : Fails P (m.withTable op) := by
  refine .bind (.imp outside m.fails_contextId) fun id =>
    Session.fails_withConnection outside fun generation => ?_
  refine .bind (.bind .get fun _ => .pure _) fun state => ?_
  have marks : Fails Failure.OfConnection (m.markMigrated id generation) := by
    refine .bind (.bind Session.fails_connection fun _ => .pure _) fun idle => ?_
    split
    · exact .change _
    · exact .pure ()
  split
  · exact .bind (.imp outside (Session.fails_migrate _)) fun _ =>
      .bind (.imp outside marks) fun _ => fails id
  · exact fails id

end Mapper

end EntityStore
