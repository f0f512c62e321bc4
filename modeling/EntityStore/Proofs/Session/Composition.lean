import EntityStore.Proofs.Lifecycle.Opening
import EntityStore.Proofs.Session.Concealment

/-! # What operations are composed of

The operations of mappers and contexts, taken apart down to single steps that report nothing and that do
not depend on secrets, remarks, and brackets around other operations:

* `Session.Brackets` — what is reported at the start and at the end of an operation.
* `Session.Composed` — the ways to put operations together.
* `Session.Composed.execute`, `Session.Composed.executeBatch` — statements.
* `Session.Composed.openContext`, `Session.Composed.deleteFile` — contexts.
* `Session.Composed.migrate` — migrations.
-/

namespace EntityStore

open EntityStore.Engine (Database Handle Lock Program)
open EntityStore.Sql (Datum Statement)

/-- The event says that an operation has come to a phase. -/
structure Event.Reports (e : Event) (op : String) (phase : Phase) : Prop where
  op_eq : e.op = some op
  phase_eq : e.phase = some phase

namespace Session

variable {α β : Type} {id : Nat}

/-- What is reported at the start and at the end of an operation, and what its failures become. -/
structure Brackets (op : String) (α : Type) where
  start : Event
  finish : α → Event
  fail : Failure → Event
  note : Failure → Failure
  starts : start.Reports op .start
  finishes : ∀ a, (finish a).Reports op .finish
  fails : ∀ failure, (fail failure).Reports op .fail

def Brackets.around {op : String} (b : Brackets op α) (inner : Session α) : Session α := do
  report b.start
  match ← attempt inner with
  | .ok value =>
    report (b.finish value)
    return value
  | .error failure =>
    report (b.fail (b.note failure))
    throw (b.note failure)

def Brackets.close {op : String} (b : Brackets op α) : Except Failure α → Event
  | .ok a => b.finish a
  | .error failure => b.fail (b.note failure)

theorem Brackets.outcome_around {op : String} (b : Brackets op α) (inner : Session α) (w : World) :
    (b.around inner).outcome w =
      ((inner.outcome { w with log := b.start :: w.log }).1.mapError b.note,
        { (inner.outcome { w with log := b.start :: w.log }).2 with
          log := b.close (inner.outcome { w with log := b.start :: w.log }).1 ::
            (inner.outcome { w with log := b.start :: w.log }).2.log }) := by
  rw [around, outcome_bind_ok (outcome_report b.start w), outcome_bind_ok (outcome_attempt inner _)]
  rcases inner.outcome { w with log := b.start :: w.log } with ⟨result, v⟩
  cases result <;> rfl

/-- Operations that are put together of steps, remarks and brackets, and that look at the world but not
    at its secrets. -/
inductive Composed : {α : Type} → Session α → Prop
  | pure {α : Type} (a : α) : Composed (Pure.pure a)
  | throw {α : Type} (failure : Failure) : Composed (MonadExcept.throw failure : Session α)
  | step {α : Type} {op : Session α} (quiet : Quiet op) (blind : Blind op) : Composed op
  | remark {e : Event} (plain : e.phase = none) : Composed (report e)
  | look {α : Type} {next : World → Session α} (rest : ∀ w, Composed (next w))
      (blind : ∀ w, next w.concealed = next w) : Composed (MonadState.get >>= next)
  | bind {α β : Type} {op : Session α} {next : α → Session β} (first : Composed op)
      (rest : ∀ a, Composed (next a)) : Composed (op >>= next)
  | tryCatch {α : Type} {op : Session α} {handler : Failure → Session α} (first : Composed op)
      (handled : ∀ failure, Composed (handler failure)) : Composed (MonadExcept.tryCatch op handler)
  | brackets {α : Type} {op : String} (b : Brackets op α) {inner : Session α} (composed : Composed inner) :
      Composed (b.around inner)

namespace Composed

/-! ## Combinations -/

theorem map (f : α → β) {op : Session α} (composed : Composed op) : Composed (f <$> op) := by
  rw [← bind_pure_comp]
  exact composed.bind fun _ => .pure _

theorem attempt {op : Session α} (composed : Composed op) : Composed (attempt op) :=
  (composed.map _).tryCatch fun _ => .pure _

theorem annotate (note : Failure → Failure) {op : Session α} (composed : Composed op) :
    Composed (annotate note op) := composed.tryCatch fun _ => .throw _

theorem ofExcept (result : Except Failure α) : Composed (ofExcept result) := by
  cases result with
  | ok a => exact .pure a
  | error failure => exact .throw failure

theorem refuse (r : Refusal) : Composed (refuse r : Session α) := .throw _

theorem mapM {f : α → Session β} (each : ∀ a, Composed (f a)) (items : List α) :
    Composed (items.mapM f) := by
  induction items with
  | nil => exact .pure []
  | cons a rest ih =>
    rw [List.mapM_cons]
    exact (each a).bind fun _ => ih.bind fun _ => .pure _

theorem forM {f : α → Session PUnit} (each : ∀ a, Composed (f a)) (items : List α) :
    Composed (items.forM f) := by
  induction items with
  | nil => exact .pure PUnit.unit
  | cons a rest ih => exact (each a).bind fun _ => ih

theorem foldlM {f : β → α → Session β} (each : ∀ b a, Composed (f b a)) (items : List α) (b : β) :
    Composed (items.foldlM f b) := by
  induction items generalizing b with
  | nil => exact .pure b
  | cons a rest ih => exact (each b a).bind ih

theorem forIn {f : α → Session (ForInStep PUnit)} (each : ∀ a, Composed (f a)) (items : List α) :
    Composed (ForIn.forIn items PUnit.unit fun a _ => f a) := by
  induction items with
  | nil => exact .pure PUnit.unit
  | cons a rest ih =>
    rw [List.forIn_cons]
    refine (each a).bind fun next => ?_
    cases next with
    | done _ => exact .pure _
    | yield _ => exact ih

/-- What follows the look at a context must not depend on its secret. -/
theorem context {next : Context → Session α} (rest : ∀ c, Composed (next c))
    (blind : ∀ c, next c.concealed = next c) : Composed (context id >>= next) := by
  rw [Session.context, bind_assoc]
  simp only [pure_bind]
  refine .look (fun w => rest _) fun w => ?_
  rw [World.getD_concealed, blind]

theorem changes {f : World → World} (blind : ∀ w, f w.concealed = (f w).concealed)
    (log : ∀ w, (f w).log = w.log) (configs : ∀ w, (f w).configs = w.configs) :
    Composed (modify f : Session Unit) := .step (quiet_modify log configs) (blind_modify blind)

theorem modifyContext {f : Context → Context} (blind : ∀ c, f c.concealed = (f c).concealed)
    (kept : ∀ c, (f c).config = c.config) : Composed (modifyContext id f) :=
  .step (quiet_modifyContext kept id) (blind_modifyContext blind id)

/-! ## Statements -/

theorem connection : Composed (connection id) := by
  refine .context (fun c => ?_) fun _ => rfl
  cases c.connection with
  | some _ => exact .pure _
  | none => exact .throw _

theorem onHandle (step : List Lock → Handle → Except Refusal α × Handle) : Composed (onHandle id step) :=
  .bind .connection fun c => .step (quiet_handling c) (blind_handling c)

theorem nextFault (kind : Bool → Faults → Nat → Option Refusal) : Composed (nextFault id kind) :=
  .step (quiet_nextFault id kind) (blind_nextFault id kind)

theorem countStatement : Composed (countStatement id) := by
  refine .bind (.nextFault _) fun refusal => ?_
  cases refusal with
  | none => exact .pure _
  | some r => exact .refuse r

theorem isAutocommit : Composed (isAutocommit id) := .bind .connection fun _ => .pure _

theorem execute (p : Program) (parameters : List Datum) : Composed (execute id p parameters) :=
  .bind .countStatement fun _ => .onHandle _

theorem control (s : Statement) : Composed (control id s) := by
  refine .bind (.bind (.onHandle _) fun mayFail => ?_) fun _ => .onHandle _
  cases mayFail with
  | true => exact .nextFault _
  | false => exact .pure _

theorem prepare (text : String) (again : Bool) : Composed (prepare id text again) := by
  refine .bind (.onHandle _) fun db => ?_
  split
  · exact .pure _
  · exact .refuse _

theorem prepareOne (text : String) (again : Bool) : Composed (prepareOne id text again) := by
  refine .bind (.prepare _ _) fun prepared => ?_
  cases prepared with
  | some p => exact .pure p
  | none => exact .refuse _

theorem runPrepared (p : Prepared) : Composed (runPrepared id p) := by
  rw [Session.runPrepared]
  split
  · exact .bind (.execute _ _) fun _ => .pure _
  · exact .control _

theorem executeUpTo (count : Nat) (text : String) : Composed (executeUpTo id count text) := by
  induction count generalizing text with
  | zero => exact .pure _
  | succ count ih =>
    refine .bind (.prepare _ _) fun prepared => ?_
    cases prepared with
    | none => exact .pure _
    | some p =>
      refine .bind (.runPrepared p) fun _ => ?_
      split
      · exact .pure _
      · exact ih _

theorem executeBatch (text : String) : Composed (executeBatch id text) := .executeUpTo _ _

theorem runWith (p : Prepared) (parameters : List Datum) : Composed (runWith id p parameters) := by
  have checked : Composed (checkParameters p.parameters parameters.length) := by
    rw [checkParameters]
    split
    · exact .pure _
    · exact .refuse _
  refine .bind checked fun _ => ?_
  split
  · exact .execute _ _
  · exact .bind (.control _) fun _ => .pure _

theorem modifyKept (f : List String → List String) : Composed (modifyKept id f) :=
  .modifyContext (fun _ => rfl) fun _ => rfl

theorem prepareCached (text : String) : Composed (prepareCached id text) :=
  .bind .connection fun _ => .bind (.prepareOne _ _) fun _ => .bind (.modifyKept _) fun _ => .pure _

theorem flushStatements : Composed (flushStatements id) := .modifyKept _

theorem rows (p : Prepared) (parameters : List StoredValue) : Composed (rows id p parameters) :=
  .bind (.runWith _ _) fun _ => .pure _

theorem change (text : String) (parameters : List StoredValue) : Composed (change id text parameters) := by
  refine .bind (.prepareOne _ _) fun p => ?_
  dsimp only
  split
  · exact .bind (.refuse _) fun _ => .bind (.runWith _ _) fun _ => .pure _
  · exact .bind (.runWith _ _) fun _ => .pure _

/-! ## Contexts -/

theorem resolvePath : Composed (resolvePath id) := by
  refine .context (fun c => ?_) fun _ => rfl
  split
  · exact .throw _
  · refine .look (fun w => ?_) fun _ => rfl
    split
    · exact .throw _
    · exact .bind (.changes (fun _ => rfl) (fun _ => rfl) fun _ => rfl) fun _ =>
        .bind (.ofExcept _) fun _ => .pure _

theorem connectFile (path : String) : Composed (connectFile path) := by
  refine .look (fun w => ?_) fun _ => rfl
  split
  · exact .refuse _
  · exact .bind (.changes (fun _ => rfl) (fun _ => rfl) fun _ => rfl) fun _ => .pure _

theorem connect : Composed (connect id) := by
  refine .context (fun c => ?_) fun _ => rfl
  split
  · exact .pure _
  · exact .bind .resolvePath fun _ => .connectFile _

theorem executeBatch_key (secret : Secret) : Session.executeBatch id (keyStatement secret) = (do
    let _ ← database id
    Session.runPrepared id
      { statement := .setting, program := some .nothing, parameters := 0, rest := "" }) := by
  -- How often a batch may go on depends on the length of its text, but this one ends at once.
  obtain ⟨count, length⟩ : ∃ count, (keyStatement secret).length = count + 1 := by
    refine Nat.exists_eq_succ_of_ne_zero ?_
    rw [keyStatement, String.length_append]
    exact Nat.ne_of_gt (Nat.add_pos_left (by decide) _)
  have ended : ("".isEmpty : Bool) = true := rfl
  rw [Session.executeBatch, length, Session.executeUpTo, Session.prepare]
  simp only [prepareText_key, bind_assoc, pure_bind, ended, if_true, bind_pure_unit]

theorem configure : Composed (configure id) := by
  refine .context (fun c => ?_) fun c => ?_
  · split
    · exact .pure _
    · exact .tryCatch (.executeBatch _) fun _ =>
        .bind (.modifyContext (fun _ => rfl) fun _ => rfl) fun _ => .throw _
  · have secret : c.concealed.config.secret = c.config.secret.map Secret.concealed := rfl
    rw [secret]
    cases c.config.secret with
    | none => rfl
    | some secret =>
      refine congrArg (MonadExcept.tryCatch · _) ?_
      rw [executeBatch_key, executeBatch_key]

theorem openContext : Composed (openContext id) := by
  refine .context (fun c => ?_) fun _ => rfl
  split
  · exact .bind .connect fun _ => .bind (.modifyContext (fun _ => rfl) fun _ => rfl) fun _ =>
      .bind .configure fun _ => .bind (.modifyContext (fun _ => rfl) fun _ => rfl) fun _ =>
        .context (fun _ => .remark rfl) fun _ => rfl
  · exact .pure _

theorem closeContext : Composed (closeContext id) := by
  refine .context (fun c => ?_) fun _ => rfl
  split
  · exact .bind (.modifyContext (fun _ => rfl) fun _ => rfl) fun _ => .remark rfl
  · exact .pure _

theorem forceClose : Composed (forceClose id) := .modifyContext (fun _ => rfl) fun _ => rfl

theorem reopen : Composed (reopen id) :=
  .bind .closeContext fun _ => .bind (.modifyContext (fun _ => rfl) fun _ => rfl) fun _ => .openContext

theorem openNamed (name : String) : Composed (openNamed id name) :=
  .bind .closeContext fun _ => .bind (.modifyContext (fun _ => rfl) fun _ => rfl) fun _ => .openContext

theorem setUser (user : String) : Composed (setUser id user) := by
  refine .context (fun c => ?_) fun _ => rfl
  split
  · exact .bind .closeContext fun _ => .modifyContext (fun _ => rfl) fun _ => rfl
  · exact .pure _

theorem withConnection {op : Nat → Session α} (each : ∀ generation, Composed (op generation)) :
    Composed (withConnection id op) :=
  .bind .openContext fun _ => .context (fun _ => each _) fun _ => rfl

theorem isOpen : Composed (isOpen id) := .context (fun _ => .pure _) fun _ => rfl

theorem pathExists (path : String) : Composed (pathExists path) := .look (fun _ => .pure _) fun _ => rfl

theorem databaseExists : Composed (databaseExists id) := by
  refine .context (fun c => ?_) fun _ => rfl
  split
  · exact .isOpen
  · refine .bind (.attempt .resolvePath) fun result => ?_
    cases result with
    | ok path => exact .pathExists path
    | error _ => exact .pure _

theorem deleteFile : Composed (deleteFile id) := by
  refine .bind .closeContext fun _ => .context (fun c => ?_) fun _ => rfl
  dsimp only
  split
  · exact .pure _
  · refine .bind .resolvePath fun path => .bind (.pathExists path) fun there => ?_
    split
    · exact .pure _
    · refine .look (fun w => ?_) fun _ => rfl
      have removes : Composed (do
          modify fun w : World => { w with disk := w.disk.remove (pathParts path) }
          report { Event.remark .info "database deleted" [("path", path)] with tag := some c.tag }
          return true : Session Bool) :=
        .bind (.changes (fun _ => rfl) (fun _ => rfl) fun _ => rfl) fun _ =>
          .bind (.remark rfl) fun _ => .pure _
      split
      · exact .bind (.throw _) fun _ => removes
      · exact removes

theorem holdFile : Composed (holdFile id) :=
  .bind .resolvePath fun path => .bind (.connectFile path) fun _ =>
    .step (quiet_takeFile (pathParts path)) (blind_takeFile (pathParts path))

theorem releaseFiles : Composed releaseFiles := .changes (fun _ => rfl) (fun _ => rfl) fun _ => rfl

theorem versionOn : Composed (versionOn id) := .bind (.execute _ _) fun _ => .pure _

theorem bumpVersion : Composed (bumpVersion id) :=
  .bind .versionOn fun _ => .bind (.execute _ _) fun _ => .pure _

/-! ## Migrations -/

theorem finds (test : Database → Bool) : Composed (finds id test) :=
  .bind (.execute _ _) fun _ => .pure _

theorem liveColumns (table : String) : Composed (liveColumns id table) :=
  .bind (.execute _ _) fun _ => .pure _

theorem define (text : String) (report : MigrationReport) : Composed (define id text report) :=
  .bind (.remark rfl) fun _ => .bind (.executeBatch _) fun _ => .bind .bumpVersion fun _ => .pure _

theorem migrateTable (p : MappingPlan) : Composed (migrateTable id p) := by
  refine .bind (.finds _) fun there => ?_
  split
  · refine .bind (.liveColumns _) fun live => .foldlM (fun report c => ?_) _ _
    rw [addColumn]
    split
    · exact .pure _
    · exact .bind (.define _ _) fun _ => .pure _
  · exact .bind (.define _ _) fun _ => .pure _

theorem migrateWithin (p : MappingPlan) : Composed (migrateWithin id p) := by
  refine .bind (.migrateTable p) fun report => .bind (.foldlM (fun report c => ?_) _ _) fun report =>
    .bind (.remark rfl) fun _ => .pure _
  refine .bind (.finds _) fun there => ?_
  split
  · exact .pure _
  · exact .bind (.define _ _) fun _ => .pure _

theorem migrate (p : MappingPlan) : Composed (migrate id p) := by
  refine .bind (.control _) fun _ => .bind (.attempt (.migrateWithin p)) fun result => ?_
  cases result with
  | ok report => exact .bind (.control _) fun _ => .pure _
  | error failure =>
    exact .bind (.attempt (.bind (.control _) fun _ => .control _)) fun _ => .throw _

end Composed

end Session

end EntityStore
