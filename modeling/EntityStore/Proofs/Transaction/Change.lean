import EntityStore.Proofs.Transaction.Definition

/-! # Changes of rows inside a transaction

A change of rows ends a transaction only if it says so itself, or if a trigger does:

* `Database.Steady` — no trigger of a database undoes the whole transaction.
* `Database.Rowwise` — a property of databases that the rows of tables have no part in.
* `Ends` — what a change leaves, whether it goes through or stops.
* `prepareInsert_keeps`, `prepareUpdate_keeps`, `prepareDelete_keeps`, `query_keeps` — queries and
  changes keep what rows have no part in.
-/

namespace EntityStore.Engine

open EntityStore.Sql (ConflictAction Delete Insert Output RaiseAction Select TriggerDefinition
  TriggerEvent Update)

/-! ## Triggers that leave transactions open -/

/-- A trigger that never undoes the whole transaction. -/
def TriggerDefinition.Steady (d : TriggerDefinition) : Prop :=
  ∀ q ∈ d.steps, ∀ o ∈ q.outputs, ∀ message, raisedBy? o ≠ some (.rollback, message)

/-- No trigger undoes the whole transaction. -/
def Database.Steady (db : Database) : Prop := ∀ d ∈ db.triggers, TriggerDefinition.Steady d

/-- Tables, indexes, versions and names have no part in what triggers raise. -/
theorem Database.Steady.lasting : Database.Lasting Database.Steady where
  tables _ _ steady := steady
  indexes _ _ steady := steady
  version _ _ steady := steady
  renameTable db old new steady := by
    intro d member
    obtain ⟨before, listed, rfl⟩ := List.mem_map.mp member
    exact steady before listed

def Database.Rowwise (Q : Database → Prop) : Prop :=
  ∀ db t rows, t ∈ db.tables → Q db → Q (db.setTable { t with rows := rows })

theorem Database.Lasting.rowwise {Q : Database → Prop} (lasting : Database.Lasting Q) :
    Database.Rowwise Q := fun db _ _ _ holds => lasting.tables db _ holds

/-- A prepared trigger that never undoes the whole transaction. -/
def TriggerPlan.Steady (t : TriggerPlan) : Prop :=
  ∀ step ∈ t.steps, ∀ message, step.raise ≠ some (.rollback, message)

theorem mem_of_mapM {ε α β : Type} {f : α → Except ε β} {items : List α} {results : List β}
    (done : items.mapM f = .ok results) : ∀ b ∈ results, ∃ a ∈ items, f a = .ok b := by
  induction items generalizing results with
  | nil =>
    rw [List.mapM_nil] at done
    cases done
    exact fun b absent => absurd absent List.not_mem_nil
  | cons a rest ih =>
    rw [List.mapM_cons] at done
    obtain ⟨first, head, done⟩ := bind_eq_ok done
    obtain ⟨others, tail, done⟩ := bind_eq_ok done
    cases done
    intro b member
    rcases List.mem_cons.mp member with rfl | member
    · exact ⟨a, List.mem_cons_self .., head⟩
    · obtain ⟨item, listed, done⟩ := ih tail b member
      exact ⟨item, List.mem_cons_of_mem _ listed, done⟩

theorem prepareStep_raise {db : Database} {sources : List Source} {q : Select} {s : TriggerStep}
    (prepared : prepareStep db sources q = .ok s) : s.raise = q.outputs.findSome? raisedBy? := by
  obtain ⟨_, _, prepared⟩ := bind_eq_ok prepared
  obtain ⟨_, _, prepared⟩ := bind_eq_ok prepared
  obtain ⟨_, _, done⟩ := bind_eq_ok prepared
  cases done
  rfl

theorem prepareTrigger_steady {db : Database} {t : Table} {d : TriggerDefinition}
    {plan : TriggerPlan} (steady : TriggerDefinition.Steady d)
    (prepared : prepareTrigger db t d = .ok plan) : plan.Steady := by
  obtain ⟨_, _, prepared⟩ := bind_eq_ok prepared
  obtain ⟨steps, each, done⟩ := bind_eq_ok prepared
  cases done
  intro step member message raised
  obtain ⟨q, listed, prepared⟩ := mem_of_mapM each step member
  rw [prepareStep_raise prepared] at raised
  obtain ⟨o, output, raised⟩ := List.exists_of_findSome?_eq_some raised
  exact steady q listed o output message raised

theorem prepareTriggers_steady {db : Database} {t : Table} {change : TriggerEvent} {before : Bool}
    {plans : List TriggerPlan} (steady : db.Steady)
    (prepared : prepareTriggers db t change before = .ok plans) : ∀ p ∈ plans, p.Steady := by
  intro plan member
  obtain ⟨d, listed, one⟩ := mem_of_mapM prepared plan member
  cases found : prepareTrigger db t d with
  | error fault => rw [found] at one; cases one
  | ok found' =>
    rw [found] at one
    cases one
    exact prepareTrigger_steady (steady d (List.mem_filter.mp listed).1) found

/-- Triggers that never undo the whole transaction. -/
structure Triggers.Steady (triggers : Triggers) : Prop where
  before : ∀ t ∈ triggers.before, t.Steady
  after : ∀ t ∈ triggers.after, t.Steady

theorem triggersAround_steady {db : Database} {t : Table} {change : TriggerEvent}
    {triggers : Triggers} (steady : db.Steady)
    (prepared : triggersAround db t change = .ok triggers) : triggers.Steady := by
  obtain ⟨before, first, prepared⟩ := bind_eq_ok prepared
  obtain ⟨after, second, done⟩ := bind_eq_ok prepared
  cases done
  exact ⟨prepareTriggers_steady steady first, prepareTriggers_steady steady second⟩

/-! ## What changes leave -/

/-- What goes through meets `R`; what stops keeps `Q` and leaves the transaction open. -/
def Ends {α : Type} (Q : Database → Prop) (R : α → Prop) : Except Stop α → Prop
  | .ok a => R a
  | .error stop => stop.effect.Keeps Q

section Ends

variable {α β : Type} {Q : Database → Prop} {R : α → Prop} {S : β → Prop} {db : Database}

theorem Ends.bind {r : Except Stop α} {next : α → Except Stop β} (first : Ends Q R r)
    (rest : ∀ a, R a → Ends Q S (next a)) : Ends Q S (r >>= next) := by
  cases r with
  | ok a => exact rest a first
  | error stop => exact first

theorem Ends.imp {r : Except Stop α} {S : α → Prop} (ends : Ends Q R r)
    (weaker : ∀ a, R a → S a) : Ends Q S r := by
  cases r with
  | ok a => exact weaker a ends
  | error stop => exact ends

theorem Ends.foldlM {step : β → α → Except Stop β} (steps : ∀ b a, S b → Ends Q S (step b a))
    (items : List α) : ∀ b, S b → Ends Q S (items.foldlM step b) := by
  induction items with
  | nil => exact fun b holds => holds
  | cons a rest ih => exact fun b holds => (steps b a holds).bind ih

theorem Ends.stopOn (r : Except Fault α) : Ends Q (fun _ => True) (stopOn r) := by
  cases r with
  | ok a => exact trivial
  | error fault => exact trivial

theorem ends_raiseError (holds : Q db) {action : RaiseAction} (other : action ≠ .rollback)
    (message : String) : Ends Q (fun _ => True) (raiseError db action message) := by
  cases action with
  | ignore => exact trivial
  | abort => exact trivial
  | fail => exact holds
  | rollback => exact absurd rfl other

theorem ends_runSteps (holds : Q db) (row : Row) (steps : List TriggerStep)
    (steady : ∀ step ∈ steps, ∀ message, step.raise ≠ some (.rollback, message)) :
    Ends Q (fun _ => True) (runSteps db row steps) := by
  induction steps with
  | nil => exact trivial
  | cons step rest ih =>
    have later := ih fun step member => steady step (List.mem_cons_of_mem _ member)
    rw [runSteps]
    refine (Ends.stopOn _).bind fun rows _ => ?_
    cases raised : step.raise with
    | none => exact later
    | some raise =>
      obtain ⟨action, message⟩ := raise
      dsimp only
      -- A raise whose condition holds for no row is passed over.
      split
      · have other : action ≠ .rollback := by
          rintro rfl
          exact steady step (List.mem_cons_self ..) message raised
        refine (ends_raiseError holds other message).bind fun goesOn _ => ?_
        cases goesOn with
        | true => exact later
        | false => exact trivial
      · exact later

theorem ends_fire (holds : Q db) (row : Row) (triggers : List TriggerPlan)
    (steady : ∀ t ∈ triggers, t.Steady) : Ends Q (fun _ => True) (fire db row triggers) := by
  induction triggers with
  | nil => exact trivial
  | cons t rest ih =>
    have later := ih fun t member => steady t (List.mem_cons_of_mem _ member)
    rw [fire]
    split
    · refine (ends_runSteps holds row t.steps (steady t (List.mem_cons_self ..))).bind
        fun goesOn _ => ?_
      cases goesOn with
      | true => exact later
      | false => exact trivial
    · exact later

theorem ends_breakConstraint {action : ConflictAction} (holds : Q db)
    (other : action ≠ .rollback) (text : String) {R : Option α → Prop} (leftOut : R none) :
    Ends Q R (breakConstraint action db text) := by
  cases action with
  | abort => exact trivial
  | fail => exact holds
  | ignore => exact leftOut
  | replace => exact trivial
  | rollback => exact absurd rfl other

def Restocked (t : Table) (room : Option Table) : Prop :=
  ∀ u, room = some u → ∃ rows, u = { t with rows := rows }

theorem Restocked.erased {t : Table} {others : List Row} {room : Option Table}
    (restocked : Restocked (others.foldl (fun t other => t.erase (t.keyOf other)) t) room) :
    Restocked t room := by
  induction others generalizing t with
  | nil => exact restocked
  | cons other rest ih =>
    intro u same
    obtain ⟨rows, rfl⟩ := ih restocked u same
    exact ⟨rows, rfl⟩

theorem ends_makeRoom {action : ConflictAction} (holds : Q db) (other : action ≠ .rollback)
    (own : Option Row) (row : Row) (demands : List (List Nat × Bool)) (t : Table) :
    Ends Q (Restocked t) (makeRoom action db own row demands t) := by
  induction demands generalizing t with
  | nil =>
    rintro _ ⟨⟩
    exact ⟨_, rfl⟩
  | cons demand rest ih =>
    obtain ⟨places, isKey⟩ := demand
    rw [makeRoom]
    split
    · exact ih t
    · split
      · exact (ih _).imp fun room => Restocked.erased
      · exact ends_breakConstraint holds other _ nofun

end Ends

/-! ## Programs -/

section Programs

variable {Q : Database → Prop}

/-- A change between triggers that leave transactions open. -/
theorem ends_changeBetween {triggers : Triggers} (steady : triggers.Steady) {p : Progress}
    (holds : Q p.database) (before after : Row) {change : Except Stop (Option Database)}
    (changes : Ends Q (fun stored => ∀ next, stored = some next → Q next) change) :
    Ends Q (fun p => Q p.database) (changeBetween triggers p before after change) := by
  refine (ends_fire holds before triggers.before steady.before).bind fun goesOn _ => ?_
  cases goesOn with
  | false => exact holds
  | true =>
    refine changes.bind fun stored kept => ?_
    cases stored with
    | none => exact holds
    | some next =>
      have holdsNext := kept next rfl
      exact (ends_fire holdsNext after triggers.after steady.after).bind fun _ _ => holdsNext

theorem ends_checkRowId (t : Table) (row : Row) :
    Ends Q (fun _ => True) (checkRowId t row) := by
  simp only [checkRowId]
  split
  · exact trivial
  · split
    · exact trivial
    · exact trivial

theorem keeps_of_ends {α : Type} {items : List Sql.Datum → Database → List α}
    {step : List Sql.Datum → Progress → α → Except Stop Progress}
    (steps : ∀ parameters p a, Q p.database →
      Ends Q (fun p => Q p.database) (step parameters p a)) :
    Program.Keeps Q { run := fun parameters db => do
      let progress ← (items parameters db).foldlM (step parameters) ⟨db, 0⟩
      return progress.outcome } := by
  intro parameters db holds
  have ends := Ends.foldlM (fun p a holds => steps parameters p a holds) (items parameters db)
    ⟨db, 0⟩ holds
  cases done : (items parameters db).foldlM (step parameters) ⟨db, 0⟩ with
  | ok p => simp only [done] at ends ⊢; exact ends
  | error stop => simp only [done] at ends ⊢; exact ends

variable (rowwise : Database.Rowwise Q)
include rowwise

theorem ends_storeRow {action : ConflictAction} {db : Database} (holds : Q db)
    (other : action ≠ .rollback) {t : Table} (member : t ∈ db.tables) (own : Option Row)
    (row : Row) : Ends Q (fun stored => ∀ next, stored = some next → Q next)
      (storeRow action db t own row) := by
  simp only [storeRow]
  split
  · cases action with
    | abort => exact trivial
    | fail => exact holds
    | ignore => exact nofun
    | replace => exact trivial
    | rollback => exact absurd rfl other
  · refine (ends_makeRoom holds other own _ _ t).bind fun room restocked => ?_
    cases room with
    | none => exact nofun
    | some u =>
      obtain ⟨rows, rfl⟩ := restocked u rfl
      rintro next ⟨⟩
      cases own with
      | none => exact rowwise db t _ member holds
      | some key => exact rowwise db t _ member holds

theorem ends_insertOne {action : ConflictAction} (other : action ≠ .rollback) (name : String)
    (places : List Nat) {triggers : Triggers} (steady : triggers.Steady) (p : Progress)
    (values : Row) (holds : Q p.database) :
    Ends Q (fun p => Q p.database) (insertOne action name places triggers p values) := by
  rw [insertOne]
  split
  · exact holds
  · next found =>
      refine (ends_checkRowId _ _).bind fun row _ => ends_changeBetween steady holds _ _ ?_
      exact ends_storeRow rowwise holds other (List.mem_of_find?_eq_some found) none row

theorem prepareInsert_keeps {db : Database} (steady : db.Steady) {change : Insert}
    (other : change.onConflict ≠ .rollback) {p : Program}
    (prepared : prepareInsert db change = .ok p) : p.Keeps Q := by
  obtain ⟨t, _, prepared⟩ := bind_eq_ok prepared
  obtain ⟨places, _, prepared⟩ := bind_eq_ok prepared
  obtain ⟨rows, _, prepared⟩ := bind_eq_ok prepared
  obtain ⟨_, _, prepared⟩ := bind_eq_ok prepared
  obtain ⟨_, _, prepared⟩ := bind_eq_ok prepared
  obtain ⟨triggers, around, done⟩ := bind_eq_ok prepared
  cases done
  exact keeps_of_ends fun _ => ends_insertOne rowwise other t.name places
    (triggersAround_steady steady around)

theorem ends_updateOne {action : ConflictAction} (other : action ≠ .rollback) (name : String)
    (assignments : List (Nat × Term)) {triggers : Triggers} (steady : triggers.Steady)
    (parameters : List Sql.Datum) (p : Progress) (key : Row) (holds : Q p.database) :
    Ends Q (fun p => Q p.database)
      (updateOne action name assignments triggers parameters p key) := by
  rw [updateOne]
  split
  · exact holds
  · next found =>
    split
    · exact holds
    · refine (ends_checkRowId _ _).bind fun row _ => ends_changeBetween steady holds _ _ ?_
      exact ends_storeRow rowwise holds other (List.mem_of_find?_eq_some found) (some key) row

theorem prepareUpdate_keeps {db : Database} (steady : db.Steady) {change : Update}
    (other : change.onConflict ≠ .rollback) {p : Program}
    (prepared : prepareUpdate db change = .ok p) : p.Keeps Q := by
  obtain ⟨t, _, prepared⟩ := bind_eq_ok prepared
  obtain ⟨assignments, _, prepared⟩ := bind_eq_ok prepared
  obtain ⟨condition, _, prepared⟩ := bind_eq_ok prepared
  obtain ⟨triggers, around, done⟩ := bind_eq_ok prepared
  cases done
  exact keeps_of_ends (ends_updateOne rowwise other t.name assignments
    (triggersAround_steady steady around))

theorem ends_deleteOne (name : String) {triggers : Triggers} (steady : triggers.Steady)
    (p : Progress) (key : Row) (holds : Q p.database) :
    Ends Q (fun p => Q p.database) (deleteOne name triggers p key) := by
  rw [deleteOne]
  split
  · exact holds
  · next t found =>
    split
    · exact holds
    · refine ends_changeBetween steady holds _ _ ?_
      rintro next ⟨⟩
      exact rowwise _ t _ (List.mem_of_find?_eq_some found) holds

theorem prepareDelete_keeps {db : Database} (steady : db.Steady) {change : Delete} {p : Program}
    (prepared : prepareDelete db change = .ok p) : p.Keeps Q := by
  obtain ⟨t, _, prepared⟩ := bind_eq_ok prepared
  obtain ⟨triggers, around, prepared⟩ := bind_eq_ok prepared
  obtain ⟨condition, _, done⟩ := bind_eq_ok prepared
  cases done
  exact keeps_of_ends fun _ => ends_deleteOne rowwise t.name (triggersAround_steady steady around)

omit rowwise in
/-- A query changes nothing. -/
theorem query_keeps (q : Query) : q.program.Keeps Q := by
  intro parameters db holds
  simp only [Query.program]
  cases q.run parameters db with
  | ok rows => exact holds
  | error fault => exact trivial

end Programs

end EntityStore.Engine
