import EntityStore.Proofs.Migration.Text
import EntityStore.Proofs.Transaction.Control
import EntityStore.Store.Migration

/-! # Steps of a migration

The statements of a migration inside a transaction, down to the savepoint of the migration itself:

* `Session.keeps_executeBatch` — a text with one definition.
* `Session.Defining` — a property that the statements of a migration keep.
* `Session.keeps_migrateWithin` — the definitions of a plan, whether or not one of them fails.
* `Session.migrate_inside` — a migration within another transaction is undone if it fails.
-/

namespace EntityStore

open EntityStore.Engine (Database Handle Program)

variable {Q : Database → Prop} {B : Bindings} {base : World} {id : Nat} {image current : Database} {begun : Bool}
  {points : List (String × Option Database)} {p : MappingPlan} {w : World}

theorem textQuery_keeps (find : Database → List String) : (textQuery find).Keeps Q :=
  fun _ _ holds => holds

namespace Session

open World (Inside)

/-! ## Single statements -/

theorem keeps_executeBatch {text : String} (alone : DefinesAlone text)
    (lasting : Database.Lasting Q) :
    Keeps (Inside Q B base id image begun points) (executeBatch id text) := by
  rw [executeBatch]
  cases text.length with
  | zero => exact .pure ()
  | succ count =>
    rw [executeUpTo]
    refine .bind_gives (Inside.withstands.prepare text false)
      (gives_prepare (fun _ _ => Inside.sees) text false) ?_
    rintro prepared ⟨db, _, read⟩
    obtain ⟨p, program, rfl, rest, prepares, kept⟩ := alone.prepared read lasting
    refine .bind ?_ fun _ => ?_
    · rw [runPrepared, prepares]
      exact .bind (keeps_execute kept []) fun _ => .pure ()
    · rw [rest]
      exact .pure ()

/-! ## The definitions of a plan -/

/-- A property of worlds that the statements of a migration keep, its savepoint apart: queries, the
    definitions of the plan, and counting them. -/
structure Defining (P : World → Prop) (id : Nat) (p : MappingPlan) : Prop where
  reports : ∀ e, Keeps P (report e)
  asks : ∀ find, Keeps P (execute id (textQuery find) [])
  defines : ∀ text ∈ p.definitions, Keeps P (executeBatch id text)
  counts : Keeps P (bumpVersion id)

namespace Defining

variable {P : World → Prop} (defining : Defining P id p)
include defining

theorem define {text : String} (member : text ∈ p.definitions) (report : MigrationReport) :
    Keeps P (define id text report) :=
  .bind (defining.reports _) fun _ => .bind (defining.defines text member) fun _ =>
    .bind defining.counts fun _ => .pure _

theorem finds (test : Database → Bool) : Keeps P (finds id test) :=
  .bind (defining.asks _) fun _ => .pure _

theorem addColumn (live : List String) (report : MigrationReport) {c : ColumnPlan}
    (member : c ∈ p.columns) : Keeps P (addColumn id p live report c) := by
  rw [Session.addColumn]
  split
  · exact .pure report
  · exact .bind (defining.define (MappingPlan.addColumn_mem member) report) fun _ => .pure _

theorem addIndex (report : MigrationReport) {c : ColumnPlan} (member : c ∈ p.indexedColumns) :
    Keeps P (addIndex id p report c) := by
  refine .bind (defining.finds _) fun present => ?_
  cases present with
  | true => exact .pure report
  | false => exact .bind (defining.define (MappingPlan.createIndex_mem member) report) fun _ => .pure _

theorem migrateTable : Keeps P (migrateTable id p) := by
  refine .bind (defining.finds _) fun present => ?_
  cases present with
  | true =>
    exact .bind (.bind (defining.asks _) fun _ => .pure _) fun live => .foldlM
      (fun report c member => defining.addColumn live report member) _
  | false => exact .bind (defining.define (List.mem_cons_self ..) _) fun _ => .pure _

theorem migrateWithin : Keeps P (migrateWithin id p) :=
  .bind defining.migrateTable fun report =>
    .bind (.foldlM (fun report _ member => defining.addIndex report member) report) fun report =>
      .bind (defining.reports _) fun _ => .pure report

/-- A migration keeps what the statements about its savepoint keep as well. -/
theorem migrate (controls : ∀ s, Keeps P (control id s)) : Keeps P (migrate id p) := by
  refine .bind (controls _) fun _ => .bind defining.migrateWithin.attempt fun result => ?_
  cases result with
  | ok report => exact .bind (controls _) fun _ => .pure report
  | error failure =>
    exact .bind (Keeps.attempt (.bind (controls _) fun _ => controls _)) fun _ => .throw _

end Defining

theorem Withstands.defining {Allows : Handle → Handle → Prop} {P : World → Prop}
    (withstands : Withstands Allows P id)
    (asks : ∀ q : Program, (∀ Q, q.Keeps Q) → ∀ others h, Allows h (h.run others q []).2)
    (defines : ∀ text ∈ p.definitions, Keeps P (Session.executeBatch id text))
    (counts : ∀ version others (h : Handle),
      Allows h (h.run others (.define fun db => { db with version := version }) []).2) :
    Defining P id p where
  reports := withstands.report
  asks _ := withstands.execute (asks _ fun _ => textQuery_keeps _)
  defines := defines
  counts := .bind (.bind (withstands.execute (asks _ fun _ _ _ holds => holds)) fun _ => .pure _)
    fun _ => .bind (withstands.execute (counts _)) fun _ => .pure _

theorem Withstands.migrate {P : World → Prop} (withstands : Withstands (fun _ _ => True) P id) :
    Keeps P (Session.migrate id p) :=
  (withstands.defining (fun _ _ _ _ => trivial)
    (fun _ _ => withstands.executeBatch (fun _ => True)
      (fun _ h prepared _ _ => ⟨prepared.allowedAt_true h [], fun _ => trivial⟩) trivial)
    fun _ _ _ => trivial).migrate fun _ => withstands.control fun _ _ _ => trivial

theorem keeps_migrateWithin (definite : p.Definite) (lasting : Database.Lasting Q) :
    Keeps (Inside Q B base id image begun points) (migrateWithin id p) :=
  Defining.migrateWithin <| Inside.withstands.defining
    (fun _ kept others _ within => within.run (kept Q) others [])
    (fun text member => keeps_executeBatch (definite text member) lasting)
    fun version others _ within =>
      within.run (.define fun db holds => lasting.version db version holds) others []

/-! ## The savepoint -/

variable {u v : World}

/-- The way of a migration whose definitions have all been run. -/
theorem outcome_migrate_ok {report : MigrationReport}
    (marked : (control id (.savepoint migrationPoint)).outcome w = (.ok (), u))
    (done : (migrateWithin id p).outcome u = (.ok report, v)) :
    (migrate id p).outcome w = (((control id (.release migrationPoint)).outcome v).1.map
      fun _ => report, ((control id (.release migrationPoint)).outcome v).2) := by
  rw [migrate, outcome_bind_ok marked, outcome_bind_ok (outcome_attempt _ u), done]
  rw [outcome_bind]
  rcases (control id (.release migrationPoint)).outcome v with ⟨result, x⟩
  cases result <;> rfl

theorem outcome_migrate_error {failure : Failure}
    (marked : (control id (.savepoint migrationPoint)).outcome w = (.ok (), u))
    (failed : (migrateWithin id p).outcome u = (.error failure, v)) :
    ∃ raised, (migrate id p).outcome w = (.error raised, ((do
      control id (.rollbackTo migrationPoint)
      control id (.release migrationPoint) : Session Unit).outcome v).2) := by
  rw [migrate, outcome_bind_ok marked, outcome_bind_ok (outcome_attempt _ u), failed]
  exact ⟨_, outcome_bind_ok (outcome_attempt _ v) _⟩

/-- A migration within another transaction either keeps what definitions keep, or it fails and
    nothing has changed. -/
theorem migrate_inside (definite : p.Definite) (lasting : Database.Lasting Q) (holds : Q current)
    (inside : Inside (· = current) B base id image begun points w) :
    (∃ report v, (migrate id p).outcome w = (.ok report, v)
        ∧ Inside Q B base id image begun points v)
      ∨ ∃ failure v, (migrate id p).outcome w = (.error failure, v)
        ∧ Inside (· = current) B base id image begun points v := by
  have enclosed : begun = true ∨ points ≠ [] := by
    obtain ⟨_, _, within⟩ := inside.handle
    exact within.rooted
  rcases control_savepoint inside migrationPoint with
    ⟨u, saved, marked, same, inside⟩ | ⟨failure, v, refused, inside⟩
  · have kept := keeps_migrateWithin definite lasting u (inside.imp fun db (same : db = current) => same ▸ holds)
    rcases done : (migrateWithin id p).outcome u with ⟨result, v⟩
    rw [done] at kept
    cases result with
    | ok report =>
      obtain ⟨x, released, inside⟩ := control_release enclosed kept
      have outcome := outcome_migrate_ok marked done
      rw [released] at outcome
      exact .inl ⟨report, x, outcome, inside⟩
    | error failure =>
      -- The rollback goes to the savepoint, which stays open and is released like any other.
      obtain ⟨x, undone, inside⟩ := control_rollbackTo (R := (· = current)) same kept
      obtain ⟨y, released, inside⟩ := control_release enclosed inside
      obtain ⟨raised, outcome⟩ := outcome_migrate_error marked done
      rw [outcome_bind_ok undone, released] at outcome
      exact .inr ⟨raised, y, outcome, inside⟩
  · exact .inr ⟨failure, v, outcome_bind_error refused _, inside⟩

theorem keeps_migrate (definite : p.Definite) (lasting : Database.Lasting Q) :
    Keeps (Inside Q B base id image begun points) (migrate id p) := by
  intro w inside
  obtain ⟨current, holds, here⟩ := inside.exact
  rcases migrate_inside definite lasting holds here with
    ⟨report, v, done, inside⟩ | ⟨failure, v, failed, inside⟩
  · rw [done]; exact inside
  · rw [failed]; exact inside.imp fun db (same : db = current) => same ▸ holds

end Session

end EntityStore
