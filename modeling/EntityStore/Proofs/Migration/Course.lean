import EntityStore.Proofs.Migration.Definition
import EntityStore.Proofs.Migration.Atomicity
import EntityStore.Proofs.Value.Text

/-! # The course of a migration

What a migration that succeeds makes of the database that its connection sees, and what it reports:

* `Session.Makes` — an operation that succeeds takes what a connection sees to something else.
* `Brings`, `Folds` — one definition, unless it is there already, and one after the other.
* `MappingPlan.Migrates` — what a whole migration does, as a relation.
* `Session.makes_migrate` — a migration that succeeds does that.
-/

namespace EntityStore

open EntityStore.Engine (Database Handle Lock Program Outcome Transaction)
open EntityStore.Sql (Datum)

/-! ## Steps of the engine -/

namespace Engine.Handle

variable {h next : Handle} {others : List Lock} {p : Program} {parameters : List Datum}

theorem runAlone_ok {outcome : Outcome} (ran : h.runAlone others p parameters = (.ok outcome, next)) :
    p.run parameters h.image = .ok outcome
      ∧ next = if p.writes then { h with image := outcome.database } else h := by
  cases writes : p.writes with
  | true =>
    simp only [runAlone, writes, ↓reduceIte] at ran ⊢
    split at ran
    · cases ran
    · split at ran
      · next done =>
        split at ran
        · cases ran; exact ⟨done, rfl⟩
        · cases ran
      · split at ran
        · split at ran <;> cases ran
        · cases ran
  | false =>
    simp only [runAlone, writes, Bool.false_eq_true, ↓reduceIte] at ran ⊢
    split at ran
    · cases ran
    · split at ran
      · next done => cases ran; exact ⟨done, rfl⟩
      · split at ran
        · split at ran <;> cases ran
        · cases ran

theorem runWithin_ok {t : Transaction} {outcome : Outcome}
    (ran : h.runWithin t others p parameters = (.ok outcome, next)) :
    p.run parameters h.current = .ok outcome ∧ ∃ u, next = { h with transaction := some u }
      ∧ u.changed = if p.writes then some outcome.database else t.changed := by
  cases writes : p.writes with
  | true =>
    simp only [runWithin, writes, ↓reduceIte] at ran ⊢
    split at ran
    · cases ran
    · split at ran
      · next done => cases ran; exact ⟨done, _, rfl, rfl⟩
      · split at ran <;> cases ran
  | false =>
    simp only [runWithin, writes, Bool.false_eq_true, ↓reduceIte] at ran ⊢
    split at ran
    · cases ran
    · cases done : p.run parameters h.current with
      | ok found => rw [done] at ran; cases ran; exact ⟨rfl, _, rfl, rfl⟩
      | error stop => rw [done] at ran; cases ran

/-- What a statement that succeeds makes of the database that its connection sees. -/
theorem run_ok {outcome : Outcome} (ran : h.run others p parameters = (.ok outcome, next)) :
    p.run parameters h.current = .ok outcome
      ∧ next.current = if p.writes then outcome.database else h.current := by
  cases opened : h.transaction with
  | none =>
    have same : h.current = h.image := by simp only [Handle.current, opened]; rfl
    simp only [Handle.run, opened] at ran
    obtain ⟨done, rfl⟩ := runAlone_ok ran
    refine ⟨same ▸ done, ?_⟩
    cases p.writes with
    | true => simp only [Handle.current, opened]; rfl
    | false => rfl
  | some t =>
    have same : t.changed.getD h.image = h.current := by simp only [Handle.current, opened]; rfl
    simp only [Handle.run, opened] at ran
    obtain ⟨done, u, rfl, changed⟩ := runWithin_ok ran
    refine ⟨done, ?_⟩
    rw [current_some, changed]
    cases p.writes with
    | true => rfl
    | false => exact same

/-- Giving up a savepoint does not change what the connection sees. -/
theorem release_ok {name : String} (released : h.release others name = (.ok (), next)) : next.current = h.current := by
  cases opened : h.transaction with
  | none => simp only [Handle.release, opened] at released; cases released
  | some t =>
    have same : t.changed.getD h.image = h.current := by simp only [Handle.current, opened]; rfl
    simp only [Handle.release, opened] at released
    split at released
    · cases released
    · split at released
      · rcases commitChanges_cases h t others with done | ⟨r, refused⟩
        · rw [done] at released
          cases released
          exact same
        · rw [refused] at released
          cases released
      · cases released
        exact same

theorem savepoint_current (h : Handle) (name : String) :
    (h.savepoint name).current = h.current := by
  cases opened : h.transaction with
  | none => simp only [Handle.savepoint, Handle.current, opened]; rfl
  | some t => simp only [Handle.savepoint, Handle.current, opened]; rfl

end Engine.Handle

/-- One thing after the other, each of which takes a state to the next. -/
inductive Folds {α σ : Type} (R : α → σ → σ → Prop) : List α → σ → σ → Prop where
  | nil (s : σ) : Folds R [] s s
  | cons {a : α} {rest : List α} {s t u : σ} : R a s t → Folds R rest t u → Folds R (a :: rest) s u

namespace Session

variable {α β γ : Type} {id : Nat} {p : MappingPlan} {c : ColumnPlan}

/-! ## What operations make of databases -/

/-- If the operation succeeds, the connection of the context sees afterwards what the relation says,
    with the result between. -/
def Makes (id : Nat) (op : Session α) (R : Database → α → Database → Prop) : Prop :=
  ∀ w db a v, w.seen id = some db → op.outcome w = (.ok a, v) → ∃ next, v.seen id = some next ∧ R db a next

section
variable {R : Database → α → Database → Prop} {op : Session α}

theorem Makes.imp {S : Database → α → Database → Prop} (makes : Makes id op R)
    (weaker : ∀ db a next, R db a next → S db a next) : Makes id op S := by
  intro w db a v seen done
  obtain ⟨next, after, related⟩ := makes w db a v seen done
  exact ⟨next, after, weaker db a next related⟩

theorem Makes.pure (a : α) : Makes id (Pure.pure a) fun db b next => b = a ∧ next = db := by
  rintro w db _ v seen ⟨⟩
  exact ⟨db, seen, rfl, rfl⟩

theorem Makes.bind {next : α → Session β} {S : α → Database → β → Database → Prop}
    (first : Makes id op R) (rest : ∀ a, Makes id (next a) (S a)) :
    Makes id (op >>= next) fun db b last => ∃ a mid, R db a mid ∧ S a mid b last := by
  intro w db b v seen done
  obtain ⟨a, u, ran, done⟩ := outcome_bind_inv done
  obtain ⟨mid, between, here⟩ := first w db a u seen ran
  obtain ⟨last, after, there⟩ := rest a u mid b v between done
  exact ⟨last, after, a, mid, here, there⟩

/-- A change of the world that the databases are no part of. -/
theorem Makes.aside {f : World → World} (disk : ∀ w, (f w).disk = w.disk)
    (contexts : ∀ w, (f w).contexts = w.contexts) (bindings : ∀ w, (f w).bindings = w.bindings) :
    Makes id (modify f : Session Unit) fun db _ next => next = db := by
  rintro w db _ v seen ⟨⟩
  have handle : (f w).handleOf id = w.handleOf id :=
    (World.Step.aside (disk w) (contexts w) (bindings w)).2
  exact ⟨db, by rw [World.seen, handle, ← World.seen, seen], rfl⟩

end

theorem Makes.foldlM {step : β → α → Session β} {R : α → β × Database → β × Database → Prop}
    {items : List α}
    (each : ∀ b, ∀ a ∈ items, Makes id (step b a) fun db b' next => R a (b, db) (b', next)) (b : β) :
    Makes id (items.foldlM step b) fun db b' next => Folds R items (b, db) (b', next) := by
  induction items generalizing b with
  | nil =>
    refine (Makes.pure b).imp ?_
    rintro db _ _ ⟨rfl, rfl⟩
    exact .nil _
  | cons a rest ih =>
    rw [List.foldlM_cons]
    refine (Makes.bind (each b a (List.mem_cons_self ..)) fun b' =>
      ih (fun b a member => each b a (List.mem_cons_of_mem _ member)) b').imp ?_
    rintro db b' next ⟨b₁, mid, here, there⟩
    exact .cons here there

/-! ## Single statements -/

theorem makes_onHandle {step : List Lock → Handle → Except Refusal α × Handle}
    {R : Database → α → Database → Prop}
    (steps : ∀ others h a next, step others h = (.ok a, next) → R h.current a next.current) :
    Makes id (onHandle id step) R := by
  intro w db a v seen done
  obtain ⟨h, found, rfl⟩ := Option.map_eq_some_iff.mp seen
  obtain ⟨others, u, ran, after, _⟩ := onHandle_steps found step
  rw [ran] at done
  rcases stepped : step others h with ⟨result, next⟩
  rw [stepped] at done after
  cases result with
  | error r => cases done
  | ok b =>
    cases done
    exact ⟨next.current, by rw [World.seen, after]; rfl, steps others h a next stepped⟩

theorem makes_countStatement : Makes id (countStatement id) fun db _ next => next = db := by
  intro w db a v seen done
  rw [outcome_countStatement, Prod.mk.injEq] at done
  obtain ⟨_, rfl⟩ := done
  exact ⟨db, seen, rfl⟩

theorem makes_report (e : Event) : Makes id (report e) fun db _ next => next = db :=
  .aside (fun _ => rfl) (fun _ => rfl) fun _ => rfl

theorem makes_database : Makes id (database id) fun db found next => found = db ∧ next = db := by
  refine makes_onHandle ?_
  rintro others h _ _ ⟨⟩
  exact ⟨rfl, rfl⟩

theorem makes_execute (program : Program) (parameters : List Datum) :
    Makes id (execute id program parameters) fun db outcome next =>
      program.run parameters db = .ok outcome
        ∧ next = if program.writes then outcome.database else db := by
  have runs : Makes id (onHandle id fun others h => h.run others program parameters)
      fun db outcome next => program.run parameters db = .ok outcome
        ∧ next = if program.writes then outcome.database else db :=
    makes_onHandle fun _ _ _ _ ran => Handle.run_ok ran
  refine (Makes.bind makes_countStatement fun _ => runs).imp ?_
  rintro db outcome next ⟨_, _, rfl, ran⟩
  exact ran

/-- A savepoint is marked or given up, and the connection sees what it has seen. -/
theorem makes_control {s : Sql.Statement}
    (steps : ∀ others (h next : Handle), h.control others s = (.ok (), next) →
      next.current = h.current) : Makes id (control id s) fun db _ next => next = db := by
  intro w db a v seen done
  obtain ⟨h, found, rfl⟩ := Option.map_eq_some_iff.mp seen
  obtain ⟨result, u, ran, _, cases⟩ := control_cases found s
  rw [ran] at done
  cases done
  rcases cases with ⟨_, r, absurd, _⟩ | ⟨others, succeeds, after⟩
  · cases absurd
  · rcases stepped : h.control others s with ⟨result, next⟩
    rw [stepped] at succeeds after
    cases result with
    | error r => cases succeeds
    | ok _ => exact ⟨next.current, by rw [World.seen, after]; rfl, steps others h next stepped⟩

theorem makes_savepoint (name : String) :
    Makes id (control id (.savepoint name)) fun db _ next => next = db := by
  refine makes_control ?_
  rintro others h _ ⟨⟩
  exact Handle.savepoint_current h name

theorem makes_release (name : String) :
    Makes id (control id (.release name)) fun db _ next => next = db :=
  makes_control fun _ _ _ released => Handle.release_ok released

theorem makes_executeBatch {text : String} {R : Database → Database → Prop} (effects : Effects text R) :
    Makes id (executeBatch id text) fun db _ next => R db next := by
  intro w db a v seen done
  rw [executeBatch] at done
  cases length : text.length with
  | zero =>
    obtain ⟨p, _, absurd, _⟩ := effects db false none (text_empty length ▸ prepareText_empty db false)
    cases absurd
  | succ count =>
    rw [length, executeUpTo] at done
    obtain ⟨prepared, u, read, done⟩ := outcome_bind_inv done
    rw [prepare] at read
    obtain ⟨found, u', looked, read⟩ := outcome_bind_inv read
    obtain ⟨_, seen, rfl, rfl⟩ := makes_database w db found u' seen looked
    cases prepares : prepareText _ text false with
    | error r => rw [prepares] at read; cases read
    | ok _ =>
      rw [prepares] at read
      cases read
      obtain ⟨p, program, rfl, rest, compiled, makes⟩ := effects _ _ _ prepares
      -- Nothing is left of the text after the one definition.
      obtain ⟨_, x, ran, done⟩ := outcome_bind_inv done
      rw [runPrepared, compiled] at ran
      obtain ⟨outcome, x, ran, same⟩ := outcome_bind_inv ran
      cases same
      obtain ⟨next, after, outcome_eq, rfl⟩ := makes_execute program [] u _ outcome x seen ran
      rw [rest] at done
      cases done
      rw [Program.Makes, outcome_eq] at makes
      exact ⟨_, after, makes⟩

end Session

/-! ## A migration as a relation -/

def Engine.Database.counted (db : Database) : Database :=
  { db with version := Session.versionOf (db.version.toInt + 1) }

abbrev Migrating := MigrationReport × Database

/-- One definition is run and counted, unless it is present already. -/
def Brings (present : Database → Prop) (R : Database → Database → Prop)
    (note : MigrationReport → MigrationReport) (s t : Migrating) : Prop :=
  (present s.2 ∧ t = s) ∨ (¬ present s.2 ∧ ∃ next, R s.2 next
    ∧ t = (note { s.1 with ddlCount := s.1.ddlCount + 1 }, next.counted))

namespace MappingPlan

variable (p : MappingPlan)

def liveIn (db : Database) : List String := (db.columnNames p.table).map Text.lowercase

def BringsColumn (live : List String) (c : ColumnPlan) : Migrating → Migrating → Prop :=
  Brings (fun _ => Text.lowercase c.column ∈ live) (p.Widens c)
    fun r => { r with addedColumns := r.addedColumns ++ [c.column] }

def BringsIndex (c : ColumnPlan) : Migrating → Migrating → Prop :=
  Brings (fun db => db.hasIndex (c.indexName p.table) = true) (p.Indexes c)
    fun r => { r with createdIndexes := r.createdIndexes ++ [c.indexName p.table] }

/-- The table is created if there is none of exactly its name, else it gets the columns that it
    lacks. -/
def BringsTable (db : Database) (t : Migrating) : Prop :=
  (db.hasTable p.table = true
      ∧ Folds (p.BringsColumn (p.liveIn db)) p.columns ({ table := p.table }, db) t)
    ∨ (db.hasTable p.table = false ∧ ∃ next, p.Creates db next
      ∧ t = ({ table := p.table, created := true, ddlCount := 1 }, next.counted))

def Migrates (db : Database) (report : MigrationReport) (next : Database) : Prop :=
  ∃ t, p.BringsTable db t ∧ Folds p.BringsIndex p.indexedColumns t (report, next)

end MappingPlan

/-! ## Migrations do that -/

namespace Session

variable {id : Nat} {p : MappingPlan} {c : ColumnPlan}

theorem makes_finds (test : Database → Bool) :
    Makes id (finds id test) fun db found next => found = test db ∧ next = db := by
  refine (Makes.bind (makes_execute _ _) fun outcome => Makes.pure _).imp ?_
  rintro db found next ⟨outcome, mid, ⟨ran, rfl⟩, rfl, rfl⟩
  cases ran
  refine ⟨?_, rfl⟩
  dsimp only
  cases test next <;> rfl

theorem makes_liveColumns : Makes id (liveColumns id p.table) fun db live next =>
    live = p.liveIn db ∧ next = db := by
  refine (Makes.bind (makes_execute _ _) fun outcome => Makes.pure _).imp ?_
  rintro db live next ⟨outcome, mid, ⟨ran, rfl⟩, rfl, rfl⟩
  cases ran
  exact ⟨Datum.readText_rows Text.lowercase (next.columnNames p.table), rfl⟩

theorem makes_versionOn : Makes id (versionOn id) fun db version next =>
    version = db.version.toInt ∧ next = db := by
  refine (Makes.bind (makes_execute _ _) fun outcome => Makes.pure _).imp ?_
  rintro db version next ⟨outcome, mid, ⟨ran, rfl⟩, rfl, rfl⟩
  cases ran
  refine ⟨?_, rfl⟩
  have small := next.version.toInt_lt
  have large := next.version.le_toInt
  exact Int64.toInt_ofInt_of_le (by omega) (by omega)

theorem makes_bumpVersion : Makes id (bumpVersion id) fun db _ next => next = db.counted := by
  refine (Makes.bind makes_versionOn fun version => Makes.bind (makes_execute _ _)
    fun outcome => Makes.pure _).imp ?_
  rintro db _ _ ⟨version, mid, ⟨rfl, rfl⟩, outcome, last, ⟨ran, rfl⟩, _, rfl⟩
  cases ran
  rfl

theorem makes_define {text : String} {R : Database → Database → Prop} (effects : Effects text R)
    (report : MigrationReport) : Makes id (define id text report) fun db r next =>
      r = { report with ddlCount := report.ddlCount + 1 } ∧ ∃ mid, R db mid ∧ next = mid.counted := by
  refine (Makes.bind (makes_report _) fun _ => Makes.bind (makes_executeBatch effects)
    fun _ => Makes.bind makes_bumpVersion fun _ => Makes.pure _).imp ?_
  rintro db r next ⟨_, _, rfl, _, mid, related, _, last, rfl, rfl, rfl⟩
  exact ⟨rfl, mid, related, rfl⟩

section
variable (named : p.Named)
include named

theorem makes_addColumn (live : List String) (report : MigrationReport) (member : c ∈ p.columns) :
    Makes id (addColumn id p live report c) fun db r next =>
      p.BringsColumn live c (report, db) (r, next) := by
  rw [addColumn]
  split
  · next present =>
    refine (Makes.pure report).imp ?_
    rintro db _ _ ⟨rfl, rfl⟩
    exact .inl ⟨List.contains_iff_mem.mp present, rfl⟩
  · next absent =>
    refine (Makes.bind (makes_define (MappingPlan.effects_addColumn named member) report)
      fun r => Makes.pure _).imp ?_
    rintro db _ _ ⟨_, _, ⟨rfl, next, related, rfl⟩, rfl, rfl⟩
    exact .inr ⟨fun present => absent (List.contains_iff_mem.mpr present), next, related, rfl⟩

theorem makes_addIndex (report : MigrationReport) (member : c ∈ p.columns) :
    Makes id (addIndex id p report c) fun db r next => p.BringsIndex c (report, db) (r, next) := by
  rw [addIndex]
  refine (Makes.bind (S := fun found db r next => found = db.hasIndex (c.indexName p.table) →
    p.BringsIndex c (report, db) (r, next)) (makes_finds _) fun found => ?_).imp ?_
  · cases found with
    | true =>
      refine (Makes.pure report).imp ?_
      rintro db _ _ ⟨rfl, rfl⟩ found
      exact .inl ⟨found.symm, rfl⟩
    | false =>
      refine (Makes.bind (makes_define (MappingPlan.effects_createIndex named member) report)
        fun r => Makes.pure _).imp ?_
      rintro db _ _ ⟨_, _, ⟨rfl, next, related, rfl⟩, rfl, rfl⟩ found
      exact .inr ⟨by simp [← found], next, related, rfl⟩
  · rintro db r next ⟨_, _, ⟨rfl, rfl⟩, related⟩
    exact related rfl

theorem makes_migrateTable : Makes id (migrateTable id p) fun db r next =>
    p.BringsTable db (r, next) := by
  let start : MigrationReport := { table := p.table }
  -- A table that is there gets its missing columns; one that is not is created with all of them.
  have there : Makes id (do p.columns.foldlM (addColumn id p (← liveColumns id p.table)) start)
      fun db r next => Folds (p.BringsColumn (p.liveIn db)) p.columns (start, db) (r, next) := by
    refine (Makes.bind makes_liveColumns fun live => Makes.foldlM (R := p.BringsColumn live)
      (fun report c member => makes_addColumn named live report member) start).imp ?_
    rintro db r next ⟨_, _, ⟨rfl, rfl⟩, folds⟩
    exact folds
  have absent : Makes id (do return { ← define id p.createTable start with created := true })
      fun db r next => ∃ mid, p.Creates db mid
        ∧ (r, next) = ({ table := p.table, created := true, ddlCount := 1 }, mid.counted) := by
    refine (Makes.bind (makes_define (MappingPlan.effects_createTable named) start)
      fun r => Makes.pure _).imp ?_
    rintro db _ _ ⟨_, _, ⟨rfl, mid, related, rfl⟩, rfl, rfl⟩
    exact ⟨mid, related, rfl⟩
  intro w db r v seen done
  obtain ⟨found, u, looked, done⟩ := outcome_bind_inv done
  obtain ⟨_, between, rfl, rfl⟩ := makes_finds _ w db found u seen looked
  cases here : Database.hasTable _ p.table with
  | true =>
    rw [here] at done
    obtain ⟨next, after, folds⟩ := there u _ r v between done
    exact ⟨next, after, .inl ⟨here, folds⟩⟩
  | false =>
    rw [here] at done
    obtain ⟨next, after, created⟩ := absent u _ r v between done
    exact ⟨next, after, .inr ⟨here, created⟩⟩

theorem makes_migrateWithin : Makes id (migrateWithin id p) p.Migrates := by
  refine (Makes.bind (makes_migrateTable named) fun report => Makes.bind (Makes.foldlM
    (R := p.BringsIndex) (fun report c member =>
      makes_addIndex named report (List.mem_filter.mp member).1) report)
    fun r => Makes.bind (makes_report _) fun _ => Makes.pure r).imp ?_
  rintro db _ _ ⟨report, mid, brought, r, last, folds, _, _, rfl, rfl, rfl⟩
  exact ⟨(report, mid), brought, folds⟩

/-- A migration that succeeds does what a migration is. -/
theorem makes_migrate : Makes id (migrate id p) p.Migrates := by
  intro w db report v seen done
  rw [migrate] at done
  obtain ⟨_, u, marked, done⟩ := outcome_bind_inv done
  obtain ⟨_, before, rfl⟩ := makes_savepoint migrationPoint w db () u seen marked
  obtain ⟨result, x, ran, done⟩ := outcome_bind_inv done
  rw [outcome_attempt] at ran
  cases ran
  rcases within : (migrateWithin id p).outcome u with ⟨result, x⟩
  rw [within] at done
  cases result with
  | ok r =>
    obtain ⟨next, between, migrates⟩ := makes_migrateWithin named u _ r x before within
    obtain ⟨_, y, released, done⟩ := outcome_bind_inv done
    cases done
    obtain ⟨_, after, rfl⟩ := makes_release migrationPoint x next () v between released
    exact ⟨_, after, migrates⟩
  | error failure =>
    obtain ⟨_, _, _, absurd⟩ := outcome_bind_inv done
    cases absurd

end

end Session

end EntityStore
