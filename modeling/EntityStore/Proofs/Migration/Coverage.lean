import EntityStore.Proofs.Catalog.Naming
import EntityStore.Proofs.Migration.Repetition

/-! # What migrations cover

Whether the tables of a database have what the plans of its entities say, after a migration of each, in
any order and with others that fail between them:

* `MappingPlan.Covered` — a table with the columns of its plan, and an index of each of its names.
* `NamesFit` — what the names that are taken must stand for.
* `Awaits` — what holds between the migrations of several plans.
* `Session.migrations_cover` — nothing is gone, and if the names fit, everything is covered.
-/

namespace EntityStore

open EntityStore.Engine (Database Table Index columnPlace?)
open EntityStore.Sql (sameName foldWord)

/-! ## Other tables -/

theorem columnPlace?_congr {columns : List Engine.Column} {a b : String} (same : sameName a b = true) :
    columnPlace? columns none a = columnPlace? columns none b := by
  have folded : foldWord a = foldWord b := of_decide_eq_true same
  have names : (fun c : Engine.Column => !c.hidden && sameName c.name a) =
      fun c => !c.hidden && sameName c.name b := by
    funext c
    rw [sameName, sameName, folded]
  rw [columnPlace?, columnPlace?, names, folded]

/-- An index on a column, however its names are written. -/
theorem Engine.Database.IndexOn.congr {db : Database} {table column table' column' : String} {x : Index}
    (on : db.IndexOn table column x) (tables : table = table') (columns : sameName column column' = true) :
    db.IndexOn table' column' x := by
  obtain ⟨t, i, found, name, place, same⟩ := on
  exact ⟨t, i, tables ▸ found, name, columnPlace?_congr columns ▸ place, same⟩

namespace MappingPlan

variable {p q : MappingPlan} {c : ColumnPlan} {db next : Database} {s t : Migrating}

theorem BringsColumn.table?_other {live : List String} {name : String}
    (apart : sameName p.table name = false) (brings : p.BringsColumn live c s t) :
    t.2.table? name = s.2.table? name := by
  rcases brings with ⟨_, rfl⟩ | ⟨_, next, ⟨u, column, found, _, _, _, rfl⟩, rfl⟩
  · rfl
  · refine (table?_setTable s.2 (u.addColumn column) name).trans ?_
    cases other : s.2.table? name with
    | none => rfl
    | some v =>
      have different : ¬ sameName v.name (u.addColumn column).name = true := by
        intro same
        have own : sameName u.name p.table = true := Engine.table?_name found
        have here : sameName v.name name = true := Engine.table?_name other
        have chain : sameName p.table name = true := by
          rw [← sameName_trans own, show u.name = (u.addColumn column).name from rfl,
            ← sameName_trans same]
          exact here
        rw [apart] at chain
        cases chain
      rw [Option.map_some, if_neg different]

theorem Migrates.table?_other {report : MigrationReport} {name : String} (migrates : p.Migrates db report next)
    (base : db.Apart) (apart : sameName p.table name = false) : next.table? name = db.table? name := by
  obtain ⟨t, brings, folds⟩ := migrates
  obtain ⟨between, _⟩ := brings.columns base
  have last : next.table? name = t.2.table? name := by
    rw [Database.table?, (addsIndexes between folds).1.tables, ← Database.table?]
  refine last.trans ?_
  rcases brings with ⟨_, columns⟩ | ⟨_, mid, ⟨_, u, founds, rfl⟩ | ⟨_, rfl⟩, rfl⟩
  · exact columns.same (f := fun s => s.2.table? name) fun c _ s t =>
      BringsColumn.table?_other apart
  · refine List.find?_append.trans ?_
    rw [List.find?_cons_of_neg (by rw [founds.name, apart]; decide), List.find?_nil, Option.or_none]
    rfl
  · rfl

/-! ## One plan -/

/-- Whether a column is taken for one that is there depends on the table of the plan alone. -/
theorem Skips.congr (skips : p.Skips c next) (tables : next.table? p.table = db.table? p.table)
    (views : next.views = db.views) (base : db.Apart) : p.Skips c db := by
  have view : next.view? p.table = db.view? p.table := by rw [Database.view?, views, Database.view?]
  obtain ⟨taken, live⟩ := skips
  refine ⟨by rw [Database.holder?, ← tables, ← view, ← Database.holder?]; exact taken, fun has => ?_⟩
  obtain ⟨t, member, same⟩ := List.any_eq_true.mp has
  have name : t.name = p.table := of_decide_eq_true same
  have found : db.table? p.table = some t := base.table? member (name ▸ sameName_refl _)
  have there : next.table? p.table = some t := tables.trans found
  have listed := live (List.any_eq_true.mpr ⟨t, Database.table?_mem there, same⟩)
  rw [liveIn, Database.columnNames, there] at listed
  rw [liveIn, Database.columnNames, found]
  exact listed

/-- The table of a plan has its columns, and there is an index of each of its names. -/
structure Covered (p : MappingPlan) (db : Database) : Prop where
  columns : ∀ c ∈ p.columns, db.HasColumn p.table c.column
  indexes : ∀ c ∈ p.indexedColumns, db.index? (c.indexName p.table) ≠ none

theorem Covered.expands (covered : p.Covered db) (expands : db.Expands next) (apart : next.Apart) :
    p.Covered next where
  columns c member := expands.hasColumn apart (covered.columns c member)
  indexes c member free := covered.indexes c member (index?_none_iff.mpr fun x listed =>
    index?_none_iff.mp free x (expands.indexes x listed))

theorem Migrates.covered {report : MigrationReport} (migrates : p.Migrates db report next)
    (apart : db.Apart) (there : ∀ c ∈ p.columns, p.Skips c db → db.HasColumn p.table c.column) :
    p.Covered next ∧ ∀ x ∈ next.indexes, x ∈ db.indexes
      ∨ ∃ c ∈ p.indexedColumns, x.name = c.indexName p.table ∧ next.IndexOn p.table c.column x := by
  obtain ⟨t, brings, folds⟩ := migrates
  obtain ⟨between, grown, columns⟩ := brings.columns apart
  have same := brings.indexes
  obtain ⟨⟨tables, added, split, names, _⟩, apart', expands, all⟩ := addsIndexes between folds
  dsimp only at tables split apart' expands all
  have columns : ∀ c ∈ p.columns, t.2.HasColumn p.table c.column := fun c member =>
    (columns c member).elim (fun skips => grown.hasColumn between (there c member skips)) (·.hasColumn)
  refine ⟨⟨fun c member => expands.hasColumn apart' (columns c member), all⟩, fun x listed => ?_⟩
  rw [split, same] at listed
  refine (List.mem_append.mp listed).imp id fun new => ?_
  obtain ⟨c, member, name, u, found, table, place⟩ := names x new
  obtain ⟨v, i, again, here⟩ := columns c (List.mem_filter.mp member).1
  rw [found, Option.some.injEq] at again
  subst again
  exact ⟨c, member, name, expands.indexOn apart' ⟨u, i, found, table, here, place i here⟩⟩

end MappingPlan

/-! ## Several plans -/

/-- What the names of several plans, and those that are taken, stand for.  A column that a migration
    takes to be there is there; an index of a name of the plans is on the column that the plan says;
    and two plans that have the same name for a table or an index mean the same. -/
structure NamesFit (plans : MappingPlan → Prop) (db : Database) : Prop where
  columns : ∀ p, plans p → ∀ c ∈ p.columns, p.Skips c db → db.HasColumn p.table c.column
  indexes : ∀ p, plans p → ∀ c ∈ p.indexedColumns, ∀ x ∈ db.indexes,
    sameName x.name (c.indexName p.table) = true → db.IndexOn p.table c.column x
  tables : ∀ p q, plans p → plans q → sameName p.table q.table = true → p.table = q.table
  indexNames : ∀ p q, plans p → plans q → ∀ c ∈ p.indexedColumns, ∀ d ∈ q.indexedColumns,
    sameName (c.indexName p.table) (d.indexName q.table) = true →
      p.table = q.table ∧ sameName c.column d.column = true

/-- Between the migrations of several plans: each of them is covered, or its table is as it was. -/
structure Awaits (plans : MappingPlan → Prop) (start db : Database) : Prop where
  apart : db.Apart
  views : db.views = start.views
  each : ∀ p, plans p → p.Covered db ∨ db.table? p.table = start.table? p.table
  indexes : ∀ p, plans p → ∀ c ∈ p.indexedColumns, ∀ x ∈ db.indexes,
    sameName x.name (c.indexName p.table) = true → db.IndexOn p.table c.column x

section
variable {plans : MappingPlan → Prop} {start db next : Database} {p : MappingPlan}
  {report : MigrationReport}

theorem NamesFit.awaits (fit : NamesFit plans start) (apart : start.Apart) : Awaits plans start start :=
  ⟨apart, rfl, fun _ _ => .inr rfl, fit.indexes⟩

/-- One more migration covers its plan, and takes nothing from the others. -/
theorem Awaits.step (fit : NamesFit plans start) (base : start.Apart)
    (unique : ∀ p q, plans p → plans q → p.table = q.table → p = q) (awaits : Awaits plans start db)
    (planned : plans p) (migrates : p.Migrates db report next) :
    Awaits plans start next ∧ p.Covered next := by
  obtain ⟨apart, expands, _⟩ := migrates.spec awaits.apart
  -- A column that is skipped has been there from the start, or another migration has brought it.
  have there : ∀ c ∈ p.columns, p.Skips c db → db.HasColumn p.table c.column := by
    intro c member skips
    rcases awaits.each p planned with covered | same
    · exact covered.columns c member
    · obtain ⟨t, i, found, place⟩ :=
        fit.columns p planned c member (skips.congr same awaits.views base)
      exact ⟨t, i, same.trans found, place⟩
  obtain ⟨covered, indexes⟩ := migrates.covered awaits.apart there
  refine ⟨⟨apart, expands.views.trans awaits.views, fun q other => ?_, ?_⟩, covered⟩
  · cases same : sameName p.table q.table with
    | true => exact .inl (unique p q planned other (fit.tables p q planned other same) ▸ covered)
    | false =>
      exact (awaits.each q other).imp (fun covered => covered.expands expands apart)
        fun untouched => (migrates.table?_other awaits.apart same).trans untouched
  · intro q other d indexed x listed similar
    rcases indexes x listed with old | ⟨c, member, name, on⟩
    · exact expands.indexOn apart (awaits.indexes q other d indexed x old similar)
    · rw [name] at similar
      obtain ⟨tables, columns⟩ := fit.indexNames p q planned other c member d indexed similar
      exact on.congr tables columns

end

/-- The plans of the entities of one database. -/
def CompiledCatalog.plansOf (c : CompiledCatalog) (tag : String) : List MappingPlan :=
  c.plans.filter (·.tag = tag)

/-! ## Runs -/

namespace Session

variable {id : Nat} {w v : World}

theorem makes_attempt {p : MappingPlan} (named : p.Named) :
    Makes id (attempt (migrate id p)) fun db result next =>
      ((∃ report, p.Migrates db report next) ∨ next = db)
        ∧ ∀ report, result = .ok report → p.Migrates db report next := by
  intro w db result v seen done
  rw [outcome_attempt] at done
  cases done
  have ends := migrate_end id named.definite w
  rcases outcome : (migrate id p).outcome w with ⟨result, v⟩
  rw [outcome] at ends
  cases ends with
  | @done report v =>
    obtain ⟨next, after, migrates⟩ := makes_migrate named w db report v seen outcome
    exact ⟨next, after, .inl ⟨report, migrates⟩, fun _ equal => by cases equal; exact migrates⟩
  | undone same | undoneOpen _ _ same => exact ⟨db, same.trans seen, .inr rfl, nofun⟩
  | doneOpen _ _ same refused =>
    -- A migration may fail after all is done, if only the savepoint cannot be given up.
    obtain ⟨u, report, _, marked, ran, _⟩ := refused
    obtain ⟨_, before, rfl⟩ := makes_savepoint migrationPoint w db () u seen marked
    obtain ⟨next, after, migrates⟩ := makes_migrateWithin named u _ report _ before ran
    exact ⟨next, same.trans after, .inl ⟨report, migrates⟩, nofun⟩

theorem makes_attempts {plans : MappingPlan → Prop} {order : List MappingPlan}
    (planned : ∀ p ∈ order, plans p) (named : ∀ p, plans p → p.Named)
    (unique : ∀ p q, plans p → plans q → p.table = q.table → p = q) {db : Database}
    {results : List (Except Failure MigrationReport)} (seen : w.seen id = some db) (apart : db.Apart)
    (ran : (order.mapM fun p => attempt (migrate id p)).outcome w = (.ok results, v)) :
    ∃ next, v.seen id = some next ∧ next.Apart ∧ db.Expands next
      ∧ ∀ start : Database, start.Apart → NamesFit plans start → Awaits plans start db →
        Awaits plans start next
          ∧ ∀ p report, (p, Except.ok report) ∈ order.zip results → p.Covered next := by
  -- On the order, from whatever database the migrations before have left.
  induction order generalizing w db results with
  | nil => cases ran; exact ⟨db, seen, apart, .refl db, fun _ _ _ awaits => ⟨awaits, nofun⟩⟩
  | cons p rest ih =>
    rw [List.mapM_cons] at ran
    obtain ⟨result, u, first, ran⟩ := outcome_bind_inv ran
    obtain ⟨others, x, second, last⟩ := outcome_bind_inv ran
    cases last
    have here := planned p (List.mem_cons_self ..)
    obtain ⟨mid, between, done, succeeded⟩ := makes_attempt (named p here) w db result u seen first
    have step : mid.Apart ∧ db.Expands mid := by
      rcases done with ⟨report, migrates⟩ | rfl
      · obtain ⟨apart, expands, _⟩ := migrates.spec apart
        exact ⟨apart, expands⟩
      · exact ⟨apart, .refl _⟩
    obtain ⟨next, after, final, expands, covers⟩ :=
      ih (fun p member => planned p (List.mem_cons_of_mem _ member)) between step.1 second
    refine ⟨next, after, final, step.2.trans expands, fun start base fit awaits => ?_⟩
    have waits : Awaits plans start mid := by
      rcases done with ⟨report, migrates⟩ | rfl
      · exact (awaits.step fit base unique here migrates).1
      · exact awaits
    obtain ⟨awaited, covered⟩ := covers start base fit waits
    refine ⟨awaited, fun q report listed => ?_⟩
    rcases List.mem_cons.mp listed with same | later
    · obtain ⟨rfl, ok⟩ := Prod.mk.inj same
      have now := (awaits.step fit base unique here (succeeded report ok.symm)).2
      exact now.expands expands final
    · exact covered q report later

/-- Migrations of the plans of one database, in any order, each of them successful once or more: nothing
    that was there is gone.  If what the names stand for fits, each table has the columns of its plan
    afterwards, and each column that is to have an index has one. -/
theorem migrations_cover (id : Nat) {c : Catalog} {compiled : CompiledCatalog}
    (done : c.compile.1 = .ok compiled) (tag : String)
    (named : ∀ p ∈ compiled.plansOf tag, p.Named) {order : List MappingPlan}
    (planned : ∀ p ∈ order, p ∈ compiled.plansOf tag) {db : Database}
    {results : List (Except Failure MigrationReport)} (seen : w.seen id = some db) (apart : db.Apart)
    (ran : (order.mapM fun p => attempt (migrate id p)).outcome w = (.ok results, v))
    (each : ∀ p ∈ compiled.plansOf tag, ∃ report, (p, Except.ok report) ∈ order.zip results) :
    ∃ next, v.seen id = some next ∧ db.Expands next
      ∧ (NamesFit (· ∈ compiled.plansOf tag) db → ∀ p ∈ compiled.plansOf tag,
        (∀ c ∈ p.columns, next.HasColumn p.table c.column)
          ∧ ∀ c ∈ p.indexedColumns, ∃ x ∈ next.indexes, next.IndexOn p.table c.column x) := by
  -- Tables of one tag have different names, so a plan is known by its table.
  have unique : ∀ p q, p ∈ compiled.plansOf tag → q ∈ compiled.plansOf tag → p.table = q.table → p = q := by
    intro p q first second same
    by_contra different
    obtain ⟨_, _, tables⟩ := Catalog.check_names (Catalog.compile_ok done)
    have symmetric : Std.Symm fun p q : MappingPlan => p.tag = q.tag → p.table ≠ q.table :=
      ⟨fun _ _ apart tags => (apart tags.symm).symm⟩
    obtain ⟨listed, tagged⟩ := List.mem_filter.mp first
    obtain ⟨listed', tagged'⟩ := List.mem_filter.mp second
    exact tables.forall listed listed' different
      ((of_decide_eq_true tagged).trans (of_decide_eq_true tagged').symm) same
  obtain ⟨next, after, _, expands, covers⟩ := makes_attempts planned named unique seen apart ran
  refine ⟨next, after, expands, fun fit p member => ?_⟩
  obtain ⟨awaits, covered⟩ := covers db apart fit (fit.awaits apart)
  obtain ⟨report, listed⟩ := each p member
  obtain ⟨columns, indexes⟩ := covered p report listed
  refine ⟨columns, fun c indexed => ?_⟩
  -- The index of that name is on the column, since no other has taken the name.
  obtain ⟨x, found⟩ := Option.ne_none_iff_exists'.mp (indexes c indexed)
  have named : sameName x.name (c.indexName p.table) = true := by simpa using List.find?_some found
  have listed := List.mem_of_find?_eq_some found
  exact ⟨x, listed, awaits.indexes p member c indexed x listed named⟩

end Session

instance (p : MappingPlan) : Decidable p.Named :=
  decidable_of_iff (Sql.isIdentifier p.table = true ∧ ∀ c ∈ p.columns, Sql.isIdentifier c.column = true)
    ⟨fun ⟨table, columns⟩ => ⟨table, columns⟩, fun ⟨table, columns⟩ => ⟨table, columns⟩⟩

def Model.indexed (name table : String) : Model where
  qualifiedName := name
  keyType := .int64
  table := some table
  initial := some .empty
  fields := [
    { name := "id", semantic := .int64, primaryKey := true
      binding := some (.property .int64 "id") },
    { name := "x", semantic := .int64, index := true
      binding := some (.property .int64 "x") }]

def indexedCatalog : Catalog := (({} : Catalog).registerAll [.indexed "Alpha" "t", .indexed "Beta" "u"]).1

theorem Session.migrations_cover_indexed : ∃ compiled results v next,
    indexedCatalog.compile.1 = .ok compiled
      ∧ ((compiled.plansOf "default").mapM fun p => attempt (migrate 0 p)).outcome openWorld =
        (.ok results, v)
      ∧ v.seen 0 = some next ∧ (compiled.plansOf "default").length = 2
      ∧ ∀ p ∈ compiled.plansOf "default", ∀ c ∈ p.indexedColumns,
        ∃ x ∈ next.indexes, next.IndexOn p.table c.column x := by
  obtain ⟨compiled, done⟩ : ∃ compiled, indexedCatalog.compile.1 = .ok compiled := ⟨_, rfl⟩
  have two : (compiled.plansOf "default").length = 2 := by
    cases done
    decide +kernel
  have named : ∀ p ∈ compiled.plansOf "default", p.Named := by
    cases done
    decide +kernel
  have tables : ∀ p ∈ compiled.plansOf "default", ∀ q ∈ compiled.plansOf "default",
      sameName p.table q.table = true → p.table = q.table := by
    cases done
    decide +kernel
  have indexNames : ∀ p ∈ compiled.plansOf "default", ∀ q ∈ compiled.plansOf "default",
      ∀ c ∈ p.indexedColumns, ∀ d ∈ q.indexedColumns,
        sameName (c.indexName p.table) (d.indexName q.table) = true →
          p.table = q.table ∧ sameName c.column d.column = true := by
    cases done
    decide +kernel
  -- The database is empty, so only the names among the plans themselves can clash.
  have fit : NamesFit (· ∈ compiled.plansOf "default") {} :=
    ⟨fun _ _ _ _ skips => absurd skips.1 Bool.false_ne_true,
      fun _ _ _ _ _ listed => absurd listed List.not_mem_nil,
      fun p q first second => tables p first q second,
      fun p q first second => indexNames p first q second⟩
  have succeed : (((compiled.plansOf "default").mapM fun p => attempt (migrate 0 p)).outcome
      openWorld).1.toOption.map (·.map fun result => result.toBool) = some [true, true] := by
    cases done
    decide +kernel
  rcases ran : ((compiled.plansOf "default").mapM fun p => attempt (migrate 0 p)).outcome openWorld with
    ⟨result, v⟩
  rw [ran] at succeed
  cases result with
  | error failure => cases succeed
  | ok results =>
    have all : results.map (fun result => result.toBool) = [true, true] := Option.some.inj succeed
    have each : ∀ p ∈ compiled.plansOf "default",
        ∃ report, (p, Except.ok report) ∈ (compiled.plansOf "default").zip results := by
      obtain ⟨p, q, pair⟩ := List.length_eq_two.mp two
      have length : results.length = 2 := by simpa using congrArg List.length all
      obtain ⟨a, b, rfl⟩ := List.length_eq_two.mp length
      cases a with
      | error failure => cases all
      | ok first =>
        cases b with
        | error failure => cases all
        | ok second =>
          rw [pair]
          simp
    obtain ⟨next, after, _, covers⟩ := migrations_cover 0 done "default" named (fun _ => id)
      (rfl : openWorld.seen 0 = some {}) .nil ran each
    exact ⟨compiled, results, v, next, done, ran, after, two, fun p member => (covers fit p member).2⟩

end EntityStore
