import EntityStore.Proofs.Migration.Coverage
import EntityStore.Proofs.Transaction.Snapshot

/-! # Databases that only migrations have defined

Where nothing but migrations of plans with names in lower case has defined anything, a table of the name
of a plan is the table of the plan:

* `MappingPlan.Lower`, `Database.Plain` — names in lower case, and neither views nor triggers.
* `MappingPlan.StandsIn` — a table with the columns of a plan.
* `Database.Provides` — what changes of rows, migrations and new versions leave true.
* `MappingPlan.Migrates.provides` — a migration leads to it.
-/

namespace EntityStore

open EntityStore.Engine (Database Program Table columnPlace?)
open EntityStore.Sql (foldWord sameName)

/-! ## Names -/

/-- Whether a name consists of ASCII characters and has no capital letter. -/
def Sql.isLower (name : String) : Bool := Text.isAscii name && foldWord name = name

section
variable {a b : String} (first : Sql.isLower a = true) (second : Sql.isLower b = true)
include first

theorem foldWord_lower : foldWord a = a := by
  simp only [Sql.isLower, Bool.and_eq_true, decide_eq_true_eq] at first
  exact first.2

theorem lowercase_lower : Text.lowercase a = a := by
  have folded := foldWord_lower first
  simp only [Sql.isLower, Bool.and_eq_true] at first
  rw [Text.lowercase_ascii first.1, folded]

include second

/-- Names in lower case that are the same to the engine are the same. -/
theorem eq_of_sameName (same : sameName a b = true) : a = b := by
  have folded : foldWord a = foldWord b := of_decide_eq_true same
  rwa [foldWord_lower first, foldWord_lower second] at folded

end

/-- The names of a plan are identifiers in lower case. -/
structure MappingPlan.Lower (p : MappingPlan) : Prop extends p.Named where
  tableLower : Sql.isLower p.table = true
  columnsLower : ∀ c ∈ p.columns, Sql.isLower c.column = true

/-! ## Plain databases -/

/-- A table with names in lower case. -/
structure Engine.Table.Plain (t : Table) : Prop where
  name : Sql.isLower t.name = true
  columns : ∀ c ∈ t.columns, Sql.isLower c.name = true

/-- A database of such tables, without views and triggers. -/
structure Engine.Database.Plain (db : Database) : Prop where
  views : db.views = []
  triggers : db.triggers = []
  apart : db.Apart
  tables : ∀ t ∈ db.tables, t.Plain

variable {p : MappingPlan} {c : ColumnPlan} {db next : Database} {plans : MappingPlan → Prop}

namespace Engine.Database.Plain

theorem empty : Plain {} := ⟨rfl, rfl, .nil, nofun⟩

theorem steady (plain : db.Plain) : db.Steady := by
  intro d member
  rw [plain.triggers] at member
  cases member

theorem setTable (plain : db.Plain) {u : Table} (lower : u.Plain) : (db.setTable u).Plain where
  views := plain.views
  triggers := plain.triggers
  apart := plain.apart.setTable u
  tables v listed := by
    obtain ⟨before, there, rfl⟩ := List.mem_map.mp listed
    split
    · exact lower
    · exact plain.tables before there

/-- A table of the name of a plan has the very name of the plan. -/
theorem table?_name (plain : db.Plain) {t : Table} {name : String} (lower : Sql.isLower name = true)
    (found : db.table? name = some t) : t.name = name :=
  eq_of_sameName (plain.tables t (Database.table?_mem found)).name lower (Engine.table?_name found)

/-- Only tables have names that tables might get. -/
theorem holder? (plain : db.Plain) {name : String} :
    (db.holder? name).isSome = (db.table? name).isSome := by
  rw [Database.holder?, Database.view?, plain.views]
  cases db.table? name <;> rfl

end Engine.Database.Plain

/-! ## Tables of plans -/

namespace MappingPlan

/-- There is a table with the columns of a plan. -/
structure StandsIn (p : MappingPlan) (db : Database) : Prop where
  table : (db.table? p.table).isSome = true
  columns : ∀ c ∈ p.columns, db.HasColumn p.table c.column

theorem StandsIn.expands (stands : p.StandsIn db) (expands : db.Expands next) (apart : next.Apart) :
    p.StandsIn next where
  table := by
    obtain ⟨t, found⟩ := Option.isSome_iff_exists.mp stands.table
    obtain ⟨u, there, _⟩ := expands.table? apart found
    rw [there]
    rfl
  columns c member := expands.hasColumn apart (stands.columns c member)

theorem StandsIn.restocked (stands : p.StandsIn db) (apart : db.Apart) {t : Table} (member : t ∈ db.tables)
    (rows : List Engine.Row) : p.StandsIn (db.setTable { t with rows := rows }) where
  table := by
    rw [table?_setTable, Option.isSome_map]
    exact stands.table
  columns c listed := by
    obtain ⟨u, i, found, place⟩ := stands.columns c listed
    refine ⟨_, i, (table?_setTable _ _ _).trans (congrArg (Option.map _) found), ?_⟩
    dsimp only
    split
    · next same =>
      have equal : u = t := apart.unique member (Database.table?_mem found) same
      rw [← equal]
      exact place
    · exact place

/-! ## Definitions of plans -/

section
variable (lower : p.Lower) (base : db.Plain)
include lower base

theorem Creates.plain (creates : p.Creates db next) : next.Plain := by
  have apart := (creates.defined base.apart).apart
  rcases creates with ⟨_, t, founds, rfl⟩ | ⟨_, rfl⟩
  · refine ⟨base.views, base.triggers, apart, List.forall_mem_append.mpr
      ⟨base.tables, List.forall_mem_singleton.mpr ⟨founds.name ▸ lower.tableLower, fun c member => ?_⟩⟩⟩
    have listed : c.name ∈ p.columnNames := founds.columns ▸ List.mem_map_of_mem member
    obtain ⟨d, there, name⟩ := List.mem_map.mp listed
    exact name ▸ lower.columnsLower d there
  · exact base

theorem Widens.plain (member : c ∈ p.columns) (widens : p.Widens c db next) : next.Plain := by
  obtain ⟨t, column, found, _, name, _, rfl⟩ := widens
  have before := base.tables t (Database.table?_mem found)
  exact base.setTable ⟨before.name, List.forall_mem_append.mpr
    ⟨before.columns, List.forall_mem_singleton.mpr (name ▸ lower.columnsLower c member)⟩⟩

omit lower in
theorem Indexes.plain (indexes : p.Indexes c db next) : next.Plain := by
  obtain ⟨t, _, ⟨_, _, _, rfl⟩ | ⟨_, rfl⟩⟩ := indexes
  · exact ⟨base.views, base.triggers, base.apart, base.tables⟩
  · exact base

theorem Skips.hasColumn (member : c ∈ p.columns) (skips : p.Skips c db) :
    db.HasColumn p.table c.column := by
  obtain ⟨taken, live⟩ := skips
  obtain ⟨t, found⟩ := Option.isSome_iff_exists.mp (base.holder? ▸ taken)
  have name := base.table?_name lower.tableLower found
  have listed := live (List.any_eq_true.mpr ⟨t, Database.table?_mem found, decide_eq_true name⟩)
  rw [liveIn, Database.columnNames, found] at listed
  obtain ⟨spelled, shown, same⟩ := List.mem_map.mp listed
  obtain ⟨column, visible, rfl⟩ := List.mem_map.mp shown
  have small := (base.tables t (Database.table?_mem found)).columns column (List.mem_filter.mp visible).1
  rw [lowercase_lower small, lowercase_lower (lower.columnsLower c member)] at same
  exact Holds.hasColumn ⟨t, found, column, visible, same⟩

theorem Migrates.standsIn {report : MigrationReport} (migrates : p.Migrates db report next) :
    p.StandsIn next := by
  obtain ⟨covered, _⟩ := migrates.covered base.apart fun c member skips =>
    skips.hasColumn lower base member
  refine ⟨?_, covered.columns⟩
  obtain ⟨t, brings, folds⟩ := migrates
  obtain ⟨between, grown, _⟩ := brings.columns base.apart
  rw [Database.table?, (addsIndexes between folds).1.tables, ← Database.table?]
  -- A table is there before, or the migration creates it.
  rcases brings with ⟨has, _⟩ | ⟨_, mid, ⟨_, u, founds, rfl⟩ | ⟨taken, rfl⟩, rfl⟩
  · obtain ⟨u, found⟩ := holder?_isSome_of_hasTable base.apart has
    obtain ⟨v, there, _⟩ := grown.table? between found
    rw [there]
    rfl
  · exact List.find?_isSome.mpr ⟨u, List.mem_append_right _ (List.mem_singleton_self _),
      founds.name ▸ sameName_refl _⟩
  · exact base.holder? ▸ taken

end

end MappingPlan

/-! ## What mappers rely on -/

/-- A plain database with the tables of plans. -/
structure Engine.Database.Provides (plans : MappingPlan → Prop) (db : Database) : Prop where
  plain : db.Plain
  standsIn : ∀ p, plans p → p.StandsIn db

namespace Engine.Database.Provides

theorem rowwise : Engine.Database.Rowwise (Provides plans) := fun _ t rows member provides =>
  have before := provides.plain.tables t member
  ⟨provides.plain.setTable ⟨before.name, before.columns⟩, fun p planned =>
    (provides.standsIn p planned).restocked provides.plain.apart member rows⟩

theorem version (provides : db.Provides plans) (version : Int32) :
    Provides plans { db with version := version } :=
  have plain := provides.plain
  ⟨⟨plain.views, plain.triggers, plain.apart, plain.tables⟩, fun p planned =>
    (provides.standsIn p planned).expands
      ⟨fun t member => ⟨t, member, .refl t⟩, fun _ member => member, rfl, rfl⟩ plain.apart⟩

theorem expands (provides : db.Provides plans) (expands : db.Expands next) (plain : next.Plain) :
    next.Provides plans :=
  ⟨plain, fun p planned => (provides.standsIn p planned).expands expands plain.apart⟩

end Engine.Database.Provides

theorem Engine.Program.Makes.leaves {Q : Database → Prop} {program : Program}
    (makes : program.Makes db Q) : program.Leaves Q [] db := by
  rw [Program.Makes] at makes
  rw [Program.Leaves]
  cases ran : program.run [] db with
  | ok outcome =>
    rw [ran] at makes
    intro writes
    simpa [writes] using makes
  | error stop =>
    rw [ran] at makes
    intro next same
    dsimp only at makes
    rw [same] at makes
    cases makes

theorem MappingPlan.Lower.effects (lower : p.Lower) {text : String} (member : text ∈ p.definitions) :
    Effects text fun db next => ∀ plans : MappingPlan → Prop, db.Provides plans → next.Provides plans := by
  have kept {R : Database → Database → Prop} (effects : Effects text R)
      (defined : ∀ db next, R db next → db.Apart → Defined db next)
      (plain : ∀ db next, R db next → db.Plain → next.Plain) :
      Effects text fun db next => ∀ plans : MappingPlan → Prop, db.Provides plans → next.Provides plans :=
    effects.imp fun db next related plans provides =>
      provides.expands (defined db next related provides.plain.apart).expands
        (plain db next related provides.plain)
  rcases List.mem_cons.mp member with rfl | member
  · exact kept (effects_createTable lower.toNamed) (fun _ _ creates apart => creates.defined apart)
      fun _ _ creates plain => creates.plain lower plain
  rcases List.mem_append.mp member with added | indexed
  · obtain ⟨c, listed, rfl⟩ := List.mem_map.mp added
    exact kept (effects_addColumn lower.toNamed listed) (fun _ _ widens apart => widens.defined apart)
      fun _ _ widens plain => widens.plain lower plain listed
  · obtain ⟨c, listed, rfl⟩ := List.mem_map.mp indexed
    exact kept (effects_createIndex lower.toNamed (List.mem_filter.mp listed).1)
      (fun _ _ indexes apart => indexes.defined apart) fun _ _ indexes plain => indexes.plain plain

end EntityStore
