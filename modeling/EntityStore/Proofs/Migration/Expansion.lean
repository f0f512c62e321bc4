import EntityStore.Proofs.Migration.Course

/-! # What migrations add

A migration only adds: tables, columns at the end of a table, and indexes.

* `Table.Expands`, `Database.Expands` — nothing that was there is gone.
* `Database.Apart` — no two tables have one name, as the engine compares names.
* `Database.HasColumn`, `Database.HasIndexOn` — what stays true when a database expands.
* `MappingPlan.Migrates.expands` — a migration expands the database.
-/

namespace EntityStore

open EntityStore.Engine (Database Table Column Index columnPlace?)
open EntityStore.Sql (sameName)

namespace Engine

/-! ## Tables -/

/-- A table with all that another one has, and perhaps more columns at its end. -/
structure Table.Expands (t u : Table) : Prop where
  name : u.name = t.name
  columns : t.columns <+: u.columns
  key : u.key = t.key
  rows : ∃ values, u.rows = t.rows.map (· ++ values)

namespace Table.Expands

variable {t u v : Table}

theorem refl (t : Table) : t.Expands t := ⟨rfl, List.prefix_rfl, rfl, [], by simp⟩

theorem trans (first : t.Expands u) (second : u.Expands v) : t.Expands v := by
  obtain ⟨values, rows⟩ := first.rows
  obtain ⟨more, rows'⟩ := second.rows
  refine ⟨second.name.trans first.name, first.columns.trans second.columns,
    second.key.trans first.key, values ++ more, ?_⟩
  simp [rows', rows]

theorem addColumn (t : Table) (c : Column) : t.Expands (t.addColumn c) :=
  ⟨rfl, List.prefix_append .., rfl, [c.standard], rfl⟩

/-- The columns of a table keep their places. -/
theorem columnPlace? (expands : t.Expands u) {name : String} {i : Nat}
    (here : columnPlace? t.columns none name = some i) :
    Engine.columnPlace? u.columns none name = some i := by
  obtain ⟨more, same⟩ := expands.columns
  rw [Engine.columnPlace?] at here ⊢
  rw [← same, List.findIdx?_append]
  split at here
  · next j found =>
    rw [found]
    exact here
  · split at here <;> cases here

theorem visible (expands : t.Expands u) : t.visible <+: u.visible := expands.columns.filter _

end Table.Expands

/-! ## Databases -/

/-- A database with all that another one has. -/
structure Database.Expands (db next : Database) : Prop where
  tables : ∀ t ∈ db.tables, ∃ u ∈ next.tables, t.Expands u
  indexes : ∀ x ∈ db.indexes, x ∈ next.indexes
  views : next.views = db.views
  triggers : next.triggers = db.triggers

/-- No two tables have one name, as the engine compares names. -/
def Database.Apart (db : Database) : Prop :=
  db.tables.Pairwise fun t u => sameName t.name u.name = false

/-- A table has a column of a name, as the engine compares names. -/
def Database.HasColumn (db : Database) (table column : String) : Prop :=
  ∃ t i, db.table? table = some t ∧ columnPlace? t.columns none column = some i

/-- An index is on the column of a name, and on no other one, of the table of a name. -/
def Database.IndexOn (db : Database) (table column : String) (x : Index) : Prop :=
  ∃ t i, db.table? table = some t ∧ x.table = t.name
    ∧ columnPlace? t.columns none column = some i ∧ x.columns = some [i]

namespace Database

variable {db next last : Database} {name : String} {t : Table}

theorem table?_mem (found : db.table? name = some t) : t ∈ db.tables := List.mem_of_find?_eq_some found

theorem Apart.table? (apart : db.Apart) (member : t ∈ db.tables) (same : sameName t.name name = true) :
    db.table? name = some t := by
  obtain ⟨before, after, split⟩ := List.append_of_mem member
  rw [Apart, split, List.pairwise_append] at apart
  have none_before : before.find? (fun u => sameName u.name name) = none := by
    refine List.find?_eq_none.mpr fun u listed other => ?_
    have different := apart.2.2 u listed t (List.mem_cons_self ..)
    rw [EntityStore.sameName_trans other, EntityStore.sameName_comm, same] at different
    cases different
  rw [Database.table?, split, List.find?_append, none_before, Option.none_or]
  exact List.find?_cons_of_pos same

theorem Apart.unique (apart : db.Apart) {u : Table} (first : t ∈ db.tables) (second : u ∈ db.tables)
    (same : sameName u.name t.name = true) : u = t := by
  have found := apart.table? second same
  rw [apart.table? first (EntityStore.sameName_refl _)] at found
  exact (Option.some.inj found).symm

/-- A table that is put in the place of the one of its name has no other name. -/
theorem Apart.setTable (apart : db.Apart) (u : Table) : (db.setTable u).Apart := by
  have names (v : Table) : sameName (if sameName v.name u.name then u else v).name v.name = true := by
    split
    · next same => rw [EntityStore.sameName_comm]; exact same
    · exact EntityStore.sameName_refl _
  rw [Apart, Database.setTable, List.pairwise_map]
  refine List.Pairwise.imp (fun {v w} different => ?_) apart
  rw [EntityStore.sameName_trans (names v), EntityStore.sameName_comm,
    EntityStore.sameName_trans (names w), EntityStore.sameName_comm]
  exact different

namespace Expands

theorem refl (db : Database) : db.Expands db :=
  ⟨fun t member => ⟨t, member, .refl t⟩, fun _ member => member, rfl, rfl⟩

theorem trans (first : db.Expands next) (second : next.Expands last) : db.Expands last where
  tables t member := by
    obtain ⟨u, between, here⟩ := first.tables t member
    obtain ⟨v, after, there⟩ := second.tables u between
    exact ⟨v, after, here.trans there⟩
  indexes x member := second.indexes x (first.indexes x member)
  views := second.views.trans first.views
  triggers := second.triggers.trans first.triggers

theorem counted (db : Database) : db.Expands db.counted :=
  ⟨fun t member => ⟨t, member, .refl t⟩, fun _ member => member, rfl, rfl⟩

variable (expands : db.Expands next)
include expands

theorem table? (apart : next.Apart) (found : db.table? name = some t) :
    ∃ u, next.table? name = some u ∧ t.Expands u := by
  obtain ⟨u, member, more⟩ := expands.tables t (table?_mem found)
  exact ⟨u, apart.table? member (more.name ▸ Engine.table?_name found), more⟩

theorem hasTable (has : db.hasTable name = true) : next.hasTable name = true := by
  obtain ⟨t, member, same⟩ := List.any_eq_true.mp has
  obtain ⟨u, listed, more⟩ := expands.tables t member
  exact List.any_eq_true.mpr ⟨u, listed, more.name ▸ same⟩

theorem hasIndex (has : db.hasIndex name = true) : next.hasIndex name = true := by
  obtain ⟨x, member, same⟩ := List.any_eq_true.mp has
  exact List.any_eq_true.mpr ⟨x, expands.indexes x member, same⟩

theorem hasColumn (apart : next.Apart) {table column : String} (has : db.HasColumn table column) :
    next.HasColumn table column := by
  obtain ⟨t, i, found, place⟩ := has
  obtain ⟨u, there, more⟩ := expands.table? apart found
  exact ⟨u, i, there, more.columnPlace? place⟩

theorem indexOn (apart : next.Apart) {table column : String} {x : Index}
    (on : db.IndexOn table column x) : next.IndexOn table column x := by
  obtain ⟨t, i, found, name, place, columns⟩ := on
  obtain ⟨u, there, more⟩ := expands.table? apart found
  exact ⟨u, i, there, name.trans more.name.symm, more.columnPlace? place, columns⟩

end Expands

/-! ## Steps -/

theorem Expands.created (apart : db.Apart) (free : db.table? t.name = none) :
    db.Expands { db with tables := db.tables ++ [t] }
      ∧ Apart { db with tables := db.tables ++ [t] } := by
  refine ⟨⟨fun u member => ⟨u, List.mem_append_left _ member, .refl u⟩, fun _ member => member, rfl, rfl⟩,
    List.pairwise_append.mpr ⟨apart, List.pairwise_singleton _ _, fun u member v new => ?_⟩⟩
  rw [List.mem_singleton.mp new]
  simpa using List.find?_eq_none.mp free u member

theorem Expands.setTable (apart : db.Apart) (member : t ∈ db.tables) {u : Table} (more : t.Expands u) :
    db.Expands (db.setTable u) ∧ (db.setTable u).Apart := by
  refine ⟨⟨fun v listed => ?_, fun _ listed => listed, rfl, rfl⟩, apart.setTable u⟩
  by_cases same : sameName v.name u.name = true
  · have equal : v = t := apart.unique member listed (more.name ▸ same)
    exact ⟨u, List.mem_map.mpr ⟨v, listed, if_pos same⟩, equal ▸ more⟩
  · exact ⟨v, List.mem_map.mpr ⟨v, listed, if_neg same⟩, .refl v⟩

theorem Expands.indexed (db : Database) (x : Index) :
    db.Expands { db with indexes := db.indexes ++ [x] } :=
  ⟨fun t member => ⟨t, member, .refl t⟩, fun _ member => List.mem_append_left _ member, rfl, rfl⟩

end Database

end Engine

/-! ## Definitions -/

/-- A database after a definition that has not been counted yet. -/
structure Defined (db next : Database) : Prop where
  expands : db.Expands next
  apart : next.Apart
  version : next.version = db.version

namespace MappingPlan

variable {p : MappingPlan} {c : ColumnPlan} {db next : Database}

theorem Creates.defined (creates : p.Creates db next) (apart : db.Apart) : Defined db next := by
  rcases creates with ⟨free, t, founds, rfl⟩ | ⟨_, rfl⟩
  · have absent : db.table? t.name = none := by
      rw [founds.name]
      by_contra there
      rw [Engine.Database.holder?, if_pos (Option.isSome_iff_ne_none.mpr there)] at free
      cases free
    obtain ⟨expands, apart⟩ := Database.Expands.created apart absent
    exact ⟨expands, apart, rfl⟩
  · exact ⟨.refl _, apart, rfl⟩

theorem Widens.defined (widens : p.Widens c db next) (apart : db.Apart) : Defined db next := by
  obtain ⟨t, column, found, _, _, _, rfl⟩ := widens
  obtain ⟨expands, apart⟩ := Database.Expands.setTable apart (Database.table?_mem found) (.addColumn t column)
  exact ⟨expands, apart, rfl⟩

theorem Indexes.defined (indexes : p.Indexes c db next) (apart : db.Apart) : Defined db next := by
  obtain ⟨t, _, ⟨_, columns, _, rfl⟩ | ⟨_, rfl⟩⟩ := indexes
  · exact ⟨.indexed db _, apart, rfl⟩
  · exact ⟨.refl _, apart, rfl⟩

end MappingPlan

/-! ## Steps of migrations -/

def MigrationReport.brought (r : MigrationReport) : Nat :=
  r.addedColumns.length + r.createdIndexes.length

structure Notes (note : MigrationReport → MigrationReport) : Prop where
  ddlCount : ∀ r, (note r).ddlCount = r.ddlCount
  created : ∀ r, (note r).created = r.created
  brought : ∀ r, (note r).brought = r.brought + 1

structure Advances (s t : Migrating) : Prop where
  expands : s.2.Expands t.2
  count : s.1.ddlCount ≤ t.1.ddlCount
  created : t.1.created = s.1.created
  brought : t.1.ddlCount + s.1.brought = s.1.ddlCount + t.1.brought
  version : s.2.version.toInt + (t.1.ddlCount - s.1.ddlCount) < 2 ^ 31 →
    t.2.version.toInt = s.2.version.toInt + (t.1.ddlCount - s.1.ddlCount)

namespace Advances

variable {s t u : Migrating}

theorem refl (s : Migrating) : Advances s s :=
  ⟨.refl _, Nat.le_refl _, rfl, rfl, fun _ => by omega⟩

theorem trans (first : Advances s t) (second : Advances t u) : Advances s u where
  expands := first.expands.trans second.expands
  count := Nat.le_trans first.count second.count
  created := second.created.trans first.created
  brought := by
    have here := first.brought
    have there := second.brought
    omega
  version room := by
    have here := first.count
    have there := second.count
    have counted := first.version (by omega)
    have again := second.version (by omega)
    omega

end Advances

theorem Engine.Database.counted_version {db : Database} (room : db.version.toInt + 1 < 2 ^ 31) :
    db.counted.version.toInt = db.version.toInt + 1 := by
  have low := db.version.le_toInt
  have fits : Number.Fits 32 (db.version.toInt + 1) := by
    have bound : Number.halfRange 32 = 2 ^ 31 := by decide
    rw [Number.Fits, bound]
    omega
  simp only [counted, Session.versionOf, if_pos fits]
  exact Int32.toInt_ofInt_of_le (by omega) (by omega)

section
variable {present : Database → Prop} {R : Database → Database → Prop}
  {note : MigrationReport → MigrationReport} {s t : Migrating}

theorem Brings.advances (brings : Brings present R note s t) (notes : Notes note)
    (defined : ∀ next, R s.2 next → Defined s.2 next) (apart : s.2.Apart) :
    t.2.Apart ∧ Advances s t := by
  rcases brings with ⟨_, rfl⟩ | ⟨_, next, related, rfl⟩
  · exact ⟨apart, .refl _⟩
  · obtain ⟨expands, apart, version⟩ := defined next related
    refine ⟨apart, expands.trans (.counted next), ?_, ?_, ?_, fun room => ?_⟩
    · rw [notes.ddlCount]
      exact Nat.le_succ _
    · rw [notes.created]
    · rw [notes.ddlCount, notes.brought]
      change s.1.ddlCount + 1 + s.1.brought = s.1.ddlCount + (s.1.brought + 1)
      omega
    · rw [notes.ddlCount] at room ⊢
      rw [← version] at room ⊢
      have counted : next.counted.version.toInt = next.version.toInt + 1 :=
        Engine.Database.counted_version (by push_cast at room; omega)
      rw [counted]
      push_cast
      omega

end

/-- What each step keeps and leads to, and later steps do not take back, a whole run keeps and
    leads to. -/
theorem Folds.all {α σ : Type} {R : α → σ → σ → Prop} {I : σ → Prop} {T : σ → σ → Prop}
    {P : α → σ → Prop} {items : List α} {s t : σ} (refl : ∀ s, T s s)
    (trans : ∀ s t u, T s t → T t u → T s u)
    (step : ∀ a ∈ items, ∀ s t, R a s t → I s → I t ∧ T s t ∧ P a t)
    (stays : ∀ a ∈ items, ∀ s t, T s t → I t → P a s → P a t) (folds : Folds R items s t)
    (start : I s) : I t ∧ T s t ∧ ∀ a ∈ items, P a t := by
  induction folds with
  | nil s => exact ⟨start, refl s, nofun⟩
  | @cons a rest s t u here later ih =>
    obtain ⟨holds, moved, reached⟩ := step a (List.mem_cons_self ..) s t here start
    obtain ⟨last, further, others⟩ := ih (fun a member => step a (List.mem_cons_of_mem _ member))
      (fun a member => stays a (List.mem_cons_of_mem _ member)) holds
    exact ⟨last, trans _ _ _ moved further, List.forall_mem_cons.mpr
      ⟨stays a (List.mem_cons_self ..) t u further last reached, others⟩⟩

/-- What no step changes, a whole run does not change. -/
theorem Folds.same {α β σ : Type} {R : α → σ → σ → Prop} {f : σ → β} {items : List α} {s t : σ}
    (each : ∀ a ∈ items, ∀ s t, R a s t → f t = f s) (folds : Folds R items s t) : f t = f s := by
  induction folds with
  | nil s => rfl
  | @cons a rest s t u here later ih =>
    exact (ih fun a member => each a (List.mem_cons_of_mem _ member)).trans
      (each a (List.mem_cons_self ..) s t here)

theorem Folds.advances {α : Type} {R : α → Migrating → Migrating → Prop} {items : List α} {s t : Migrating}
    (each : ∀ a ∈ items, ∀ s t, R a s t → s.2.Apart → t.2.Apart ∧ Advances s t)
    (folds : Folds R items s t) (apart : s.2.Apart) : t.2.Apart ∧ Advances s t := by
  obtain ⟨apart, advances, _⟩ := folds.all (P := fun _ _ => True) Advances.refl
    (fun _ _ _ => Advances.trans)
    (fun a member s t brings apart =>
      ⟨(each a member s t brings apart).1, (each a member s t brings apart).2, trivial⟩)
    (fun _ _ _ _ _ _ _ => trivial) apart
  exact ⟨apart, advances⟩

/-! ## Whole migrations -/

namespace MappingPlan

variable {p : MappingPlan} {c : ColumnPlan} {db next : Database} {s t : Migrating}

theorem notes_column (c : ColumnPlan) :
    Notes fun r => { r with addedColumns := r.addedColumns ++ [c.column] } where
  ddlCount _ := rfl
  created _ := rfl
  brought r := by
    simp only [MigrationReport.brought, List.length_append, List.length_singleton]
    omega

theorem notes_index (p : MappingPlan) (c : ColumnPlan) :
    Notes fun r => { r with createdIndexes := r.createdIndexes ++ [c.indexName p.table] } where
  ddlCount _ := rfl
  created _ := rfl
  brought r := by
    simp only [MigrationReport.brought, List.length_append, List.length_singleton]
    omega

theorem BringsColumn.advances {live : List String} (brings : p.BringsColumn live c s t)
    (apart : s.2.Apart) : t.2.Apart ∧ Advances s t :=
  Brings.advances brings (notes_column c) (fun _ widens => widens.defined apart) apart

theorem BringsIndex.advances (brings : p.BringsIndex c s t) (apart : s.2.Apart) :
    t.2.Apart ∧ Advances s t :=
  Brings.advances brings (notes_index p c) (fun _ indexes => indexes.defined apart) apart

/-- The table of the plan has the column, letter by letter. -/
def Holds (p : MappingPlan) (c : ColumnPlan) (db : Database) : Prop :=
  ∃ t, db.table? p.table = some t ∧ ∃ column ∈ t.visible, column.name = c.column

/-- The migration takes the column for one that the table has: there is another thing of the name of
    the table, or a column whose name is the same in lower case. -/
def Skips (p : MappingPlan) (c : ColumnPlan) (db : Database) : Prop :=
  (db.holder? p.table).isSome = true
    ∧ (db.hasTable p.table = true → Text.lowercase c.column ∈ p.liveIn db)

theorem Holds.expands (holds : p.Holds c db) (expands : db.Expands next) (apart : next.Apart) :
    p.Holds c next := by
  obtain ⟨t, found, column, member, name⟩ := holds
  obtain ⟨u, there, more⟩ := expands.table? apart found
  exact ⟨u, there, column, more.visible.subset member, name⟩

theorem Holds.hasColumn (holds : p.Holds c db) : db.HasColumn p.table c.column := by
  obtain ⟨t, found, column, member, name⟩ := holds
  obtain ⟨listed, shown⟩ := List.mem_filter.mp member
  have some_place : (t.columns.findIdx? fun d => !d.hidden && sameName d.name c.column).isSome = true := by
    rw [List.findIdx?_isSome, List.any_eq_true]
    exact ⟨column, listed, by rw [shown, name, sameName_refl]; rfl⟩
  obtain ⟨i, place⟩ := Option.isSome_iff_exists.mp some_place
  exact ⟨t, i, found, by rw [columnPlace?, place]⟩

theorem BringsTable.columns (brings : p.BringsTable db t) (apart : db.Apart) :
    t.2.Apart ∧ db.Expands t.2 ∧ ∀ c ∈ p.columns, p.Skips c db ∨ p.Holds c t.2 := by
  -- A table that is there gets the columns that it lacks, and one that is not there is made with all.
  rcases brings with ⟨has, folds⟩ | ⟨lacks, next, creates, rfl⟩
  · have holder : (db.holder? p.table).isSome = true := by
      obtain ⟨u, member, same⟩ := List.any_eq_true.mp has
      have name : u.name = p.table := of_decide_eq_true same
      have found : db.table? p.table = some u := apart.table? member (name ▸ sameName_refl _)
      rw [Database.holder?, found]
      rfl
    have step : ∀ c ∈ p.columns, ∀ s t, p.BringsColumn (p.liveIn db) c s t → s.2.Apart →
        t.2.Apart ∧ Advances s t
          ∧ (Text.lowercase c.column ∈ p.liveIn db ∨ p.Holds c t.2) := by
      intro c member s t brings apart
      obtain ⟨apart', advances⟩ := brings.advances apart
      refine ⟨apart', advances, ?_⟩
      rcases brings with ⟨present, rfl⟩ | ⟨_, next, widens, rfl⟩
      · exact .inl present
      · obtain ⟨t, column, found, _, name, shown, rfl⟩ := widens
        refine .inr ⟨t.addColumn column, ?_, column, ?_, name⟩
        · exact (table?_setTable _ _ _).trans (by
            rw [found]
            exact congrArg some (if_pos (sameName_refl _)))
        · exact List.mem_filter.mpr ⟨List.mem_append_right _ (List.mem_singleton_self _), by rw [shown]; rfl⟩
    obtain ⟨apart, advances, all⟩ := folds.all Advances.refl (fun _ _ _ => Advances.trans) step
      (fun c _ s t advances apart holds =>
        holds.imp id fun holds => holds.expands advances.expands apart) apart
    exact ⟨apart, advances.expands, fun c member => (all c member).imp (fun live => ⟨holder, fun _ => live⟩) id⟩
  · obtain ⟨expands, apart', version⟩ := creates.defined apart
    refine ⟨apart', expands.trans (.counted next), fun c member => ?_⟩
    rcases creates with ⟨free, t, founds, rfl⟩ | ⟨taken, rfl⟩
    · have listed : c.column ∈ t.columns.map (·.name) :=
        founds.columns ▸ List.mem_map_of_mem member
      obtain ⟨column, there, name⟩ := List.mem_map.mp listed
      refine .inr ⟨t, apart'.table? (List.mem_append_right _ (List.mem_singleton_self _))
        (founds.name ▸ sameName_refl _), column, List.mem_filter.mpr ⟨there, ?_⟩, name⟩
      rw [founds.shown column there]
      rfl
    · exact .inl ⟨taken, fun has => by rw [lacks] at has; cases has⟩

theorem Migrates.spec {report : MigrationReport} (migrates : p.Migrates db report next)
    (apart : db.Apart) : next.Apart ∧ db.Expands next
      ∧ report.created = !db.hasTable p.table
      ∧ report.ddlCount = report.created.toNat + report.brought
      ∧ (db.version.toInt + report.ddlCount < 2 ^ 31 →
        next.version.toInt = db.version.toInt + report.ddlCount) := by
  obtain ⟨t, brings, folds⟩ := migrates
  obtain ⟨between, grown, _⟩ := brings.columns apart
  obtain ⟨apart', advances⟩ := Folds.advances (fun _ _ _ _ => BringsIndex.advances) folds between
  refine ⟨apart', grown.trans advances.expands, ?_⟩
  have later := advances.brought
  have more := advances.count
  have created := advances.created
  -- A table that is created counts once, with the columns that it is created with.
  rcases brings with ⟨has, columns⟩ | ⟨lacks, mid, creates, rfl⟩
  · obtain ⟨_, first⟩ := Folds.advances (fun _ _ _ _ => BringsColumn.advances) columns apart
    have whole := first.trans advances
    have uncreated : report.created = false := whole.created
    have brought : report.ddlCount + 0 = 0 + report.brought := whole.brought
    have version := whole.version
    refine ⟨by rw [has, uncreated]; rfl, by rw [uncreated]; simpa using brought, fun room => ?_⟩
    simpa using version (by simpa using room)
  · have version := (creates.defined apart).version
    have flag : report.created = true := created
    have brought : report.ddlCount + 0 = 1 + report.brought := later
    refine ⟨by rw [lacks, flag]; rfl, by rw [flag]; simpa using brought, fun room => ?_⟩
    have some_room : mid.version.toInt + 1 < 2 ^ 31 := by
      have one : 1 ≤ report.ddlCount := more
      rw [version]
      omega
    have counted := Engine.Database.counted_version some_room
    have rest := advances.version
    dsimp only at rest
    rw [counted, version] at rest
    have total := rest (by push_cast; omega)
    push_cast at total
    omega

/-- The definitions of a table leave the indexes as they are. -/
theorem BringsTable.indexes {t : Migrating} (brings : p.BringsTable db t) :
    t.2.indexes = db.indexes := by
  rcases brings with ⟨_, folds⟩ | ⟨_, mid, ⟨_, u, _, rfl⟩ | ⟨_, rfl⟩, rfl⟩
  · have step : ∀ c ∈ p.columns, ∀ s t, p.BringsColumn (p.liveIn db) c s t →
        t.2.indexes = s.2.indexes := by
      rintro c _ s t (⟨_, rfl⟩ | ⟨_, next, ⟨_, _, _, _, _, _, rfl⟩, rfl⟩)
      · rfl
      · rfl
    exact folds.same (f := fun s => s.2.indexes) step
  · rfl
  · rfl

/-! ## Indexes after a migration -/

def IndexFor (p : MappingPlan) (c : ColumnPlan) (db : Database) (x : Index) : Prop :=
  x.name = c.indexName p.table ∧ ∃ t, db.table? p.table = some t ∧ x.table = t.name
    ∧ ∀ i, columnPlace? t.columns none c.column = some i → x.columns = some [i]

/-- The indexes that a migration has added so far are those of the plan, and their names were free. -/
structure Added (p : MappingPlan) (db next : Database) : Prop where
  tables : next.tables = db.tables
  indexes : ∃ added : List Index, next.indexes = db.indexes ++ added
    ∧ (∀ x ∈ added, ∃ c ∈ p.indexedColumns, p.IndexFor c db x)
    ∧ (∀ x ∈ added, db.index? x.name = none)
    ∧ added.Pairwise fun x y => sameName x.name y.name = false

theorem index?_none_iff {name : String} :
    db.index? name = none ↔ ∀ x ∈ db.indexes, sameName x.name name = false := by
  simp [Database.index?, List.find?_eq_none]

theorem Added.step {s t : Migrating} {c : ColumnPlan} (member : c ∈ p.indexedColumns)
    (added : p.Added db s.2) (brings : p.BringsIndex c s t) : p.Added db t.2 := by
  rcases brings with ⟨_, rfl⟩ | ⟨_, next, ⟨u, found, ⟨free, columns, places, rfl⟩ | ⟨_, rfl⟩⟩, rfl⟩
  · exact added
  · obtain ⟨tables, before, split, names, fresh, apart⟩ := added
    rw [index?_none_iff, split, List.forall_mem_append] at free
    rw [Database.table?, tables, ← Database.table?] at found
    refine ⟨tables, before ++ [_], by
      rw [← List.append_assoc, ← split]; rfl, ?_, ?_, ?_⟩
    · exact List.forall_mem_append.mpr ⟨names, List.forall_mem_singleton.mpr
        ⟨c, member, rfl, u, found, rfl, places⟩⟩
    · exact List.forall_mem_append.mpr
        ⟨fresh, List.forall_mem_singleton.mpr (index?_none_iff.mpr free.1)⟩
    · refine List.pairwise_append.mpr ⟨apart, List.pairwise_singleton _ _, fun x old y new => ?_⟩
      rw [List.mem_singleton.mp new]
      exact free.2 x old
  · exact ⟨added.tables, added.indexes⟩

theorem Added.refl (p : MappingPlan) (db : Database) : p.Added db db :=
  ⟨rfl, [], by simp, nofun, nofun, .nil⟩

theorem hasIndex_iff {name : String} : db.hasIndex name = true ↔ ∃ x ∈ db.indexes, x.name = name := by
  simp [Database.hasIndex]

/-- What the indexes of a plan leave behind: an index of each of its names, as the engine compares
    names. -/
theorem addsIndexes {s t : Migrating} (apart : s.2.Apart)
    (folds : Folds p.BringsIndex p.indexedColumns s t) : p.Added s.2 t.2 ∧ t.2.Apart
      ∧ s.2.Expands t.2 ∧ ∀ c ∈ p.indexedColumns, t.2.index? (c.indexName p.table) ≠ none := by
  -- A definition that finds the name taken does nothing, and then the name is taken all the same.
  have step : ∀ c ∈ p.indexedColumns, ∀ u v, p.BringsIndex c u v → u.2.Apart ∧ p.Added s.2 u.2 →
      (v.2.Apart ∧ p.Added s.2 v.2) ∧ Advances u v ∧ v.2.index? (c.indexName p.table) ≠ none := by
    rintro c member u v brings ⟨apart, added⟩
    obtain ⟨apart', advances⟩ := brings.advances apart
    refine ⟨⟨apart', added.step member brings⟩, advances, fun free => ?_⟩
    rw [index?_none_iff] at free
    rcases brings with ⟨present, rfl⟩ | ⟨_, next, ⟨_, _, ⟨_, _, _, rfl⟩ | ⟨taken, rfl⟩⟩, rfl⟩
    · obtain ⟨x, listed, name⟩ := hasIndex_iff.mp present
      have other := free x listed
      rw [name, sameName_refl] at other
      cases other
    · have other := free _ (List.mem_append_right _ (List.mem_singleton_self _))
      rw [sameName_refl] at other
      cases other
    · have absent : u.2.index? (c.indexName p.table) = none := index?_none_iff.mpr free
      rw [absent] at taken
      cases taken
  obtain ⟨⟨apart', added⟩, advances, all⟩ := folds.all Advances.refl (fun _ _ _ => Advances.trans)
    step (fun c _ u v advances _ there free => there (index?_none_iff.mpr fun x listed =>
      index?_none_iff.mp free x (advances.expands.indexes x listed))) ⟨apart, Added.refl p s.2⟩
  exact ⟨added, apart', advances.expands, all⟩

end MappingPlan

end EntityStore
