import Mathlib.Logic.Relation
import EntityStore.Proofs.Table.Growth

/-! # Tables side by side

What the statements of one plan leave alone in a database that other plans share:

* `MappingPlan.Change`, `MappingPlan.Changes` — what the statements of a plan do to a database.
* `MappingPlan.Spares`, `MappingPlan.Apart` — plans whose names the engine keeps apart, perhaps
  versions of one table.
* `MappingPlan.Serves` — a database from which the mapper of a plan reads rows, once its table is up
  to date.
* `Ready.step`, `In.step`, `Serves.step` — all of it stays when another plan changes its table.
-/

namespace EntityStore

open EntityStore.Engine (Database Table Row)
open EntityStore.Sql (sameName foldWord)

/-! ## Names -/

theorem length_foldWord (name : String) : (foldWord name).toList.length = name.toList.length := by
  simp [foldWord]

theorem sameName_indexName (c : ColumnPlan) (table : String) :
    sameName table (c.indexName table) = false := by
  by_contra same
  rw [Bool.not_eq_false, sameName, decide_eq_true_eq] at same
  have lengths := congrArg (fun name => name.toList.length) same
  simp only [length_foldWord, ColumnPlan.indexName, String.toList_append, List.length_append] at lengths
  have under : ("_" : String).toList.length = 1 := rfl
  omega

theorem sameName_of_indexName {c d : ColumnPlan} {table : String}
    (same : sameName (c.indexName table) (d.indexName table) = true) :
    sameName c.column d.column = true := by
  simp only [sameName, decide_eq_true_eq, foldWord, String.ofList_inj, ColumnPlan.indexName,
    String.toList_append, List.map_append, List.append_cancel_left_eq, List.append_cancel_right_eq]
    at same ⊢
  exact same

namespace MappingPlan

/-! ## Changes -/

/-- What one statement of the mapper of a plan does to a database. -/
inductive Change (p : MappingPlan) (db : Database) : Database → Prop
  | created (t : Table) (named : t.name = p.table) :
      Change p db { db with tables := db.tables ++ [t] }
  | replaced (t : Table) (named : t.name = p.table) : Change p db (db.setTable t)
  | indexed (c : ColumnPlan) (member : c ∈ p.indexedColumns) (place : Nat) :
      Change p db { db with indexes := db.indexes ++ [p.index c place] }
  | counted (version : Int32) : Change p db { db with version := version }

/-- What the statements of the mapper of a plan do, one after the other. -/
abbrev Changes (p : MappingPlan) : Database → Database → Prop := Relation.ReflTransGen p.Change

/-- Nothing that one plan defines has the name of what another does. -/
structure Spares (p q : MappingPlan) : Prop where
  table : ∀ c ∈ p.indexedColumns, sameName (c.indexName p.table) q.table = false
  index : ∀ d ∈ q.indexedColumns, sameName p.table (d.indexName q.table) = false
  indexes : ∀ c ∈ p.indexedColumns, ∀ d ∈ q.indexedColumns,
    sameName (c.indexName p.table) (d.indexName q.table) = true →
      c.indexName p.table = d.indexName q.table

/-- Plans that have tables of their own as well. -/
structure Apart (p q : MappingPlan) : Prop extends p.Spares q where
  tables : sameName p.table q.table = false

variable {p q : MappingPlan} {rows : List Row} {db next : Database} {layout : List ColumnPlan}

/-- Versions of one table spare each other if their columns come from one list of columns. -/
theorem Spares.versions {r : MappingPlan} (sound : r.Sound) (table : p.table = q.table)
    (first : ∀ c ∈ p.columns, ∃ e ∈ r.columns, e.column = c.column)
    (second : ∀ d ∈ q.columns, ∃ e ∈ r.columns, e.column = d.column) : p.Spares q where
  table c _ := by rw [sameName_comm, ← table]; exact sameName_indexName c p.table
  index d _ := by rw [table]; exact sameName_indexName d q.table
  indexes c member d listed same := by
    obtain ⟨e, known, name⟩ := first c (List.mem_filter.mp member).1
    obtain ⟨f, stated, letters⟩ := second d (List.mem_filter.mp listed).1
    rw [← table] at same ⊢
    have columns := sameName_of_indexName same
    rw [← name, ← letters] at columns
    have equal := column_unique sound.apart known stated columns
    simp [ColumnPlan.indexName, ← name, ← letters, equal]

theorem Sound.spares (sound : p.Sound) : p.Spares p :=
  .versions sound rfl (fun c member => ⟨c, member, rfl⟩) fun c member => ⟨c, member, rfl⟩

/-! ## What stays -/

theorem table?_created {t : Table} {name : String} (apart : sameName t.name name = false) :
    ({ db with tables := db.tables ++ [t] } : Database).table? name = db.table? name := by
  simp [Database.table?, List.find?_append, apart]

theorem table?_replaced {t : Table} {name : String} (apart : sameName t.name name = false) :
    (db.setTable t).table? name = db.table? name := by
  rw [table?_setTable]
  cases found : db.table? name with
  | none => rfl
  | some other =>
    have named : sameName other.name name = true := by
      simpa using List.find?_some found
    have different : sameName other.name t.name = false := by
      rw [sameName_trans named, sameName_comm]
      exact apart
    simp [different]

/-- No name but that of its table stands for something else when a plan changes its table. -/
theorem Change.table? (change : p.Change db next) {name : String}
    (apart : sameName p.table name = false) : next.table? name = db.table? name := by
  cases change with
  | created t named => exact table?_created (named ▸ apart)
  | replaced t named => exact table?_replaced (named ▸ apart)
  | _ => rfl

section
variable (spares : p.Spares q) (change : p.Change db next)
include change

theorem Clear.step (clear : q.Clear db) : q.Clear next := by
  cases change with
  | indexed c member place =>
    refine ⟨clear.view, clear.triggers, fun x listed named => ?_⟩
    rcases List.mem_append.mp listed with old | new
    · exact clear.plain x old named
    · rw [List.mem_singleton.mp new]
      rfl
  | _ => exact ⟨clear.view, clear.triggers, clear.plain⟩

theorem view?_step (name : String) : next.view? name = db.view? name := by
  cases change <;> rfl

include spares

theorem Ready.step (ready : q.Ready db) : q.Ready next := by
  have holders : ∀ d ∈ q.indexedColumns, next.holder? (d.indexName q.table) = none := by
    intro d member
    have before := ready.holders d member
    rw [Database.holder?] at before ⊢
    rw [change.table? (spares.index d member), view?_step change]
    exact before
  refine ⟨ready.toClear.step change, ?_, holders, ?_⟩
  · -- Only an index that is added could get in the way, and its name is spared.
    cases change with
    | indexed c member place =>
      have before := ready.index
      have other : sameName (p.index c place).name q.table = false := spares.table c member
      rw [Database.index?] at before ⊢
      rw [List.find?_append, before, List.find?_singleton]
      simp [other]
    | _ => exact ready.index
  · cases change with
    | indexed c member place =>
      intro d listed x there same
      rcases List.mem_append.mp there with old | new
      · exact ready.indexes d listed x old same
      · rw [List.mem_singleton.mp new] at same ⊢
        exact spares.indexes c member d listed same
    | _ => exact ready.indexes

end

/-! ## Rows that are served -/

/-- A database from which the mapper of a plan reads rows, once its table is up to date: there is no
    table and there are no rows, or the table is that of a plan which grows into this one. -/
inductive Serves (p : MappingPlan) (rows : List Row) (db : Database) : Prop
  | absent (table : db.table? p.table = none) (none : rows = [])
  | older (q : MappingPlan) (layout : List ColumnPlan) (stored : List Row) (grows : q.GrowsInto p)
      (table : q.In layout stored db) (wide : ∀ row ∈ stored, row.length = q.columns.length)
      (same : rows = stored.map (q.picked p.columns))

theorem Serves.wide (serves : p.Serves rows db) : ∀ row ∈ rows, row.length = p.columns.length := by
  intro row member
  cases serves with
  | absent table none => rw [none] at member; cases member
  | older q layout stored grows table wide same =>
    rw [same] at member
    obtain ⟨old, _, rfl⟩ := List.mem_map.mp member
    exact length_picked p.columns old

/-- A table that is up to date is read as it is. -/
theorem In.serves (sound : p.Sound) (stored : p.In layout rows db)
    (wide : ∀ row ∈ rows, row.length = p.columns.length) : p.Serves rows db :=
  .older p layout rows (.refl sound) stored wide
    ((List.map_congr_left fun row member => picked_columns sound.apart (wide row member)).trans
      (List.map_id' rows)).symm

section
variable (apart : sameName p.table q.table = false) (change : p.Change db next)
include apart change

theorem In.step (stored : q.In layout rows db) : q.In layout rows next :=
  ⟨stored.toClear.step change, stored.perm, (change.table? apart).trans stored.found⟩

theorem Serves.step (serves : q.Serves rows db) : q.Serves rows next := by
  cases serves with
  | absent table none => exact .absent ((change.table? apart).trans table) none
  | older r layout stored grows table wide same =>
    exact .older r layout stored grows (table.step (grows.table ▸ apart) change) wide same

end

/-! ## Many statements -/

theorem Ready.changes (spares : p.Spares q) (changes : p.Changes db next) (ready : q.Ready db) :
    q.Ready next := by
  induction changes with
  | refl => exact ready
  | tail _ change ih => exact ih.step spares change

theorem In.changes (apart : sameName p.table q.table = false) (changes : p.Changes db next)
    (stored : q.In layout rows db) : q.In layout rows next := by
  induction changes with
  | refl => exact stored
  | tail _ change ih => exact ih.step apart change

theorem Serves.changes (apart : sameName p.table q.table = false) (changes : p.Changes db next)
    (serves : q.Serves rows db) : q.Serves rows next := by
  induction changes with
  | refl => exact serves
  | tail _ change ih => exact ih.step apart change

end MappingPlan

end EntityStore
