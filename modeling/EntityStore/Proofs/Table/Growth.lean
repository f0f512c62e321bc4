import Mathlib.Data.List.Nodup
import EntityStore.Proofs.Table.Definition

/-! # Tables that grow

A table of an older plan becomes the table of a newer one by getting the columns that it lacks, at
its end and in whatever order:

* `MappingPlan.GrowsInto` — a plan whose columns are columns of another.
* `MappingPlan.prepare_addColumn` — one more column, as a program.
* `MappingPlan.GrowsInto.completed` — the table when no column is lacking any more.
-/

namespace EntityStore

open EntityStore.Engine (Database Table Row Program)
open EntityStore.Sql (Datum sameName isName)

namespace MappingPlan

def grown (q : MappingPlan) (c : ColumnPlan) : MappingPlan := { q with columns := q.columns ++ [c] }

/-- A plan whose table becomes the table of another by getting the columns that it lacks. -/
structure GrowsInto (q p : MappingPlan) : Prop where
  sound : q.Sound
  table : q.table = p.table
  key : q.keyColumn = p.keyColumn
  columns : ∀ c ∈ q.columns, ∃ d ∈ p.columns, d.column = c.column ∧ d.affinity = c.affinity
    ∧ d.primaryKey = c.primaryKey
  /-- A column that is lacking has no name that another column has but for the case of letters. -/
  lower : ∀ d ∈ p.columns, d.column ∉ q.columnNames →
    ∀ e ∈ p.columns, Text.lowercase e.column = Text.lowercase d.column → e = d

theorem GrowsInto.refl {p : MappingPlan} (sound : p.Sound) : p.GrowsInto p where
  sound := sound
  table := rfl
  key := rfl
  columns c member := ⟨c, member, rfl, rfl, rfl⟩
  lower _ member absent := absurd (List.mem_map_of_mem member) absent

variable {q p : MappingPlan} {rows : List Row} {db : Database} {layout : List ColumnPlan}
  {c : ColumnPlan}

/-- Names that differ only in the case of their letters make one column. -/
theorem column_unique (apart : p.columns.Pairwise fun c d => sameName c.column d.column = false)
    {c d : ColumnPlan} (first : c ∈ p.columns) (second : d ∈ p.columns)
    (same : sameName c.column d.column = true) : c = d := by
  obtain ⟨i, here⟩ := List.getElem?_of_mem first
  obtain ⟨j, there⟩ := List.getElem?_of_mem second
  have place : p.placeOf d.column = i := by
    rw [← placeOf_column apart here, placeOf, placeOf]
    congr 1
    funext e
    rw [sameName_comm, ← sameName_trans same, sameName_comm]
  rw [placeOf_column apart there] at place
  rw [place, here, Option.some.injEq] at there
  exact there

/-! ## One more column -/

section
variable (fresh : ∀ d ∈ q.columns, sameName d.column c.column = false)
include fresh

theorem Sound.grown (sound : q.Sound) (named : isName c.column = true) (plain : c.primaryKey = false) :
    (q.grown c).Sound where
  table := sound.table
  columns d member := by
    rcases List.mem_append.mp member with old | new
    · exact sound.columns d old
    · rw [List.mem_singleton.mp new]
      exact named
  key := by
    obtain ⟨d, member, same⟩ := List.mem_map.mp sound.key
    exact List.mem_map.mpr ⟨d, List.mem_append_left _ member, same⟩
  apart := List.pairwise_append.mpr ⟨sound.apart, List.pairwise_singleton _ _, fun d old e new => by
    rw [List.mem_singleton.mp new]
    exact fresh d old⟩
  keyPlace := by
    obtain ⟨d, here, name, affinity⟩ := sound.keyPlace
    exact ⟨d, by rw [MappingPlan.grown, List.getElem?_append_left sound.keyBound, here], name, affinity⟩
  keyFlag i d here := by
    -- The new column is last and no key, so the key stays where it is.
    by_cases old : i < q.columns.length
    · rw [MappingPlan.grown, List.getElem?_append_left old] at here
      exact sound.keyFlag i d here
    · rw [MappingPlan.grown, List.getElem?_append_right (Nat.le_of_not_lt old)] at here
      obtain ⟨_, rfl⟩ : i - q.columns.length = 0 ∧ c = d := by
        simpa [List.getElem?_singleton] using here
      have bound := sound.keyBound
      rw [plain, eq_comm, decide_eq_false_iff_not, MappingPlan.grown]
      dsimp only
      omega

theorem placeOf_fresh : q.placeOf c.column = q.columns.length := List.findIdx_eq_length.mpr fresh

end

theorem picked_grown {row : Row} (wide : row.length = q.columns.length) (columns : List ColumnPlan) :
    (q.grown c).picked columns (row ++ [.null]) = q.picked columns row := by
  refine List.map_congr_left fun d _ => ?_
  rw [List.getD_eq_getElem?_getD, List.getD_eq_getElem?_getD]
  have place : (q.grown c).placeOf d.column =
      if q.placeOf d.column < q.columns.length then q.placeOf d.column
      else [c].findIdx (fun e => sameName e.column d.column) + q.columns.length :=
    List.findIdx_append
  by_cases known : q.placeOf d.column < q.columns.length
  · rw [place, if_pos known, List.getElem?_append_left (by omega)]
  · rw [place, if_neg known, List.getElem?_append_right (by omega),
      List.getElem?_eq_none (by omega : row.length ≤ q.placeOf d.column), List.getElem?_singleton]
    split <;> rfl

theorem shape_grown (bound : (q.onto layout).primaryKey < layout.length) (rows : List Row) :
    ((q.onto layout).shape rows).addColumn (columnOf c) =
      ((q.grown c).onto (layout ++ [c])).shape (rows.map (· ++ [.null])) := by
  have key : (layout ++ [c]).findIdx (·.primaryKey) = layout.findIdx (·.primaryKey) := by
    have inside : layout.findIdx (·.primaryKey) < layout.length := bound
    rw [List.findIdx_append, if_pos inside]
  have other : [layout.findIdx (·.primaryKey)].contains layout.length = false := by
    have inside : layout.findIdx (·.primaryKey) < layout.length := bound
    simp
    omega
  simp only [Table.addColumn, shape, onto, grown, key, List.zipIdx_append, List.map_append,
    List.zipIdx_singleton, List.map_singleton, Nat.zero_add, other]
  rfl

theorem prepare_addColumn (sound : q.Sound) (stored : q.In layout rows db)
    (wide : ∀ row ∈ rows, row.length = q.columns.length)
    (fresh : ∀ d ∈ q.columns, sameName d.column c.column = false) (place : Nat) : ∃ program t,
      db.prepare (.alter ⟨place, none, q.table, q.table⟩
        (.addColumn { name := c.column, type := c.affinity.keyword })) = .ok (some program)
      ∧ Defines program db (db.setTable t) ∧ t.name = q.table
      ∧ (q.grown c).In (layout ++ [c]) (rows.map (· ++ [.null])) (db.setTable t) := by
  let laid := (q.onto layout).shape (rows.map (q.picked layout))
  have grown : laid.addColumn (columnOf c) = ((q.grown c).onto (layout ++ [c])).shape
      ((rows.map (· ++ [.null])).map ((q.grown c).picked (layout ++ [c]))) := by
    have same : (rows.map (q.picked layout)).map (· ++ [.null]) =
        (rows.map (· ++ [.null])).map ((q.grown c).picked (layout ++ [c])) := by
      simp only [List.map_map]
      refine List.map_congr_left fun row member => ?_
      -- A row has nothing in the place of a column that is unknown.
      have nothing : row.getD (q.placeOf c.column) .null = .null := by
        rw [placeOf_fresh fresh, ← wide row member]
        simp
      simp only [Function.comp_apply, picked_grown (wide row member)]
      rw [picked, picked, List.map_append, List.map_singleton, nothing]
    rw [shape_grown (sound.onto stored.perm).keyBound, same]
  have unknown : (Engine.columnPlace? laid.columns none c.column).isSome = false := by
    have none_same : laid.columns.findIdx? (fun d => !d.hidden && sameName d.name c.column) = none := by
      rw [List.findIdx?_eq_none_iff]
      intro d member
      obtain ⟨⟨e, i⟩, listed, rfl⟩ := List.mem_map.mp member
      have apart := fresh e (stored.perm.mem_iff.mp (List.fst_mem_of_mem_zipIdx listed))
      simp [apart]
    have number : laid.rowId = none := rfl
    simp only [Engine.columnPlace?, none_same]
    split <;> rfl
  have found : db.table? laid.name = some laid := stored.found
  have prepared : ∃ program, Engine.prepareColumn db ⟨place, none, q.table, q.table⟩
      { name := c.column, type := c.affinity.keyword } = .ok program
        ∧ Defines program db (db.setTable (laid.addColumn (columnOf c))) := by
    have defined : Engine.defineColumn { name := c.column, type := c.affinity.keyword } =
        .ok (columnOf c) := rfl
    have here : db.tableOf? ⟨place, none, q.table, q.table⟩ = some laid := stored.found
    simp only [Engine.prepareColumn, here, unknown, defined, bind, Except.bind, Bool.false_eq_true,
      ↓reduceIte]
    refine ⟨_, rfl, rfl, ?_⟩
    simp only [found]
    rfl
  obtain ⟨program, prepared, defines⟩ := prepared
  have clear := stored.toClear.setTable (laid.addColumn (columnOf c))
  refine ⟨program, laid.addColumn (columnOf c), congrArg (Except.map some) prepared, defines, rfl,
    ⟨clear.view, clear.triggers, clear.plain⟩, stored.perm.append_right [c], ?_⟩
  have name : (laid.addColumn (columnOf c)).name = q.table := rfl
  rw [table?_setTable, show (q.grown c).table = q.table from rfl, stored.found, Option.map_some,
    name, if_pos (by simp [shape, sameName]), grown]

/-! ## All columns -/

def namesake (p : MappingPlan) (c : ColumnPlan) : ColumnPlan := p.columns.getD (p.placeOf c.column) c

theorem namesake_column (apart : p.columns.Pairwise fun c d => sameName c.column d.column = false)
    {d : ColumnPlan} (member : d ∈ p.columns) (same : d.column = c.column) : p.namesake c = d := by
  obtain ⟨i, here⟩ := List.getElem?_of_mem member
  rw [namesake, ← same, placeOf_column apart here, List.getD_eq_getElem?_getD, here]
  rfl

namespace GrowsInto

variable (grows : q.GrowsInto p) (sound : p.Sound)
include grows sound

/-- What the columns of the older plan are in the newer one. -/
theorem namesake_mem (member : c ∈ q.columns) :
    p.namesake c ∈ p.columns ∧ (p.namesake c).column = c.column
      ∧ (p.namesake c).affinity = c.affinity ∧ (p.namesake c).primaryKey = c.primaryKey := by
  obtain ⟨d, listed, name, affinity, flag⟩ := grows.columns c member
  rw [namesake_column sound.apart listed name]
  exact ⟨listed, name, affinity, flag⟩

/-- The value of a column is the same in both plans. -/
theorem picked_namesake (members : ∀ c ∈ layout, c ∈ q.columns) (row : Row) :
    p.picked (layout.map p.namesake) (q.picked p.columns row) = q.picked layout row := by
  rw [picked, List.map_map]
  refine List.map_congr_left fun c member => ?_
  obtain ⟨listed, name, _, _⟩ := grows.namesake_mem sound (members c member)
  obtain ⟨i, here⟩ := List.getElem?_of_mem listed
  simp only [Function.comp_apply, placeOf_column sound.apart here]
  simp [picked, here, name]

theorem shape_namesake (perm : layout.Perm q.columns) (rows : List Row) :
    (p.onto (layout.map p.namesake)).shape rows = (q.onto layout).shape rows := by
  have each {c : ColumnPlan} (member : c ∈ layout) := grows.namesake_mem sound (perm.mem_iff.mp member)
  -- Namesakes are keys where their columns are, so the key has the same place.
  have key : (layout.map p.namesake).findIdx (fun c => c.primaryKey) =
      layout.findIdx fun c => c.primaryKey := by
    have flags : (layout.map p.namesake).map (fun c => c.primaryKey) =
        layout.map fun c => c.primaryKey := by
      rw [List.map_map]
      exact List.map_congr_left fun c member => (each member).2.2.2
    have index (columns : List ColumnPlan) : columns.findIdx (fun c => c.primaryKey) =
        (columns.map fun c => c.primaryKey).findIdx id := by
      rw [List.findIdx_map]
      rfl
    rw [index, flags, ← index]
  have columns (key : Nat) : (layout.map p.namesake).zipIdx.map (fun x =>
      ({ name := x.1.column, affinity := .ofType x.1.affinity.keyword
         notNull := [key].contains x.2 } : Engine.Column)) =
        layout.zipIdx.map fun x =>
          { name := x.1.column, affinity := .ofType x.1.affinity.keyword, notNull := [key].contains x.2 } := by
    refine List.ext_getElem (by simp) fun i first second => ?_
    have bound : i < layout.length := by simpa using second
    obtain ⟨_, name, affinity, _⟩ := each (List.getElem_mem bound)
    simp [name, affinity]
  simp only [shape, onto, key, columns, grows.table]

theorem perm_namesake (perm : layout.Perm q.columns)
    (all : ∀ d ∈ p.columns, d.column ∈ q.columnNames) :
    (layout.map p.namesake).Perm p.columns := by
  -- Without duplicates on either side, it is enough that both have the same members.
  have nodup {columns : List ColumnPlan}
      (apart : columns.Pairwise fun c d => sameName c.column d.column = false) : columns.Nodup :=
    apart.imp fun different same => by simp [same, sameName_refl] at different
  have mapped : (layout.map p.namesake).Nodup := by
    refine List.Nodup.of_map (·.column) ?_
    have names : (layout.map p.namesake).map (·.column) = layout.map (·.column) := by
      rw [List.map_map]
      exact List.map_congr_left fun c member => (grows.namesake_mem sound (perm.mem_iff.mp member)).2.1
    rw [names, List.Nodup, List.pairwise_map]
    exact (grows.sound.layout_apart perm).imp fun different same => by
      simp [same, sameName_refl] at different
  refine (List.perm_ext_iff_of_nodup mapped (nodup sound.apart)).mpr fun d => ?_
  constructor
  · intro member
    obtain ⟨c, listed, rfl⟩ := List.mem_map.mp member
    exact (grows.namesake_mem sound (perm.mem_iff.mp listed)).1
  · intro member
    obtain ⟨c, listed, name⟩ := List.mem_map.mp (all d member)
    exact List.mem_map.mpr ⟨c, perm.mem_iff.mpr listed, namesake_column sound.apart member name.symm⟩

/-- When no column is lacking any more, the table is that of the newer plan.  In a column that the
    older plan does not have its rows have nothing. -/
theorem completed (all : ∀ d ∈ p.columns, d.column ∈ q.columnNames) (stored : q.In layout rows db) :
    p.In (layout.map p.namesake) (rows.map (q.picked p.columns)) db where
  toClear := by
    have clear := stored.toClear
    exact ⟨grows.table ▸ clear.view, grows.table ▸ clear.triggers, grows.table ▸ clear.plain⟩
  perm := grows.perm_namesake sound stored.perm all
  found := by
    have same : (rows.map (q.picked p.columns)).map (p.picked (layout.map p.namesake)) =
        rows.map (q.picked layout) := by
      rw [List.map_map]
      exact List.map_congr_left fun row _ =>
        grows.picked_namesake sound (fun c member => stored.perm.mem_iff.mp member) row
    rw [same, grows.shape_namesake sound stored.perm, ← grows.table]
    exact stored.found

omit sound in
/-- Whether a column is lacking is seen from its name in lower case. -/
theorem lacking {d : ColumnPlan} (member : d ∈ p.columns) :
    Text.lowercase d.column ∈ q.columnNames.map Text.lowercase ↔ d.column ∈ q.columnNames := by
  refine ⟨fun found => ?_, List.mem_map_of_mem⟩
  by_contra absent
  obtain ⟨name, listed, same⟩ := List.mem_map.mp found
  obtain ⟨c, there, rfl⟩ := List.mem_map.mp listed
  obtain ⟨e, known, letters, _, _⟩ := grows.columns c there
  have equal := grows.lower d member absent e known (by rw [letters, same])
  rw [← equal, letters] at absent
  exact absent listed

variable {d : ColumnPlan} (member : d ∈ p.columns) (absent : d.column ∉ q.columnNames)
include member absent

theorem fresh : ∀ c ∈ q.columns, sameName c.column d.column = false := by
  intro c listed
  obtain ⟨e, known, name, _, _⟩ := grows.columns c listed
  by_contra same
  rw [Bool.not_eq_false, ← name] at same
  have equal := column_unique sound.apart known member same
  exact absent (List.mem_map.mpr ⟨c, listed, by rw [← name, equal]⟩)

theorem grown : (q.grown d).GrowsInto p := by
  -- The key is among the columns that are there already.
  have plain : d.primaryKey = false := by
    obtain ⟨c, here, name, _⟩ := grows.sound.keyPlace
    obtain ⟨i, there⟩ := List.getElem?_of_mem member
    obtain ⟨k, key, keyName, _⟩ := sound.keyPlace
    rw [sound.keyFlag i d there, decide_eq_false_iff_not]
    rintro rfl
    rw [there, Option.some.injEq] at key
    exact absent (List.mem_map.mpr
      ⟨c, List.mem_of_getElem? here, by rw [name, grows.key, ← keyName, key]⟩)
  refine ⟨grows.sound.grown (grows.fresh sound member absent) (sound.columns d member) plain,
    grows.table, grows.key, fun c listed => ?_, fun e known missing => ?_⟩
  · rcases List.mem_append.mp listed with old | new
    · exact grows.columns c old
    · rw [List.mem_singleton.mp new]
      exact ⟨d, member, rfl, rfl, rfl⟩
  · refine grows.lower e known fun old => missing ?_
    rw [columnNames, MappingPlan.grown, List.map_append]
    exact List.mem_append_left _ old

end GrowsInto

end MappingPlan

end EntityStore
