import EntityStore.Engine.Prepare
import EntityStore.Proofs.Mapper.Statement

/-! # Tables of plans

The table that a plan asks for, and what its columns are to the engine:

* `MappingPlan.Sound` — a plan whose columns the engine keeps apart, with one integer key.
* `MappingPlan.shape` — the table of a plan with some rows.
* `MappingPlan.placeOf` — where a column stands in it.
* `MappingPlan.resolve_column` — what the name of a column stands for in an expression.
* `MappingPlan.onto`, `MappingPlan.picked` — the plan and its rows with the columns in another order.
* `MappingPlan.Clear`, `MappingPlan.In` — a database with the table of a plan, whose columns are in
  whatever order they came.
-/

namespace EntityStore

open EntityStore.Engine (Database Table Row Scope Term)
open EntityStore.Sql (Datum Expr sameName foldWord)

/-! ## Plans -/

/-- A plan whose columns the engine keeps apart, and whose key is the one column that is declared to
    be, and holds integers. -/
structure MappingPlan.Sound (p : MappingPlan) : Prop extends p.Written where
  apart : p.columns.Pairwise fun c d => sameName c.column d.column = false
  keyPlace : ∃ c, p.columns[p.primaryKey]? = some c ∧ c.column = p.keyColumn
    ∧ c.affinity = .integer
  keyFlag : ∀ i c, p.columns[i]? = some c → c.primaryKey = decide (i = p.primaryKey)

namespace MappingPlan

def shape (p : MappingPlan) (rows : List Row) : Table :=
  { name := p.table
    columns := p.columns.zipIdx.map fun (c, i) =>
      { name := c.column, affinity := .ofType c.affinity.keyword
        notNull := [p.primaryKey].contains i }
    key := [p.primaryKey], rowId := none, rows := rows }

variable {p : MappingPlan} {rows : List Row}

theorem shape_column (i : Nat) :
    (p.shape rows).columns[i]? = p.columns[i]?.map fun c =>
      { name := c.column, affinity := .ofType c.affinity.keyword
        notNull := [p.primaryKey].contains i } := by
  simp [shape, List.getElem?_zipIdx, Option.map_map, Function.comp_def]

@[simp] theorem length_columns_shape : (p.shape rows).columns.length = p.columns.length := by
  simp [shape]

def placeOf (p : MappingPlan) (name : String) : Nat :=
  p.columns.findIdx fun c => sameName c.column name

def keyAt (p : MappingPlan) (row : Row) : Datum := row.getD p.primaryKey .null

@[simp] theorem keyOf_shape (row : Row) : (p.shape rows).keyOf row = [p.keyAt row] := rfl

section
variable (apart : p.columns.Pairwise fun c d => sameName c.column d.column = false)
include apart

theorem placeOf_column {i : Nat} {c : ColumnPlan} (here : p.columns[i]? = some c) :
    p.placeOf c.column = i := by
  obtain ⟨bound, same⟩ := List.getElem?_eq_some_iff.mp here
  rw [placeOf, List.findIdx_eq bound]
  refine ⟨by simp [same, sameName], fun j before => ?_⟩
  have other := List.pairwise_iff_getElem.mp apart j i (Nat.lt_trans before bound) bound before
  rwa [same] at other

theorem placeOf_range : p.columns.map (fun c => p.placeOf c.column) = List.range p.columns.length := by
  refine List.ext_getElem (by simp) fun i bound _ => ?_
  have here : i < p.columns.length := by simpa using bound
  simpa using placeOf_column apart (List.getElem?_eq_getElem here)

theorem columnPlace?_shape {i : Nat} {c : ColumnPlan} (here : p.columns[i]? = some c) :
    Engine.columnPlace? (p.shape rows).columns none c.column = some i := by
  obtain ⟨bound, same⟩ := List.getElem?_eq_some_iff.mp here
  have found : (p.shape rows).columns.findIdx? (fun d => !d.hidden && sameName d.name c.column) =
      some i := by
    rw [List.findIdx?_eq_some_iff_getElem]
    refine ⟨by simpa using bound, ?_, fun j before => ?_⟩
    · simp [shape, same, sameName]
    · have other := List.pairwise_iff_getElem.mp apart j i (Nat.lt_trans before bound) bound before
      rw [same] at other
      simp [shape, other]
  rw [Engine.columnPlace?, found]

/-- The name of a column stands for its place. -/
theorem resolve_column {scope : Scope} (sources : scope.sources = [(p.shape rows).source])
    {i : Nat} {c : ColumnPlan} (here : p.columns[i]? = some c) (place : Nat) :
    scope.resolve (.column place none c.column false) =
      .ok (.column i (.ofType c.affinity.keyword)) := by
  have found : Engine.findColumn? none c.column scope.sources 0 =
      some (i, .ofType c.affinity.keyword) := by
    rw [sources]
    simp only [Engine.findColumn?, Option.all_none, ↓reduceIte, Table.source]
    rw [show (p.shape rows).rowId = none from rfl, columnPlace?_shape apart here]
    simp [shape_column, here]
  simp only [Scope.resolve, Scope.column, found]

end

namespace Sound

variable (sound : p.Sound)
include sound

theorem keyBound : p.primaryKey < p.columns.length := by
  obtain ⟨c, here, _⟩ := sound.keyPlace
  exact (List.getElem?_eq_some_iff.mp here).1

theorem resolve_key {scope : Scope} (sources : scope.sources = [(p.shape rows).source])
    (place : Nat) : scope.resolve (.column place none p.keyColumn false) =
      .ok (.column p.primaryKey .integer) := by
  obtain ⟨c, here, name, affinity⟩ := sound.keyPlace
  rw [← name, resolve_column sound.apart sources here, affinity]
  rfl

end Sound

/-! ## Orders of columns -/

/-- The plan with its columns in another order, as a table has them that has grown. -/
def onto (p : MappingPlan) (layout : List ColumnPlan) : MappingPlan :=
  { p with columns := layout, primaryKey := layout.findIdx (·.primaryKey) }

/-- The values of columns in a row, null for those that the plan does not have. -/
def picked (p : MappingPlan) (columns : List ColumnPlan) (row : Row) : Row :=
  columns.map fun c => row.getD (p.placeOf c.column) .null

@[simp] theorem length_picked (columns : List ColumnPlan) (row : Row) :
    (p.picked columns row).length = columns.length := by
  simp [picked]

@[simp] theorem onto_table (layout : List ColumnPlan) : (p.onto layout).table = p.table := rfl

@[simp] theorem onto_keyColumn (layout : List ColumnPlan) :
    (p.onto layout).keyColumn = p.keyColumn := rfl

@[simp] theorem onto_columns (layout : List ColumnPlan) : (p.onto layout).columns = layout := rfl

/-- In its own order a row is as it was. -/
theorem picked_columns (apart : p.columns.Pairwise fun c d => sameName c.column d.column = false)
    {row : Row} (wide : row.length = p.columns.length) : p.picked p.columns row = row := by
  have places : p.picked p.columns row =
      (p.columns.map fun c => p.placeOf c.column).map fun i => row.getD i .null := by
    simp [picked]
  rw [places, placeOf_range apart, ← wide]
  refine List.ext_getElem (by simp) fun i _ bound => ?_
  simp [List.getElem?_eq_getElem bound]

theorem getD_picked {layout : List ColumnPlan}
    (apart : layout.Pairwise fun c d => sameName c.column d.column = false) {c : ColumnPlan}
    (member : c ∈ layout) (row : Row) :
    (p.picked layout row).getD ((p.onto layout).placeOf c.column) .null =
      row.getD (p.placeOf c.column) .null := by
  obtain ⟨i, here⟩ := List.getElem?_of_mem member
  have place : (p.onto layout).placeOf c.column = i := placeOf_column (p := p.onto layout) apart here
  simp [place, picked, here]

namespace Sound

variable (sound : p.Sound) {layout : List ColumnPlan} (perm : layout.Perm p.columns)
include sound perm

theorem layout_apart : layout.Pairwise fun c d => sameName c.column d.column = false := by
  have swapped {c d : ColumnPlan} (apart : sameName c.column d.column = false) :
      sameName d.column c.column = false := by
    simpa [sameName, eq_comm] using apart
  exact (perm.pairwise_iff swapped).mpr sound.apart

theorem layout_key : ∃ c, layout[(p.onto layout).primaryKey]? = some c
    ∧ p.columns[p.primaryKey]? = some c ∧ c.column = p.keyColumn ∧ c.affinity = .integer := by
  obtain ⟨c, here, name, affinity⟩ := sound.keyPlace
  have flag : c.primaryKey = true := by rw [sound.keyFlag _ _ here, decide_eq_true_eq]
  have member : c ∈ layout := perm.mem_iff.mpr (List.mem_of_getElem? here)
  have bound : layout.findIdx (·.primaryKey) < layout.length :=
    List.findIdx_lt_length_of_exists ⟨c, member, flag⟩
  have flagged : layout[layout.findIdx (·.primaryKey)].primaryKey = true :=
    List.findIdx_getElem (w := bound)
  obtain ⟨i, found⟩ := List.getElem?_of_mem (perm.mem_iff.mp (List.getElem_mem bound))
  have first := sound.keyFlag i _ found
  rw [flagged, eq_comm, decide_eq_true_eq] at first
  rw [first, here, Option.some.injEq] at found
  exact ⟨c, by rw [onto, List.getElem?_eq_getElem bound, found], here, name, affinity⟩

/-- In every order the columns are kept apart, and the key is the same one. -/
theorem onto : (p.onto layout).Sound where
  table := sound.table
  columns c member := sound.columns c (perm.mem_iff.mp member)
  key := by
    obtain ⟨c, member, same⟩ := List.mem_map.mp sound.key
    exact List.mem_map.mpr ⟨c, perm.mem_iff.mpr member, same⟩
  apart := sound.layout_apart perm
  keyPlace := by
    obtain ⟨c, here, _, name, affinity⟩ := sound.layout_key perm
    exact ⟨c, here, name, affinity⟩
  keyFlag i c here := by
    obtain ⟨d, key, place, _⟩ := sound.layout_key perm
    have apart := sound.layout_apart perm
    have listed : c ∈ p.columns := perm.mem_iff.mp (List.mem_of_getElem? here)
    obtain ⟨j, found⟩ := List.getElem?_of_mem listed
    rw [sound.keyFlag j c found, decide_eq_decide]
    constructor
    · rintro rfl
      rw [place, Option.some.injEq] at found
      rw [← placeOf_column (p := p.onto layout) apart here, ← found,
        placeOf_column (p := p.onto layout) apart key]
    · -- The flag stands at one place only, and both layouts have the same column there.
      intro same
      rw [same] at here
      rw [show (p.onto layout).columns = layout from rfl] at here
      rw [key, Option.some.injEq] at here
      rw [← here] at found
      rw [← placeOf_column sound.apart found, placeOf_column sound.apart place]

/-- A row is as it was after its columns have been put in another order and back. -/
theorem picked_picked {row : Row} (wide : row.length = p.columns.length) :
    (p.onto layout).picked p.columns (p.picked layout row) = row := by
  have each : ∀ c ∈ p.columns, (p.picked layout row).getD ((p.onto layout).placeOf c.column) .null =
      row.getD (p.placeOf c.column) .null := fun c member =>
    getD_picked (sound.layout_apart perm) (perm.mem_iff.mpr member) row
  exact (List.map_congr_left each).trans (picked_columns sound.apart wide)

@[simp] theorem keyAt_picked (row : Row) : (p.onto layout).keyAt (p.picked layout row) = p.keyAt row := by
  obtain ⟨c, key, place, _⟩ := sound.layout_key perm
  have same := getD_picked (p := p) (sound.layout_apart perm) (List.mem_of_getElem? key) row
  rwa [placeOf_column (p := p.onto layout) (sound.layout_apart perm) key,
    placeOf_column sound.apart place] at same

end Sound

/-! ## Tables of databases -/

/-- Nothing in a database has to do with the table of a plan but the table itself: no view, no
    trigger, no index that keeps values apart. -/
structure Clear (p : MappingPlan) (db : Database) : Prop where
  view : db.view? p.table = none
  triggers : ∀ d ∈ db.triggers, sameName d.table.name p.table = false
  plain : ∀ x ∈ db.indexes, sameName x.table p.table = true → x.unique = none

/-- The table of a plan in a database, its columns in the order in which the table has got them. -/
structure In (p : MappingPlan) (layout : List ColumnPlan) (rows : List Row) (db : Database) :
    Prop extends p.Clear db where
  perm : layout.Perm p.columns
  found : db.table? p.table = some ((p.onto layout).shape (rows.map (p.picked layout)))

variable {layout : List ColumnPlan} {db : Database}

theorem In.tableOf? (stored : p.In layout rows db) (place : Nat) (written : String) :
    db.tableOf? ⟨place, none, p.table, written⟩ =
      some ((p.onto layout).shape (rows.map (p.picked layout))) := stored.found

end MappingPlan

end EntityStore
