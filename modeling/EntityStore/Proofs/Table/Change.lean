import EntityStore.Proofs.Table.Key

/-! # Changes of tables of plans

What the changes of mappers make of the rows of a table whose keys are integers:

* `MappingPlan.Numbered` — rows with integers as keys.
* `MappingPlan.replacing`, `MappingPlan.without` — rows with one in its place, and without one.
* `MappingPlan.prepare_insert`, `MappingPlan.prepare_delete` — the changes as programs.
-/

namespace EntityStore

open EntityStore.Engine (Database Table Row Scope Term Program Progress Outcome)
open EntityStore.Sql (Datum Affinity Expr ObjectName sameName)

/-! ## Tables of databases -/

theorem sameName_refl (name : String) : sameName name name = true := by
  simp [sameName]

theorem sameName_comm (a b : String) : sameName a b = sameName b a := by
  simp [sameName, eq_comm]

theorem sameName_trans {a b c : String} (first : sameName a b = true) :
    sameName a c = sameName b c := by
  have folded : Sql.foldWord a = Sql.foldWord b := by simpa [sameName] using first
  simp [sameName, folded]

/-- A table that is replaced is found in place of the one before. -/
theorem table?_setTable (db : Database) (t : Table) (name : String) :
    (db.setTable t).table? name =
      (db.table? name).map fun other => if sameName other.name t.name then t else other := by
  simp only [Database.table?, Database.setTable, List.find?_map]
  have same : (fun other : Table => sameName other.name name) ∘
      (fun other => if sameName other.name t.name then t else other) =
        fun other => sameName other.name name := by
    funext other
    by_cases here : sameName other.name t.name = true
    · simp [here, sameName_trans here]
    · simp [here]
  rw [same]

namespace MappingPlan

variable {p : MappingPlan} {rows : List Row} {db : Database} {layout : List ColumnPlan}

theorem Clear.setTable (clear : p.Clear db) (t : Table) : p.Clear (db.setTable t) :=
  ⟨clear.view, clear.triggers, clear.plain⟩

theorem In.set (stored : p.In layout rows db) (more : List Row) :
    p.In layout more (db.setTable ((p.onto layout).shape (more.map (p.picked layout)))) where
  toClear := stored.toClear.setTable _
  perm := stored.perm
  found := by
    rw [table?_setTable, stored.found]
    simp [shape, sameName]

/-! ## Rows -/

def Numbered (p : MappingPlan) (rows : List Row) : Prop :=
  ∀ row ∈ rows, ∃ n, p.keyAt row = .integer n

def without (p : MappingPlan) (n : Int64) (rows : List Row) : List Row :=
  rows.filter fun row => !(p.keyAt row).isNumber n

def replacing (p : MappingPlan) (n : Int64) (row : Row) (rows : List Row) : List Row :=
  Engine.insertRow (p.shape []).keyOf row (p.without n rows)

theorem compareRows_single (a b : Datum) : Engine.compareRows [a] [b] = a.compare b := by
  simp only [Engine.compareRows]
  cases a.compare b <;> rfl

theorem hasKey_integer (row : Row) (n : Int64) :
    (p.shape rows).hasKey [.integer n] row = (p.keyAt row).isNumber n := by
  rw [Table.hasKey, keyOf_shape, compareRows_single, Datum.isNumber]
  simp only [Datum.compare_integer]

theorem hasKey_of_isNumber {other : Row} {n : Int64} (number : (p.keyAt other).isNumber n = true)
    (row : Row) : (p.shape rows).hasKey [p.keyAt other] row = (p.keyAt row).isNumber n := by
  rw [Table.hasKey, keyOf_shape, compareRows_single]
  have same := Datum.compare_eq_of_isNumber number (p.keyAt row)
  by_cases here : (p.keyAt row).isNumber n = true
  · simp [here, same.mpr here]
  · rw [Bool.not_eq_true] at here
    simp [here, same]

/-- A row whose key no other one has goes between two pieces of the rows. -/
theorem insertRow_between {row : Row} {n : Int64} (key : p.keyAt row = .integer n)
    (free : ∀ other ∈ rows, (p.keyAt other).isNumber n = false) :
    ∃ before after, rows = before ++ after
      ∧ Engine.insertRow (p.shape []).keyOf row rows = before ++ row :: after := by
  induction rows with
  | nil => exact ⟨[], [], rfl, rfl⟩
  | cons other rest ih =>
    obtain ⟨before, after, rfl, inserted⟩ := ih fun row member => free row (List.mem_cons_of_mem _ member)
    have apart : Engine.compareRows [p.keyAt row] [p.keyAt other] ≠ .eq := by
      have free := free other (List.mem_cons_self ..)
      rw [← @hasKey_integer p [] other n, Table.hasKey, keyOf_shape,
        decide_eq_false_iff_not] at free
      rwa [key]
    rw [Engine.insertRow, keyOf_shape, keyOf_shape]
    cases order : Engine.compareRows [p.keyAt row] [p.keyAt other] with
    | lt => exact ⟨[], _, rfl, rfl⟩
    | eq => exact absurd order apart
    | gt => exact ⟨other :: before, after, rfl, by rw [inserted]; rfl⟩

theorem Ordered.insertRow {row : Row} {n : Int64} (key : p.keyAt row = .integer n)
    (numbered : p.Numbered rows) (free : ∀ other ∈ rows, (p.keyAt other).isNumber n = false)
    (ordered : p.Ordered rows) : p.Ordered (Engine.insertRow (p.shape []).keyOf row rows) := by
  induction rows with
  | nil => exact List.pairwise_singleton _ _
  | cons other rest ih =>
    obtain ⟨m, here⟩ := numbered other (List.mem_cons_self ..)
    have sorted := List.pairwise_cons.mp ordered
    have apart : m.toInt ≠ n.toInt := by
      have free := free other (List.mem_cons_self ..)
      rw [here] at free
      simpa [Int64.toInt_inj] using free
    have order : Engine.compareRows ((p.shape []).keyOf row) ((p.shape []).keyOf other) =
        Ord.compare n.toInt m.toInt := by
      rw [keyOf_shape, keyOf_shape, key, here, compareRows_single]
      rfl
    have later : p.Ordered (Engine.insertRow (p.shape []).keyOf row rest) := ih
      (fun row member => numbered row (List.mem_cons_of_mem _ member))
      (fun row member => free row (List.mem_cons_of_mem _ member)) sorted.2
    -- The row goes further on, or it goes here and is less than all that follows.
    rcases Int.lt_or_gt_of_ne apart with less | greater
    · have rest_free := fun row member => free row (List.mem_cons_of_mem other member)
      obtain ⟨before, after, pieces, inserted⟩ := insertRow_between key rest_free
      rw [Engine.insertRow, order, Int.compare_eq_gt.mpr less]
      refine List.pairwise_cons.mpr ⟨fun next member => ?_, later⟩
      have from_rest : next = row ∨ next ∈ rest := by
        rw [inserted] at member
        rw [pieces]
        simp only [List.mem_append, List.mem_cons] at member ⊢
        tauto
      rcases from_rest with rfl | listed
      · rw [here, key]
        exact Int.compare_eq_lt.mpr less
      · exact sorted.1 next listed
    · rw [Engine.insertRow, order, Int.compare_eq_lt.mpr greater]
      refine List.pairwise_cons.mpr ⟨fun next member => ?_, ordered⟩
      rw [key]
      rcases List.mem_cons.mp member with rfl | listed
      · rw [here]
        exact Int.compare_eq_lt.mpr greater
      · obtain ⟨k, there⟩ := numbered next (List.mem_cons_of_mem _ listed)
        have before := sorted.1 next listed
        rw [here, there] at before
        rw [there]
        have before : m.toInt < k.toInt := Int.compare_eq_lt.mp before
        exact Int.compare_eq_lt.mpr (by omega)

/-! ## Rows after a change -/

theorem without_sublist (n : Int64) (rows : List Row) : (p.without n rows).Sublist rows :=
  List.filter_sublist

theorem Numbered.without (numbered : p.Numbered rows) (n : Int64) : p.Numbered (p.without n rows) :=
  fun row member => numbered row ((without_sublist n rows).subset member)

theorem Fits.without (fits : p.Fits rows) (n : Int64) : p.Fits (p.without n rows) where
  wide row member := fits.wide row ((without_sublist n rows).subset member)
  keys row member := fits.keys row ((without_sublist n rows).subset member)

theorem Ordered.without (ordered : p.Ordered rows) (n : Int64) : p.Ordered (p.without n rows) :=
  ordered.sublist (without_sublist n rows)

theorem without_free (n : Int64) :
    ∀ other ∈ p.without n rows, (p.keyAt other).isNumber n = false := by
  intro other member
  simpa using (List.mem_filter.mp member).2

theorem without_of_free {n : Int64} {rows : List Row} (free : p.rowsOf [n] rows = []) :
    p.without n rows = rows := by
  refine List.filter_eq_self.mpr fun row member => ?_
  have none := List.filter_eq_nil_iff.mp free row member
  simpa using none

/-- The row of a key that is left when the row of another goes. -/
theorem rowsOf_without (k n : Int64) (rows : List Row) :
    p.rowsOf [k] (p.without n rows) = if k = n then [] else p.rowsOf [k] rows := by
  simp only [rowsOf, MappingPlan.without, List.any_cons, List.any_nil, Bool.or_false,
    List.filter_filter]
  by_cases same : k = n
  · rw [if_pos same, same, List.filter_eq_nil_iff]
    intro row member
    simp
  · rw [if_neg same]
    refine List.filter_congr fun row member => ?_
    by_cases here : (p.keyAt row).isNumber k = true
    · have other : (p.keyAt row).isNumber n = false := Datum.isNumber_unique here same
      simp [here, other]
    · simp [here]

section
variable {row : Row} {n : Int64} (key : p.keyAt row = .integer n)
include key

theorem replacing_between (rows : List Row) :
    ∃ before after, p.without n rows = before ++ after
      ∧ p.replacing n row rows = before ++ row :: after :=
  insertRow_between key (without_free n)

theorem mem_replacing {other : Row} (member : other ∈ p.replacing n row rows) :
    other = row ∨ other ∈ p.without n rows := by
  obtain ⟨before, after, pieces, whole⟩ := replacing_between key rows
  rw [whole] at member
  rw [pieces]
  simp only [List.mem_append, List.mem_cons] at member ⊢
  tauto

theorem Numbered.replacing (numbered : p.Numbered rows) : p.Numbered (p.replacing n row rows) := by
  intro other member
  rcases mem_replacing key member with rfl | listed
  · exact ⟨n, key⟩
  · exact numbered.without n other listed

theorem Fits.replacing (fits : p.Fits rows) (wide : row.length = p.columns.length) :
    p.Fits (p.replacing n row rows) := by
  refine ⟨fun other member => ?_, fun other member => ?_⟩
  · rcases mem_replacing key member with rfl | listed
    · exact wide
    · exact (fits.without n).wide other listed
  · rcases mem_replacing key member with rfl | listed
    · rw [key]
      exact Datum.isKey_integer n
    · exact (fits.without n).keys other listed

theorem Ordered.replacing (ordered : p.Ordered rows) (numbered : p.Numbered rows) :
    p.Ordered (p.replacing n row rows) :=
  .insertRow key (numbered.without n) (without_free n) (ordered.without n)

/-- The row of a key when one has been put in its place. -/
theorem rowsOf_replacing (rows : List Row) (k : Int64) :
    p.rowsOf [k] (p.replacing n row rows) = if k = n then [row] else p.rowsOf [k] rows := by
  obtain ⟨before, after, pieces, whole⟩ := replacing_between key rows
  have others := p.rowsOf_without k n rows
  simp only [pieces, rowsOf, List.any_cons, List.any_nil, Bool.or_false, List.filter_append]
    at others
  simp only [whole, rowsOf, List.any_cons, List.any_nil, Bool.or_false, List.filter_append,
    List.filter_cons, key, Datum.isNumber_integer, decide_eq_true_eq]
  by_cases same : k = n
  · rw [if_pos same, List.append_eq_nil_iff] at others
    rw [if_pos same.symm, if_pos same, others.1, others.2]
    rfl
  · rw [if_neg same] at others
    rw [if_neg (Ne.symm same), if_neg same, others]

end

/-! ## Rows in the order of a table -/

def kept (p : MappingPlan) (values : Row) : Row :=
  p.columns.zipWith (fun c value => (Affinity.ofType c.affinity.keyword).store value) values

@[simp] theorem length_kept (values : Row) (wide : values.length = p.columns.length) :
    (p.kept values).length = p.columns.length := by
  simp [kept, wide]

section
variable (sound : p.Sound) (perm : layout.Perm p.columns)
include sound perm

theorem Numbered.picked (numbered : p.Numbered rows) :
    (p.onto layout).Numbered (rows.map (p.picked layout)) := by
  intro row member
  obtain ⟨row, listed, rfl⟩ := List.mem_map.mp member
  rw [sound.keyAt_picked perm]
  exact numbered row listed

theorem without_picked (n : Int64) (rows : List Row) :
    (p.onto layout).without n (rows.map (p.picked layout)) =
      (p.without n rows).map (p.picked layout) := by
  simp [MappingPlan.without, List.filter_map, Function.comp_def, sound.keyAt_picked perm]

theorem replacing_picked (n : Int64) (row : Row) (rows : List Row) :
    (p.onto layout).replacing n (p.picked layout row) (rows.map (p.picked layout)) =
      (p.replacing n row rows).map (p.picked layout) := by
  rw [MappingPlan.replacing, MappingPlan.replacing, without_picked sound perm]
  induction p.without n rows with
  | nil => rfl
  | cons other rest ih =>
    simp only [List.map_cons, Engine.insertRow, keyOf_shape, sound.keyAt_picked perm]
    cases Engine.compareRows [p.keyAt row] [p.keyAt other] with
    | gt => exact congrArg (List.cons _) ih
    | eq => rfl
    | lt => rfl

/-- The values of a row, stored in the order of a table. -/
theorem kept_picked {values : Row} (wide : values.length = p.columns.length) :
    (p.onto layout).kept (p.picked layout values) = p.picked layout (p.kept values) := by
  refine List.ext_getElem (by simp [MappingPlan.kept]) fun i first second => ?_
  have bound : i < layout.length := by simpa using second
  obtain ⟨j, found⟩ := List.getElem?_of_mem (perm.mem_iff.mp (List.getElem_mem bound))
  obtain ⟨inside, same⟩ := List.getElem?_eq_some_iff.mp found
  have place : p.placeOf layout[i].column = j := placeOf_column sound.apart found
  simp [MappingPlan.kept, MappingPlan.picked, place, inside, wide, same]

end

/-! ## A new row -/

section
variable (sound : p.Sound) (perm : layout.Perm p.columns)
include sound perm

theorem insertPlaces_onto (rows : List Row) (shown : String) :
    Engine.insertPlaces ((p.onto layout).shape rows) shown (some p.columnNames) =
      .ok (p.columns.map fun c => (p.onto layout).placeOf c.column) := by
  have apart := sound.layout_apart perm
  rw [Engine.insertPlaces, columnNames]
  have related : List.Forall₂ (fun (c : ColumnPlan) name => c.column = name) p.columns
      (p.columns.map (·.column)) := List.forall₂_map_right_iff.mpr (List.forall₂_same.mpr fun _ _ => rfl)
  refine mapM_of_forall₂ related fun c member name same => ?_
  obtain ⟨i, here⟩ := List.getElem?_of_mem (perm.mem_iff.mpr member)
  have rowId : ((p.onto layout).shape rows).rowId = none := rfl
  rw [← same, rowId, columnPlace?_shape (p := p.onto layout) apart here,
    placeOf_column (p := p.onto layout) apart here]

theorem newRow_onto (rows : List Row) {values : Row} (wide : values.length = p.columns.length) :
    Engine.newRow ((p.onto layout).shape rows) (p.columns.map fun c => (p.onto layout).placeOf c.column)
      values = (p.onto layout).kept (p.picked layout values) := by
  have apart := sound.layout_apart perm
  refine List.ext_getElem (by simp [Engine.newRow, MappingPlan.kept]) fun i first second => ?_
  have bound : i < layout.length := by simpa [Engine.newRow] using first
  -- The column in place i of the table is column j of the plan, whose value is the one to be found.
  obtain ⟨j, found⟩ := List.getElem?_of_mem (perm.mem_iff.mp (List.getElem_mem bound))
  obtain ⟨inside, same⟩ := List.getElem?_eq_some_iff.mp found
  have here : (p.onto layout).placeOf p.columns[j].column = i := by
    rw [same]
    exact placeOf_column (p := p.onto layout) apart (List.getElem?_eq_getElem bound)
  have given : ((p.columns.map fun c => (p.onto layout).placeOf c.column).zip values).find?
      (fun pair => pair.1 = i) = some (i, values[j]) := by
    refine List.find?_eq_some_iff_getElem.mpr ⟨by simp, j, by simpa [wide] using inside, by simp [here], ?_⟩
    intro k before
    have smaller : k < p.columns.length := Nat.lt_trans before inside
    -- Another column of the plan has another place.
    have other : (p.onto layout).placeOf p.columns[k].column ≠ i := by
      intro taken
      obtain ⟨m, there⟩ := List.getElem?_of_mem (perm.mem_iff.mpr (List.getElem_mem smaller))
      have place := placeOf_column (p := p.onto layout) apart there
      rw [taken] at place
      have equal : layout[i] = p.columns[k] := by
        rw [← place] at there
        exact (List.getElem?_eq_some_iff.mp there).2
      have names := List.pairwise_iff_getElem.mp sound.apart k j smaller inside before
      rw [same, ← equal] at names
      simp [sameName] at names
    simpa using other
  have place : p.placeOf layout[i].column = j := placeOf_column sound.apart found
  simp [Engine.newRow, shape, MappingPlan.kept, MappingPlan.picked, given, place, wide, inside]

end

/-- No column of the plan has a value of its own. -/
theorem fillNulls_shape {row : Row} (wide : row.length = p.columns.length) :
    Engine.fillNulls (p.shape rows).columns row = row := by
  refine List.ext_getElem (by simp [Engine.fillNulls, wide]) fun i first second => ?_
  simp only [Engine.fillNulls, shape, List.getElem_map, List.getElem_zip]
  split
  · next absent =>
    simp only [Bool.and_eq_true, decide_eq_true_eq] at absent
    exact absent.2.symm
  · rfl

theorem nullColumn?_shape {row : Row} (present : p.keyAt row ≠ .null) :
    Engine.nullColumn? (p.shape rows).columns row = none := by
  rw [Engine.nullColumn?, Option.map_eq_none_iff, List.find?_eq_none]
  intro pair member
  obtain ⟨i, bound, rfl⟩ := List.getElem_of_mem member
  simp only [List.getElem_zip, shape, List.getElem_map, List.getElem_zipIdx, Nat.zero_add]
  by_cases here : i = p.primaryKey
  · have inside : i < row.length := by
      rw [List.length_zip] at bound
      omega
    have value : row[i] = p.keyAt row := by
      rw [keyAt, List.getD_eq_getElem?_getD, ← here, List.getElem?_eq_getElem inside]
      rfl
    simp [value, present]
  · simp [here]

theorem makeRoom_shape {row : Row} {n : Int64} (key : p.keyAt row = .integer n) :
    Engine.makeRoom .replace db none row [([p.primaryKey], true)] (p.shape rows) =
      .ok (some (p.shape (p.without n rows))) := by
  have rivals : Engine.rivals (p.shape rows) none row [p.primaryKey] true =
      rows.filter fun other => (p.keyAt other).isNumber n := by
    refine List.filter_congr fun other _ => ?_
    rw [keyOf_shape, key, hasKey_integer]
    simp
  have erased (left : List Row) {other : Row} (number : (p.keyAt other).isNumber n = true) :
      (p.shape left).erase ((p.shape left).keyOf other) = p.shape (p.without n left) := by
    have same : left.filter (fun row => !(p.shape left).hasKey [p.keyAt other] row) =
        p.without n left := List.filter_congr fun row _ => by rw [hasKey_of_isNumber number]
    rw [Table.erase, keyOf_shape]
    exact congrArg (fun rows => p.shape rows) same
  have twice (left : List Row) : p.without n (p.without n left) = p.without n left := by
    simp [MappingPlan.without, List.filter_filter]
  -- To erase the rows of the key one by one is to erase them at once.
  have gone (others : List Row) (here : ∀ other ∈ others, (p.keyAt other).isNumber n = true) :
      others.foldl (fun t other => t.erase (t.keyOf other)) (p.shape rows) =
        p.shape (if others = [] then rows else p.without n rows) := by
    cases others with
    | nil => rfl
    | cons first rest =>
      rw [if_neg (by simp), List.foldl_cons, erased _ (here first (List.mem_cons_self ..))]
      have later := fun other member => here other (List.mem_cons_of_mem first member)
      clear here
      induction rest with
      | nil => rfl
      | cons second rest ih =>
        rw [List.foldl_cons, erased _ (later second (List.mem_cons_self ..)), twice]
        exact ih fun other member => later other (List.mem_cons_of_mem _ member)
  have whole : Engine.makeRoom .replace db none row [([p.primaryKey], true)] (p.shape rows) =
      .ok (some ((rows.filter fun other => (p.keyAt other).isNumber n).foldl
        (fun t other => t.erase (t.keyOf other)) (p.shape rows))) := by
    rw [Engine.makeRoom, rivals]
    cases rows.filter fun other => (p.keyAt other).isNumber n <;> rfl
  rw [whole, gone _ fun other member => (List.mem_filter.mp member).2]
  by_cases empty : (rows.filter fun other => (p.keyAt other).isNumber n) = []
  · have same : p.without n rows = rows := by
      rw [MappingPlan.without, List.filter_eq_self]
      intro other member
      have apart := List.filter_eq_nil_iff.mp empty other member
      simpa using apart
    rw [if_pos empty, same]
  · rw [if_neg empty]

theorem storeRow_shape (plain : db.uniques (p.shape rows) = []) {row : Row} {n : Int64} (wide : row.length = p.columns.length) (key : p.keyAt row = .integer n) :
    Engine.storeRow .replace db (p.shape rows) none row =
      .ok (some (db.setTable (p.shape (p.replacing n row rows)))) := by
  have room : Engine.makeRoom .replace db none row
      [((p.shape rows).key, true)] (p.shape rows) = .ok (some (p.shape (p.without n rows))) :=
    makeRoom_shape key
  have present : Engine.nullColumn? (p.shape rows).columns row = none :=
    nullColumn?_shape (by simp [key])
  simp only [Engine.storeRow, ↓reduceIte, fillNulls_shape wide, present, plain,
    List.map_nil, room, bind, Except.bind]
  rfl

/-- What a change of rows does that no trigger is set off by. -/
theorem changeBetween_plain (progress : Progress) (before after : Row) (db : Database) :
    Engine.changeBetween ⟨[], []⟩ progress before after (.ok (some db)) =
      .ok { database := db, changes := progress.changes + 1 } := rfl

section
variable (stored : p.In layout rows db)
include stored

theorem In.uniques : db.uniques ((p.onto layout).shape (rows.map (p.picked layout))) = [] := by
  have none_unique : (db.indexes.filter fun x => sameName x.table p.table).filterMap (·.unique) = [] := by
    rw [List.filterMap_eq_nil_iff]
    intro x member
    obtain ⟨listed, same⟩ := List.mem_filter.mp member
    exact stored.plain x listed same
  have own : ((p.onto layout).shape (rows.map (p.picked layout))).uniques = [] := rfl
  have name : ((p.onto layout).shape (rows.map (p.picked layout))).name = p.table := rfl
  rw [Database.uniques, own, name, none_unique]
  rfl

theorem In.triggersAround (rows' : List Row) (change : Sql.TriggerEvent) :
    Engine.triggersAround db ((p.onto layout).shape rows') change = .ok ⟨[], []⟩ := by
  have none_prepared (before : Bool) :
      Engine.prepareTriggers db ((p.onto layout).shape rows') change before = .ok [] := by
    have none_set : (db.triggers.filter fun d =>
        sameName d.table.name ((p.onto layout).shape rows').name && d.before = before
          && Engine.meets d.event change) = [] := by
      rw [List.filter_eq_nil_iff]
      intro d member
      have apart : sameName d.table.name ((p.onto layout).shape rows').name = false :=
        stored.triggers d member
      simp [apart]
    rw [Engine.prepareTriggers, none_set]
    rfl
  rw [Engine.triggersAround, none_prepared, none_prepared]
  rfl

theorem In.changedTable (place : Nat) (written : String) :
    Engine.changedTable db ⟨place, none, p.table, written⟩ =
      .ok ((p.onto layout).shape (rows.map (p.picked layout))) := by
  rw [Engine.changedTable, stored.tableOf?]

theorem insertOne_onto (sound : p.Sound) {values : Row} {n : Int64}
    (wide : values.length = p.columns.length) (key : p.keyAt (p.kept values) = .integer n)
    (changes : Nat) :
    Engine.insertOne .replace p.table (p.columns.map fun c => (p.onto layout).placeOf c.column) ⟨[], []⟩
        ⟨db, changes⟩ values =
      .ok ⟨db.setTable ((p.onto layout).shape
        ((p.replacing n (p.kept values) rows).map (p.picked layout))), changes + 1⟩ := by
  have laid := newRow_onto sound stored.perm (rows.map (p.picked layout)) wide
  rw [kept_picked sound stored.perm wide] at laid
  have row (number : Int64) : Engine.numbered ((p.onto layout).shape (rows.map (p.picked layout))) number
      (p.picked layout (p.kept values)) = p.picked layout (p.kept values) := rfl
  have checked : Engine.checkRowId ((p.onto layout).shape (rows.map (p.picked layout)))
      (p.picked layout (p.kept values)) = .ok (p.picked layout (p.kept values)) := rfl
  have width : (p.picked layout (p.kept values)).length = (p.onto layout).columns.length := by simp
  have replaced := storeRow_shape (p := p.onto layout) stored.uniques width
    ((sound.keyAt_picked stored.perm _).trans key)
  rw [replacing_picked sound stored.perm] at replaced
  simp only [Engine.insertOne, stored.found, laid, row, checked, bind, Except.bind, replaced,
    changeBetween_plain]

end

theorem eval_parameters {parameters : List Datum} {count : Nat} (given : parameters.length = count) :
    ((List.range count).map fun i => Term.parameter (i + 1)).map
      (·.eval { parameters := parameters }) = parameters := by
  refine List.ext_getElem (by simp [given]) fun i _ bound => ?_
  simp [Term.eval, List.getElem?_eq_getElem bound]

/-- A row in place of the one with its key, as a program for whatever the table holds then. -/
theorem prepare_insert (sound : p.Sound) (stored : p.In layout rows db) (place : Nat) (written : String) :
    ∃ program, db.prepare (.insert {
        onConflict := .replace, table := ⟨place, none, p.table, written⟩
        columns := some p.columnNames
        rows := [(List.range p.columns.length).map fun i => .parameter (i + 1)] }) = .ok (some program)
      ∧ program.writes = true
      ∧ ∀ {rows : List Row} {db : Database} {values : Row} {n : Int64}, p.In layout rows db →
        values.length = p.columns.length → p.keyAt (p.kept values) = .integer n →
        program.run values db = .ok {
          database := db.setTable ((p.onto layout).shape
            ((p.replacing n (p.kept values) rows).map (p.picked layout)))
          changes := 1 } := by
  -- The program keeps the name of the table and the places, and looks the rows up when it runs.
  let places := p.columns.map fun c => (p.onto layout).placeOf c.column
  let terms : List Term := (List.range p.columns.length).map fun i => .parameter (i + 1)
  let program : Program := {
    run := fun parameters db => do
      let values := [terms].reverse.map fun row => row.map (·.eval { parameters := parameters })
      let progress ← values.foldlM (Engine.insertOne .replace p.table places ⟨[], []⟩) ⟨db, 0⟩
      return progress.outcome }
  have counted : Engine.checkWidth {
      onConflict := .replace, table := ⟨place, none, p.table, written⟩
      columns := some p.columnNames
      rows := [(List.range p.columns.length).map fun i => .parameter (i + 1)] }
        ((p.onto layout).shape (rows.map (p.picked layout))) places p.columns.length = .ok () := by
    simp [Engine.checkWidth, places]
  have prepared : Engine.prepareInsert db {
      onConflict := .replace, table := ⟨place, none, p.table, written⟩
      columns := some p.columnNames
      rows := [(List.range p.columns.length).map fun i => .parameter (i + 1)] } = .ok program := by
    simp only [Engine.prepareInsert, stored.changedTable, insertPlaces_onto sound stored.perm,
      stored.triggersAround, List.reverse_singleton, List.mapM_cons, List.mapM_nil,
      resolveAll_parameters, Engine.checkWidths, List.all_nil, List.head?_cons, Option.map_some,
      Option.getD_some, List.length_map, List.length_range, bind, Except.bind, ↓reduceIte]
    rw [show (Engine.checkWidth _ ((p.onto layout).shape _) _ _) = _ from counted]
    rfl
  refine ⟨program, congrArg (Except.map some) prepared, rfl, ?_⟩
  intro rows db values n stored wide key
  simp only [program, terms, List.reverse_singleton, List.map_singleton, eval_parameters wide,
    List.foldlM_cons, List.foldlM_nil, places, insertOne_onto stored sound wide key, bind,
    Except.bind]
  rfl

/-! ## A row that goes -/

theorem deleteOne_onto (sound : p.Sound) (stored : p.In layout rows db) (numbered : p.Numbered rows)
    {row : Row} {n : Int64} (member : row ∈ rows) (key : p.keyAt row = .integer n) :
    Engine.deleteOne p.table ⟨[], []⟩ ⟨db, 0⟩ [.integer n] =
      .ok ⟨db.setTable ((p.onto layout).shape ((p.without n rows).map (p.picked layout))), 1⟩ := by
  have laid := numbered.picked sound stored.perm
  have hasKey {other : Row} (listed : other ∈ rows.map (p.picked layout)) :
      ((p.onto layout).shape (rows.map (p.picked layout))).hasKey [.integer n] other =
        ((p.onto layout).keyAt other).isNumber n := hasKey_integer other n
  -- The row of the key is there in the layout of the table too.
  obtain ⟨old, found⟩ : ∃ old,
      ((p.onto layout).shape (rows.map (p.picked layout))).find? [.integer n] = some old := by
    rw [← Option.isSome_iff_exists, Table.find?, List.find?_isSome]
    refine ⟨p.picked layout row, List.mem_map_of_mem member, ?_⟩
    rw [hasKey (List.mem_map_of_mem member), sound.keyAt_picked stored.perm, key]
    simp
  have erased : ((p.onto layout).shape (rows.map (p.picked layout))).erase [.integer n] =
      (p.onto layout).shape ((p.without n rows).map (p.picked layout)) := by
    rw [← without_picked sound stored.perm]
    have same : (rows.map (p.picked layout)).filter (fun other =>
        !((p.onto layout).shape (rows.map (p.picked layout))).hasKey [.integer n] other) =
          (p.onto layout).without n (rows.map (p.picked layout)) := by
      refine List.filter_congr fun other listed => ?_
      rw [hasKey listed]
    exact congrArg (fun rows => (p.onto layout).shape rows) same
  simp only [Engine.deleteOne, stored.found, found, erased]
  rfl

theorem prepare_delete (sound : p.Sound) (stored : p.In layout rows db) (fits : p.Fits rows)
    (ordered : p.Ordered rows) (numbered : p.Numbered rows) (place key : Nat) (written : String) :
    ∃ program, db.prepare (.delete {
        table := ⟨place, none, p.table, written⟩
        condition := some (.binary .equal (.column key none p.keyColumn false) (.parameter 1)) }) =
          .ok (some program)
      ∧ program.writes = true
      ∧ ∀ n, (p.rowsOf [n] rows = [] ∧ program.run [.integer n] db = .ok { database := db })
        ∨ (p.rowsOf [n] rows ≠ [] ∧ program.run [.integer n] db =
          .ok { database := db.setTable ((p.onto layout).shape ((p.without n rows).map (p.picked layout)))
                changes := 1 }) := by
  let laidRows := rows.map (p.picked layout)
  have resolved : ({ sources := [((p.onto layout).shape laidRows).source] } : Scope).resolve?
      (some (.binary .equal (.column key none p.keyColumn false) (.parameter 1))) =
        .ok (some (.keyEquals (p.onto layout).primaryKey 1)) := by
    have column : ({ sources := [((p.onto layout).shape laidRows).source] } : Scope).resolve
        (.column key none p.keyColumn false) = .ok (.column (p.onto layout).primaryKey .integer) :=
      (sound.onto stored.perm).resolve_key rfl key
    rw [Scope.resolve?, Scope.resolve, column]
    rfl
  let program : Program := {
    run := fun parameters db => do
      let keys := Engine.matchingKeys db p.table parameters
        (some (.keyEquals (p.onto layout).primaryKey 1))
      let progress ← keys.foldlM (Engine.deleteOne p.table ⟨[], []⟩) ⟨db, 0⟩
      return progress.outcome }
  have prepared : Engine.prepareDelete db {
      table := ⟨place, none, p.table, written⟩
      condition := some (.binary .equal (.column key none p.keyColumn false) (.parameter 1)) } =
        .ok program := by
    simp only [Engine.prepareDelete, stored.changedTable, stored.triggersAround, resolved, laidRows,
      bind, Except.bind]
    rfl
  refine ⟨program, congrArg (Except.map some) prepared, rfl, fun n => ?_⟩
  -- The engine collects the keys of the rows first and deletes them then.
  have keys : Engine.matchingKeys db p.table [.integer n]
      (some (.keyEquals (p.onto layout).primaryKey 1)) = (p.rowsOf [n] rows).map fun row => [p.keyAt row] := by
    have laid := holding_keyEquals (fits.picked sound stored.perm) n
    rw [rowsOf_picked sound stored.perm] at laid
    have found : Engine.matchingKeys db p.table [.integer n]
        (some (.keyEquals (p.onto layout).primaryKey 1)) =
          (holding (some (.keyEquals (p.onto layout).primaryKey 1)) [.integer n] laidRows).map
            ((p.onto layout).shape laidRows).keyOf := by
      rw [Engine.matchingKeys, stored.found]
      rfl
    rw [found, laid, List.map_map]
    simp [Function.comp_def, sound.keyAt_picked stored.perm]
  rcases rowsOf_single ordered n with none_found | ⟨row, member, found, number⟩
  · refine .inl ⟨none_found, ?_⟩
    simp only [program, keys, none_found, List.map_nil, List.foldlM_nil, bind, Except.bind]
    rfl
  · refine .inr ⟨by simp [found], ?_⟩
    obtain ⟨m, here⟩ := numbered row member
    rw [here, Datum.isNumber_integer, decide_eq_true_eq] at number
    rw [number] at here
    simp only [program, keys, found, List.map_singleton, List.foldlM_cons, List.foldlM_nil, here,
      deleteOne_onto sound stored numbered member here, bind, Except.bind]
    rfl

end MappingPlan

end EntityStore
