import EntityStore.Proofs.Mapper.Change
import EntityStore.Proofs.Table.Change
import EntityStore.Store.Migration

/-! # Definitions of tables of plans

What the definitions of mappers make of a database:

* `Table.define_plan` — the table that is created is that of the plan, without rows.
* `MappingPlan.Ready` — a database that the definitions of a plan can be run in.
* `MappingPlan.prepare_createTable`, `MappingPlan.prepare_createIndex` — the definitions as
  programs.
-/

namespace EntityStore

open EntityStore.Engine (Database Table Row Scope Term Program Index)
open EntityStore.Sql (Datum Affinity Expr ObjectName ColumnName TableDefinition sameName foldWord)

/-- A name that the engine does not keep for itself. -/
def isOpen (name : String) : Bool := !"sqlite_".toList.isPrefixOf (foldWord name).toList

theorem checkName_open {name : String} (isOpen : isOpen name = true) :
    Engine.checkName name = .ok () := by
  rw [EntityStore.isOpen, Bool.not_eq_true'] at isOpen
  rw [Engine.checkName, isOpen]
  rfl

namespace MappingPlan

variable {p : MappingPlan} {rows : List Row} {db : Database} {layout : List ColumnPlan}

/-! ## Columns -/

def columnOf (c : ColumnPlan) : Engine.Column :=
  { name := c.column, affinity := .ofType c.affinity.keyword }

theorem defineColumns_plan (table : String) {columns : List ColumnPlan} {seen : List String}
    {keyed : Bool} (fresh : ∀ c ∈ columns, seen.any (sameName c.column) = false)
    (apart : columns.Pairwise fun c d => sameName c.column d.column = false)
    (first : keyed = true → ∀ c ∈ columns, c.primaryKey = false)
    (single : columns.Pairwise fun c d => c.primaryKey = true → d.primaryKey = false) :
    Engine.defineColumns table seen keyed (columns.map (·.definedAs)) =
      .ok (columns.map columnOf) := by
  -- For all names seen and whether a key has been seen, which grow along the list.
  induction columns generalizing seen keyed with
  | nil => rfl
  | cons c rest ih =>
    rw [List.pairwise_cons] at apart single
    have here : seen.any (sameName c.column) = false := fresh c (List.mem_cons_self ..)
    have unkeyed : (keyed && c.primaryKey) = false := by
      cases keyed with
      | false => rfl
      | true => exact first rfl c (List.mem_cons_self ..)
    have later : Engine.defineColumns table (c.column :: seen) (keyed || c.primaryKey)
        (rest.map (·.definedAs)) = .ok (rest.map columnOf) := by
      refine ih (fun d member => ?_) apart.2 (fun has d member => ?_) single.2
      · rw [List.any_cons, sameName_comm, apart.1 d member,
          fresh d (List.mem_cons_of_mem _ member), Bool.or_false]
      · rcases Bool.or_eq_true _ _ ▸ has with before | now
        · exact first before d (List.mem_cons_of_mem _ member)
        · exact single.1 d member now
    have column : Engine.defineColumn c.definedAs = .ok (columnOf c) := rfl
    have names : c.definedAs.name = c.column := rfl
    have keys : c.definedAs.primaryKey = c.primaryKey := rfl
    simp only [List.map_cons, Engine.defineColumns, names, keys, here, column, unkeyed, later, bind,
      Except.bind]
    rfl

/-! ## Keys -/

theorem Sound.filter_primaryKey (sound : p.Sound) :
    ∃ c, p.columns[p.primaryKey]? = some c ∧ c.column = p.keyColumn
      ∧ p.columns.filter (·.primaryKey) = [c] := by
  obtain ⟨c, here, name, _⟩ := sound.keyPlace
  obtain ⟨bound, same⟩ := List.getElem?_eq_some_iff.mp here
  refine ⟨c, here, name, ?_⟩
  -- The key column has its place, and the columns on both sides of it lack the flag.
  have split : p.columns = p.columns.take p.primaryKey ++ c :: p.columns.drop (p.primaryKey + 1) := by
    rw [← same, List.getElem_cons_drop, List.take_append_drop]
  have before : (p.columns.take p.primaryKey).filter (·.primaryKey) = [] := by
    refine List.filter_eq_nil_iff.mpr fun d member => ?_
    obtain ⟨i, place, rfl⟩ := List.getElem_of_mem member
    simp only [List.length_take] at place
    have flag := sound.keyFlag i _ (List.getElem?_eq_getElem (by omega))
    rw [List.getElem_take, flag]
    simp
    omega
  have after : (p.columns.drop (p.primaryKey + 1)).filter (·.primaryKey) = [] := by
    refine List.filter_eq_nil_iff.mpr fun d member => ?_
    obtain ⟨i, place, rfl⟩ := List.getElem_of_mem member
    simp only [List.length_drop] at place
    have flag := sound.keyFlag (p.primaryKey + 1 + i) _ (List.getElem?_eq_getElem (by omega))
    rw [List.getElem_drop, flag]
    simp
    omega
  have flag : c.primaryKey = true := by simpa using sound.keyFlag p.primaryKey c here
  rw [split, List.filter_append, before, List.filter_cons_of_pos flag, after]
  rfl

theorem Sound.single (sound : p.Sound) :
    p.columns.Pairwise fun c d => c.primaryKey = true → d.primaryKey = false := by
  rw [List.pairwise_iff_getElem]
  intro i j first second before flag
  rw [sound.keyFlag i _ (List.getElem?_eq_getElem first), decide_eq_true_eq] at flag
  rw [sound.keyFlag j _ (List.getElem?_eq_getElem second), decide_eq_false_iff_not]
  omega

/-- The columns of a table that is being defined are found by their names. -/
theorem columnPlace?_defined (apart : p.columns.Pairwise fun c d => sameName c.column d.column = false)
    {i : Nat} {c : ColumnPlan} (here : p.columns[i]? = some c) :
    Engine.columnPlace? (p.columns.map columnOf) none c.column = some i := by
  have found : Engine.columnPlace? (p.shape []).columns none c.column = some i :=
    columnPlace?_shape apart here
  have names : (p.shape []).columns.map (fun d => (d.hidden, d.name)) =
      (p.columns.map columnOf).map fun d => (d.hidden, d.name) := by
    refine List.ext_getElem (by simp) fun j _ _ => ?_
    simp [shape, columnOf]
  have place (columns : List Engine.Column) :
      columns.findIdx? (fun d => !d.hidden && sameName d.name c.column) =
        (columns.map fun d => (d.hidden, d.name)).findIdx?
          fun pair => !pair.1 && sameName pair.2 c.column := by
    rw [List.findIdx?_map]
    rfl
  rw [Engine.columnPlace?, place, names, ← place] at found
  exact found

/-! ## Tables -/

def definition (p : MappingPlan) (place : Nat) : TableDefinition :=
  { ifAbsent := true, name := ⟨place, none, p.table, p.table⟩
    columns := p.columns.map (·.definedAs), withoutRowId := true }

theorem define_plan (sound : p.Sound) (place : Nat) :
    Table.define (p.definition place) = .ok (p.shape []) := by
  obtain ⟨c, here, name, filtered⟩ := sound.filter_primaryKey
  have columns : Engine.defineColumns p.table [] false (p.columns.map (·.definedAs)) =
      .ok (p.columns.map columnOf) :=
    defineColumns_plan p.table (by simp) sound.apart (by simp) sound.single
  have keys : Engine.primaryKeys (p.definition place) = [[{ name := p.keyColumn }]] := by
    have flags : (p.columns.map (·.definedAs)).filter (·.primaryKey) =
        (p.columns.filter (·.primaryKey)).map (·.definedAs) := by
      rw [List.filter_map]
      rfl
    simp only [Engine.primaryKeys, definition, flags, filtered, List.map_cons, List.map_nil,
      List.filterMap_nil, List.append_nil, ← name]
    rfl
  have uniques : Engine.declaredUniques (p.definition place) = [] := by
    have none_unique : (p.columns.map (·.definedAs)).filter (·.unique) = [] := by
      rw [List.filter_map, List.map_eq_nil_iff, List.filter_eq_nil_iff]
      exact fun _ _ => Bool.false_ne_true
    simp [Engine.declaredUniques, definition, none_unique]
  have key : Engine.namedPlaces (p.columns.map columnOf) [{ name := p.keyColumn }] =
      .ok [p.primaryKey] := by
    simp only [Engine.namedPlaces, List.mapM_cons, List.mapM_nil, ← name,
      columnPlace?_defined sound.apart here]
    rfl
  have named : Engine.defineColumns (p.definition place).name.name [] false
      (p.definition place).columns = .ok (p.columns.map columnOf) := columns
  -- A key column may not be null, though its definition does not say so.
  have shaped : (p.columns.map columnOf).zipIdx.map (fun x =>
      { x.1 with notNull := x.1.notNull || [p.primaryKey].contains x.2 }) = (p.shape []).columns := by
    refine List.ext_getElem (by simp) fun i _ _ => ?_
    simp [shape, columnOf]
  simp only [Table.define, named, uniques, keys, List.mapM_nil, List.mapM_cons, key, bind,
    Except.bind, pure, Except.pure, Except.map, List.flatten_cons, List.flatten_nil, List.append_nil]
  rw [shaped]
  rfl

/-! ## Definitions as programs -/

/-- A plan whose names the engine does not keep for itself. -/
structure Accepted (p : MappingPlan) : Prop extends p.Sound where
  openTable : isOpen p.table = true
  openIndex : ∀ c ∈ p.indexedColumns, isOpen (c.indexName p.table) = true

/-- A database that the definitions of a plan can be run in: their names are free, or stand for what
    the plan has defined before. -/
structure Ready (p : MappingPlan) (db : Database) : Prop extends p.Clear db where
  index : db.index? p.table = none
  holders : ∀ c ∈ p.indexedColumns, db.holder? (c.indexName p.table) = none
  indexes : ∀ c ∈ p.indexedColumns, ∀ x ∈ db.indexes,
    sameName x.name (c.indexName p.table) = true → x.name = c.indexName p.table

theorem ready_empty (p : MappingPlan) : p.Ready {} := by
  refine ⟨⟨rfl, ?_, ?_⟩, rfl, fun c _ => rfl, fun c _ x listed => ?_⟩
  · exact fun d listed => absurd listed (List.not_mem_nil)
  · exact fun x listed => absurd listed (List.not_mem_nil)
  · exact absurd listed (List.not_mem_nil)

/-- A definition that does one thing to the database, whatever it is given. -/
def Defines (program : Program) (db next : Database) : Prop :=
  program.writes = true ∧ program.run [] db = .ok { database := next }

theorem holder?_none {name : String} (table : db.table? name = none) (view : db.view? name = none) :
    db.holder? name = none := by
  rw [Database.holder?, table, view]
  rfl

theorem prepare_createTable (accepted : p.Accepted) (ready : p.Ready db)
    (absent : db.table? p.table = none) (place : Nat) :
    ∃ program, db.prepare (.createTable (p.definition place)) = .ok (some program)
      ∧ Defines program db { db with tables := db.tables ++ [p.shape []] } := by
  have isFree : Engine.isFree db (p.definition place).name true = .ok true := by
    have checked : Engine.checkName (p.definition place).name.name = .ok () :=
      checkName_open accepted.openTable
    have holder : db.holder? (p.definition place).name.name = none := holder?_none absent ready.view
    have index : db.index? (p.definition place).name.name = none := ready.index
    simp only [Engine.isFree, checked, holder, index, bind, Except.bind]
    rfl
  have prepared : Engine.createTable db (p.definition place) =
      .ok (.define fun db => { db with tables := db.tables ++ [p.shape []] }) := by
    have given : (p.definition place).ifAbsent = true := rfl
    simp only [Engine.createTable, given, isFree, define_plan accepted.toSound, bind, Except.bind]
    rfl
  exact ⟨_, congrArg (Except.map some) prepared, rfl, rfl⟩

def index (p : MappingPlan) (c : ColumnPlan) (place : Nat) : Index :=
  { name := c.indexName p.table, table := p.table, columns := some [place] }

theorem Ready.index?_none (ready : p.Ready db) {c : ColumnPlan} (indexed : c ∈ p.indexedColumns)
    (absent : db.hasIndex (c.indexName p.table) = false) : db.index? (c.indexName p.table) = none := by
  rw [Database.index?, List.find?_eq_none]
  intro x member same
  rw [Database.hasIndex, List.any_eq_false] at absent
  exact absent x member (decide_eq_true (ready.indexes c indexed x member same))

theorem prepare_createIndex (accepted : p.Accepted) (ready : p.Ready db)
    (stored : p.In layout rows db) {c : ColumnPlan} (indexed : c ∈ p.indexedColumns)
    (absent : db.hasIndex (c.indexName p.table) = false) (place column : Nat) :
    ∃ program i, db.prepare (.createIndex {
        unique := false, ifAbsent := true
        name := ⟨place, none, c.indexName p.table, c.indexName p.table⟩
        table := p.table, terms := [.column column none c.column false] }) = .ok (some program)
      ∧ Defines program db { db with indexes := db.indexes ++ [p.index c i] } := by
  let laid := (p.onto layout).shape (rows.map (p.picked layout))
  have member : c ∈ layout := stored.perm.mem_iff.mpr (List.mem_filter.mp indexed).1
  obtain ⟨i, here⟩ := List.getElem?_of_mem member
  have holder : Engine.checkHolder db p.table = .ok () := by
    rw [Engine.checkHolder, Database.holder?, stored.found]
    rfl
  have checked : Engine.checkName (c.indexName p.table) = .ok () :=
    checkName_open (accepted.openIndex c indexed)
  have resolved : ({ sources := [{ laid.source with rowId := none }] } : Scope).resolveAll
      [.column column none c.column false] = .ok [.column i (.ofType c.affinity.keyword)] := by
    have name : ({ sources := [laid.source] } : Scope).resolve (.column column none c.column false) =
        .ok (.column i (.ofType c.affinity.keyword)) :=
      resolve_column (p := p.onto layout) (accepted.toSound.layout_apart stored.perm) rfl here column
    -- The table is without row numbers, so the index sees it as a query does.
    have source : ({ laid.source with rowId := none } : Engine.Source) = laid.source := rfl
    rw [source, Scope.resolveAll, name]
    rfl
  have prepared : Engine.createIndex db {
      unique := false, ifAbsent := true
      name := ⟨place, none, c.indexName p.table, c.indexName p.table⟩
      table := p.table, terms := [.column column none c.column false] } =
        .ok { run := fun _ db => .ok { database := { db with indexes := db.indexes ++ [p.index c i] } } } := by
    simp only [Engine.createIndex, holder, stored.found, checked, ready.holders c indexed,
      ready.index?_none indexed absent, bind, Except.bind, Option.isSome_none, Bool.false_eq_true,
      ↓reduceIte]
    rw [show (Scope.resolveAll _ _) = _ from resolved]
    rfl
  exact ⟨_, i, congrArg (Except.map some) prepared, rfl, rfl⟩

/-! ## A table that has been created -/

/-- A table among others is found by its name if none before it has the name. -/
theorem table?_append (db : Database) {t : Table} {name : String} (absent : db.table? name = none) :
    ({ db with tables := db.tables ++ [t] } : Database).table? name =
      if sameName t.name name then some t else none := by
  simp only [Database.table?] at absent ⊢
  rw [List.find?_append, absent]
  by_cases same : sameName t.name name = true <;> simp [same]

/-- In its own order a plan is as it was. -/
theorem Sound.onto_columns (sound : p.Sound) : p.onto p.columns = p := by
  obtain ⟨c, here, first, _⟩ := sound.layout_key (List.Perm.refl p.columns)
  have apart : p.columns.Pairwise fun c d => sameName c.column d.column = false := sound.apart
  have place : p.columns.findIdx (·.primaryKey) = p.primaryKey :=
    (placeOf_column apart here).symm.trans (placeOf_column apart first)
  rw [MappingPlan.onto, place]

theorem Sound.created (sound : p.Sound) (clear : p.Clear db) (absent : db.table? p.table = none) :
    p.In p.columns [] { db with tables := db.tables ++ [p.shape []] } where
  toClear := ⟨clear.view, clear.triggers, clear.plain⟩
  perm := .refl _
  found := by
    have name : (p.shape []).name = p.table := rfl
    rw [table?_append db absent, name, sameName_refl, sound.onto_columns]
    rfl

end MappingPlan

end EntityStore
