import EntityStore.Proofs.Catalog.Coherence
import EntityStore.Proofs.Catalog.Row
import EntityStore.Proofs.Text.Reader

/-! # Statement texts

The statements of a plan are put together one by one from names and fixed pieces:

* `Text.readInsert`, `Text.readSelection`, `Text.readCreateTable` and the like — statements read back.
* `MappingPlan.Plain`, `EntitySchema.Plain` — names that end where a fixed piece starts.
* `MappingPlan.TextsAgree` — what is read back of the texts of a plan agrees with its columns, and of
  one text with another.
* `EntitySchema.texts_agree` — it does for every schema with plain names and one key.
-/

namespace EntityStore

/-! ## Statements read back -/

namespace Text

/-- The columns that a query lists, and the table that it lists them from. -/
structure Selection where
  columns : List String
  table : String

structure Definition where
  column : String
  affinity : String
  primaryKey : Bool

def readSelection : Reader Selection := do
  expect "select "
  let columns ← readList readName
  expect " from "
  let table ← readName
  return ⟨columns, table⟩

def readGet : Reader (Selection × String) := do
  let selection ← readSelection
  expect " where "
  let key ← readName
  expect " = ?"
  return (selection, key)

/-- Reads a query for several keys, with the column and the number of keys. -/
def readGets : Reader (Selection × String × Nat) := do
  let selection ← readSelection
  expect " where "
  let key ← readName
  expect " in ("
  let count ← readMarks
  expect ")"
  return (selection, key, count)

/-- Reads a query for all rows, with the column that orders them. -/
def readOrdered : Reader (Selection × String) := do
  let selection ← readSelection
  expect " order by "
  let order ← readName
  return (selection, order)

/-- Reads a query for the rows that a predicate holds for, with the column that orders them, the
    greatest value first. -/
def readFiltered (predicate : String) : Reader (Selection × String) := do
  let selection ← readSelection
  expect " where "
  expect predicate
  expect " order by "
  let order ← readName
  expect " desc"
  return (selection, order)

def readInsert : Reader (String × List String × Nat) := do
  expect "REPLACE into "
  let table ← readName
  expect "("
  let columns ← readList readName
  expect ")values("
  let count ← readMarks
  expect ")"
  return (table, columns, count)

def readDelete : Reader (String × String) := do
  expect "delete from "
  let table ← readName
  expect " where "
  let key ← readName
  expect " = ?"
  return (table, key)

def readDefinition : Reader Definition := do
  let column ← readName
  expect " "
  let affinity ← readName
  let primaryKey ← takePiece " PRIMARY KEY"
  return ⟨column, affinity, primaryKey⟩

def readCreateTable : Reader (String × List Definition) := do
  expect "create table if not exists "
  let table ← readName
  expect "( "
  let definitions ← readList readDefinition
  expect " ) WITHOUT ROWID ;"
  return (table, definitions)

def readAddColumn : Reader (String × Definition) := do
  expect "alter table "
  let table ← readName
  expect " add column "
  let definition ← readDefinition
  return (table, definition)

def readCreateIndex : Reader (String × String × String) := do
  expect "create index if not exists "
  let name ← readName
  expect " on "
  let table ← readName
  expect "("
  let column ← readName
  expect ")"
  return (name, table, column)

theorem isPlain_append (a b : String) : isPlain (a ++ b) = (isPlain a && isPlain b) := by
  rw [isPlain, String.toList_append, List.all_append, isPlain, isPlain]

/-- A definition ends where its last name does, unless the mark of the key follows. -/
def EndsDefinition (rest : List Char) : Prop :=
  EndsName rest ∧ " PRIMARY KEY".toList.isPrefixOf? rest = none

theorem reads_definition {c : ColumnPlan} (plain : isPlain c.column = true) (primaryKey : Bool) :
    Reads EndsDefinition readDefinition (c.definition ++ if primaryKey then " PRIMARY KEY" else "")
      ⟨c.column, c.affinity.keyword, primaryKey⟩ := by
  have keyword : isPlain c.affinity.keyword = true := by
    cases c.affinity <;> rfl
  -- What ends the affinity tells whether the words for the key follow.
  have affinity : Reads EndsDefinition (do
      let affinity ← readName
      let primaryKey ← takePiece " PRIMARY KEY"
      return (⟨c.column, affinity, primaryKey⟩ : Definition))
      (c.affinity.keyword ++ if primaryKey then " PRIMARY KEY" else "")
      ⟨c.column, c.affinity.keyword, primaryKey⟩ := by
    intro rest ends
    rw [String.toList_append, List.append_assoc]
    cases primaryKey with
    | true =>
      have apart : EndsName (" PRIMARY KEY".toList ++ rest) := rfl
      rw [if_pos rfl, run_bind_some (reads_name keyword _ apart), run_bind_some (run_takePiece ..)]
      rfl
    | false =>
      rw [if_neg Bool.false_ne_true, String.toList_empty, List.nil_append,
        run_bind_some (reads_name keyword _ ends.1), run_bind_some (run_takePiece_other ends.2)]
      rfl
  have split : (c.definition ++ if primaryKey then " PRIMARY KEY" else "") =
      c.column ++ (" " ++ (c.affinity.keyword ++ if primaryKey then " PRIMARY KEY" else "")) := by
    rw [ColumnPlan.definition, String.append_assoc, String.append_assoc]
  rw [split]
  exact (reads_name plain).before (fun _ => rfl) affinity

end Text

/-! ## The texts of plans -/

namespace MappingPlan

open Text

/-- The names of a plan are free of delimiters. -/
structure Plain (p : MappingPlan) : Prop where
  table : isPlain p.table = true
  columns : ∀ c ∈ p.columns, isPlain c.column = true
  key : isPlain p.keyColumn = true

theorem columnDefinition_eq (c : ColumnPlan) :
    columnDefinition c = c.definition ++ if c.primaryKey then " PRIMARY KEY" else "" := by
  rw [columnDefinition]
  split
  · rfl
  · rw [String.append_empty]

def selection (p : MappingPlan) : Selection := ⟨p.columnNames, p.table⟩

/-- The queries for whole rows: `n` keys are asked for, or what a caller has put in. -/
def queries (p : MappingPlan) (n : Nat) (predicate order : String) : List String :=
  [p.get, p.gets n, p.select, p.selectOrdered order, p.selectLimit order, p.selectWhere predicate,
    p.selectWhereOrdered predicate order, p.selectWhereLimit predicate order]

theorem insert_pieces (p : MappingPlan) : p.insert = "REPLACE into " ++ (p.table ++ ("(" ++
    (p.selectFields ++ (")values(" ++ (marks p.columns.length ++ ")"))))) := by
  show "REPLACE into " ++ p.table ++ "(" ++ p.selectFields ++ ")values(" ++ marks p.columns.length
    ++ ")" = _
  simp only [String.append_assoc]

section
variable {p : MappingPlan} (plain : p.Plain)
include plain

theorem Plain.names : ∀ name ∈ p.columnNames, isPlain name = true := by
  intro name member
  obtain ⟨c, listed, rfl⟩ := List.mem_map.mp member
  exact plain.columns c listed

theorem reads_delete : Reads (fun _ => True) readDelete p.delete (p.table, p.keyColumn) := by
  simp only [delete, String.append_assoc]
  refine .after _ (.before (reads_name plain.table) (fun _ => rfl) ?_)
  exact .last (reads_name plain.key) fun _ => rfl

theorem reads_addColumn {c : ColumnPlan} (member : c ∈ p.columns) :
    Reads EndsDefinition readAddColumn (p.addColumn c)
      (p.table, ⟨c.column, c.affinity.keyword, false⟩) := by
  have definition := reads_definition (plain.columns c member) false
  rw [if_neg Bool.false_ne_true, String.append_empty] at definition
  simp only [addColumn, String.append_assoc]
  refine .after _ (.before (reads_name plain.table) (fun _ => rfl) ?_)
  exact .map _ definition

theorem reads_createIndex {c : ColumnPlan} (member : c ∈ p.columns) :
    Reads (fun _ => True) readCreateIndex (p.createIndex c)
      (c.indexName p.table, p.table, c.column) := by
  have column := plain.columns c member
  have name : isPlain (c.indexName p.table) = true := by
    rw [ColumnPlan.indexName, isPlain_append, isPlain_append, isPlain_append, plain.table, column]
    rfl
  show Reads _ _ ("create index if not exists " ++ c.indexName p.table ++ " on " ++ p.table ++ "("
    ++ c.column ++ ")") _
  simp only [String.append_assoc]
  refine .after _ (.before (reads_name name) (fun _ => rfl) ?_)
  refine .before (reads_name plain.table) (fun _ => rfl) ?_
  exact .last (reads_name column) fun _ => rfl

variable (some_column : p.columns ≠ [])
include some_column

theorem reads_selectFields :
    Reads (EndsList EndsName) (readList readName) p.selectFields p.columnNames :=
  reads_names (by simpa [columnNames] using some_column) plain.names

theorem reads_selectFrom : Reads EndsName readSelection p.selectFrom p.selection := by
  simp only [selectFrom, String.append_assoc]
  refine .after _ (.before (reads_selectFields plain some_column) (fun _ => ⟨rfl, rfl⟩) ?_)
  exact .map _ (reads_name plain.table)

theorem reads_get : Reads (fun _ => True) readGet p.get (p.selection, p.keyColumn) := by
  simp only [get, String.append_assoc]
  refine .before (reads_selectFrom plain some_column) (fun _ => rfl) ?_
  exact .last (reads_name plain.key) fun _ => rfl

theorem reads_gets (n : Nat) :
    Reads (fun _ => True) readGets (p.gets n) (p.selection, p.keyColumn, n) := by
  simp only [gets, String.append_assoc]
  refine .before (reads_selectFrom plain some_column) (fun _ => rfl) ?_
  refine .before (reads_name plain.key) (fun _ => rfl) ?_
  exact .last (reads_marks n) fun _ => rfl

theorem reads_select : Reads EndsName readOrdered p.select (p.selection, p.keyColumn) := by
  simp only [select, selectOrdered, String.append_assoc]
  refine .before (reads_selectFrom plain some_column) (fun _ => rfl) ?_
  exact .map _ (reads_name plain.key)

theorem reads_selectWhere (predicate : String) : Reads (fun _ => True) (readFiltered predicate)
    (p.selectWhere predicate) (p.selection, p.keyColumn) := by
  simp only [selectWhere, selectWhereOrdered, String.append_assoc]
  refine .before (reads_selectFrom plain some_column) (fun _ => rfl) (.after _ (.after _ ?_))
  exact .last (reads_name plain.key) fun _ => rfl

theorem start_queries {n : Nat} {predicate order : String} :
    ∀ text ∈ p.queries n predicate order, readSelection.start? text = some p.selection := by
  -- Behind the table there is always a blank, so that what a caller has put in is not read.
  have starts (more : String) (apart : EndsName more.toList) :
      readSelection.start? (p.selectFrom ++ more) = some p.selection :=
    (reads_selectFrom plain some_column).start apart
  have filtered (more : String) : readSelection.start? (p.selectFrom ++ (" where " ++ more)) =
      some p.selection := starts _ (by rw [String.toList_append]; rfl)
  have ordered (more : String) : readSelection.start? (p.selectFrom ++ (" order by " ++ more)) =
      some p.selection := starts _ (by rw [String.toList_append]; rfl)
  simp only [queries, List.forall_mem_cons, get, gets, select, selectOrdered, selectLimit,
    selectWhere, selectWhereOrdered, selectWhereLimit, String.append_assoc, filtered, ordered]
  simp

theorem reads_insert : Reads (fun _ => True) readInsert p.insert
    (p.table, p.columnNames, p.columns.length) := by
  rw [insert_pieces]
  refine .after _ (.before (reads_name plain.table) (fun _ => rfl) ?_)
  refine .before (reads_selectFields plain some_column) (fun _ => ⟨rfl, rfl⟩) ?_
  exact .last (reads_marks _) fun _ => rfl

theorem reads_createTable : Reads (fun _ => True) readCreateTable p.createTable
    (p.table, p.columns.map fun c => ⟨c.column, c.affinity.keyword, c.primaryKey⟩) := by
  have each (c : ColumnPlan) (member : c ∈ p.columns) : Reads EndsDefinition readDefinition
      (columnDefinition c) ⟨c.column, c.affinity.keyword, c.primaryKey⟩ := by
    rw [columnDefinition_eq]
    exact reads_definition (plain.columns c member) c.primaryKey
  have definitions := reads_list (fun _ => ⟨rfl, rfl⟩) some_column each
  show Reads _ _ ("create table if not exists " ++ p.table ++ "( "
    ++ commaList (p.columns.map columnDefinition) ++ " ) WITHOUT ROWID ;") _
  simp only [String.append_assoc]
  refine .after _ (.before (reads_name plain.table) (fun _ => rfl) ?_)
  exact .last definitions fun _ => ⟨⟨rfl, rfl⟩, rfl⟩

end

/-! ## Parameter marks -/

theorem count_marks (n : Nat) : (marks n).toList.count '?' = n := by
  have each : (List.replicate n "?").flatMap String.toList = List.replicate n '?' := by
    rw [List.flatMap_replicate]
    exact List.flatten_replicate_singleton
  rw [marks, commaList, count_intercalate (by decide), each, List.count_replicate_self]

section
variable {p : MappingPlan} (plain : p.Plain)
include plain

theorem count_selectFields : p.selectFields.toList.count '?' = 0 := by
  rw [selectFields, commaList, count_intercalate (by decide), List.count_eq_zero]
  intro member
  obtain ⟨name, listed, inside⟩ := List.mem_flatMap.mp member
  exact List.count_eq_zero.mp (count_plain rfl (plain.names name listed)) inside

theorem count_insert : p.insert.toList.count '?' = p.columns.length := by
  have table : p.table.toList.count '?' = 0 := count_plain rfl plain.table
  rw [insert_pieces]
  simp [String.toList_append, table, count_selectFields plain, count_marks]

theorem count_gets (n : Nat) : (p.gets n).toList.count '?' = n := by
  have table : p.table.toList.count '?' = 0 := count_plain rfl plain.table
  have key : p.keyColumn.toList.count '?' = 0 := count_plain rfl plain.key
  simp [gets, selectFrom, String.toList_append, table, key, count_selectFields plain, count_marks]

end

/-! ## Agreement -/

/-- The texts of a plan, read back, agree with its columns and with each other. -/
structure TextsAgree (p : MappingPlan) : Prop where
  /-- The columns are listed in their order, and so they are in every query whatever follows. -/
  fields : (readList readName).whole? p.selectFields = some p.columnNames
  queries : ∀ n predicate order, ∀ text ∈ p.queries n predicate order,
    readSelection.start? text = some p.selection
  /-- A row is written to the columns in that order, with one mark for each. -/
  insert : readInsert.whole? p.insert = some (p.table, p.columnNames, p.columns.length)
  marks : p.insert.toList.count '?' = p.columns.length ∧ ∀ n, (p.gets n).toList.count '?' = n
  /-- One column is compared to keys, and orders rows where nothing else is asked for. -/
  get : readGet.whole? p.get = some (p.selection, p.keyColumn)
  gets : ∀ n, readGets.whole? (p.gets n) = some (p.selection, p.keyColumn, n)
  delete : readDelete.whole? p.delete = some (p.table, p.keyColumn)
  select : readOrdered.whole? p.select = some (p.selection, p.keyColumn)
  selectWhere : ∀ predicate,
    (readFiltered predicate).whole? (p.selectWhere predicate) = some (p.selection, p.keyColumn)
  /-- The table is created with a definition for each column in order, of which that one alone is the
      primary key, and each column is added with its definition but for the key. -/
  definitions : ∃ definitions key, readCreateTable.whole? p.createTable = some (p.table, definitions)
    ∧ definitions.map (fun d => (d.column, d.affinity)) =
      p.columns.map (fun c => (c.column, c.affinity.keyword))
    ∧ definitions.filter (·.primaryKey) = [key] ∧ definitions[p.primaryKey]? = some key
    ∧ key.column = p.keyColumn
    ∧ p.columns.map (fun c => readAddColumn.whole? (p.addColumn c)) =
      definitions.map fun d => some (p.table, { d with primaryKey := false })
  /-- The columns with the flag, and no others, have an index each, in their order. -/
  indexes : p.createIndexes.map readCreateIndex.whole? =
    (p.columns.filter (·.index)).map fun c => some (c.indexName p.table, p.table, c.column)

theorem Plain.textsAgree {p : MappingPlan} (plain : p.Plain) {key : ColumnPlan}
    (only : p.columns.filter (·.primaryKey) = [key]) (place : p.columns[p.primaryKey]? = some key)
    (name : key.column = p.keyColumn) : p.TextsAgree := by
  have some_column : p.columns ≠ [] := by
    intro none
    rw [none] at only
    cases only
  exact {
    fields := (reads_selectFields plain some_column).whole ⟨rfl, rfl⟩
    queries := fun _ _ _ => start_queries plain some_column
    insert := (reads_insert plain some_column).whole trivial
    marks := ⟨count_insert plain, count_gets plain⟩
    get := (reads_get plain some_column).whole trivial
    gets := fun n => (reads_gets plain some_column n).whole trivial
    delete := (reads_delete plain).whole trivial
    select := (reads_select plain some_column).whole rfl
    selectWhere := fun predicate => (reads_selectWhere plain some_column predicate).whole trivial
    definitions := by
      refine ⟨_, ⟨key.column, key.affinity.keyword, key.primaryKey⟩,
        (reads_createTable plain some_column).whole trivial, ?_, ?_, ?_, name, ?_⟩
      · rw [List.map_map]
        rfl
      · rw [List.filter_map]
        exact congrArg (List.map _) only
      · rw [List.getElem?_map, place]
        rfl
      · rw [List.map_map]
        refine List.map_congr_left fun c member => ?_
        rw [(reads_addColumn plain member).whole ⟨rfl, rfl⟩]
        rfl
    indexes := by
      rw [createIndexes, List.map_map]
      refine List.map_congr_left fun c member => ?_
      rw [Function.comp_apply,
        (reads_createIndex plain (List.mem_filter.mp member).1).whole trivial] }

end MappingPlan

/-- The names of a schema are free of delimiters. -/
structure EntitySchema.Plain (s : EntitySchema) : Prop where
  table : Text.isPlain s.table = true
  columns : ∀ f ∈ s.fields, Text.isPlain f.column = true

/-- A schema with plain names and one primary key has a plan, whose texts agree with each other and with
    the columns; and rows of its entity are bound to as many values as the plan writes to a table. -/
theorem EntitySchema.texts_agree {s : EntitySchema}
    (oneKey : (s.fields.filter (·.primaryKey)).length = 1) (plain : s.Plain) :
    ∃ p, MappingPlan.ofSchema? s = some p ∧ p.columnNames = s.fields.map (·.column) ∧ p.TextsAgree
      ∧ ∀ models compiled, ((({} : Catalog).registerAll models).1.compile).1 = .ok compiled →
        ∀ e ∈ compiled.entities, e.plan = p → ∀ record, ∃ values,
          e.bindRow record = .ok values ∧ p.insert.toList.count '?' = values.length := by
  obtain ⟨key, only⟩ := List.length_eq_one_iff.mp oneKey
  have located := keyField?_of_only only
  have member : key ∈ s.fields := by
    have listed : key ∈ s.fields.filter (·.primaryKey) := only ▸ List.mem_singleton_self key
    exact (List.mem_filter.mp listed).1
  obtain ⟨p, planned, table, columns, place, keyColumn⟩ : ∃ p, MappingPlan.ofSchema? s = some p
      ∧ p.table = s.table ∧ p.columns = s.fields.map .ofField ∧ p.primaryKey = s.primaryKeyIndex
      ∧ p.keyColumn = key.column :=
    ⟨_, by rw [MappingPlan.ofSchema?, located]; rfl, rfl, rfl, rfl, rfl⟩
  have plainPlan : p.Plain := {
    table := table ▸ plain.table
    columns := by
      intro c listed
      rw [columns] at listed
      obtain ⟨f, here, rfl⟩ := List.mem_map.mp listed
      exact plain.columns f here
    key := keyColumn ▸ plain.columns key member }
  -- The only key field becomes the only key column, in the same place.
  have agree : p.TextsAgree := by
    have name : (ColumnPlan.ofField key).column = p.keyColumn := keyColumn.symm
    refine plainPlan.textsAgree ?_ ?_ name
    · rw [columns, List.filter_map]
      exact congrArg (List.map _) only
    · rw [columns, place, List.getElem?_map]
      exact congrArg (Option.map _) located
  refine ⟨p, planned, ?_, agree, ?_⟩
  · rw [MappingPlan.columnNames, columns, List.map_map]
    rfl
  · rintro models compiled done e registered rfl record
    have regular := (Catalog.regular_of_compile done).entities e registered
    refine ⟨_, CompiledEntity.bindRow_eq regular record, ?_⟩
    rw [agree.marks.1, List.length_map, regular.columns.length_eq]

/-- An entity whose names are words of the statements themselves, or nothing at all. -/
def Model.wordy : Model where
  qualifiedName := "Words"
  table := some "from"
  keyType := .int64
  initial := some .empty
  fields := [
    { name := "second", semantic := .text, index := true, column := some "desc"
      binding := some (.property .text "second") },
    { name := "key", semantic := .int64, primaryKey := true, column := some "PRIMARY"
      binding := some (.property .int64 "key") },
    { name := "last", semantic := .blob, column := some ""
      binding := some (.property .optionalBytes "last") }]

theorem EntitySchema.texts_of_words : ∃ compiled e,
    ((({} : Catalog).registerAll [.wordy]).1.compile).1 = .ok compiled ∧ e ∈ compiled.entities
      ∧ (e.schema.fields.filter (·.primaryKey)).length = 1 ∧ e.schema.Plain
      ∧ e.plan.createTable =
        "create table if not exists from( desc TEXT, PRIMARY INTEGER PRIMARY KEY,  BLOB ) WITHOUT ROWID ;"
      ∧ e.plan.selectWhere "" = "select desc, PRIMARY,  from from where  order by PRIMARY desc"
      ∧ e.plan.TextsAgree
      ∧ ∀ record, ∃ values, e.bindRow record = .ok values
        ∧ e.plan.insert.toList.count '?' = values.length := by
  have sound {compiled : CompiledCatalog} {e : CompiledEntity}
      (done : ((({} : Catalog).registerAll [.wordy]).1.compile).1 = .ok compiled)
      (member : e ∈ compiled.entities) (planned : MappingPlan.ofSchema? e.schema = some e.plan)
      (oneKey : (e.schema.fields.filter (·.primaryKey)).length = 1) (plain : e.schema.Plain) :
      e.plan.TextsAgree ∧ ∀ record, ∃ values, e.bindRow record = .ok values
        ∧ e.plan.insert.toList.count '?' = values.length := by
    obtain ⟨p, same, _, agree, binds⟩ := texts_agree oneKey plain
    cases planned.symm.trans same
    exact ⟨agree, binds _ _ done e member rfl⟩
  exact ⟨_, _, rfl, List.mem_cons_self, rfl, ⟨rfl, by decide⟩, rfl, rfl,
    sound rfl List.mem_cons_self rfl rfl ⟨rfl, by decide⟩⟩

end EntityStore
