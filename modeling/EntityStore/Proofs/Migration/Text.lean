import EntityStore.Engine.Prepare
import EntityStore.Catalog.Plan
import EntityStore.Proofs.Sql.Reading
import EntityStore.Proofs.Transaction.Definition

/-! # Texts of migrations

* `DefinesAlone` — a text that holds one definition and nothing after it.
* `DefinesAlone.prepared` — what the engine makes of such a text.
* `MappingPlan.Definite` — the texts of a plan are of that kind.
* `MappingPlan.Unbroken` — no name of a plan breaks a statement in two, so that they are.
-/

namespace EntityStore

open EntityStore.Sql
open EntityStore.Engine (Database Program)

/-! ## Texts with one definition -/

def Sql.Statement.isDefinition : Statement → Bool
  | .createTable _ | .createIndex _ | .alter _ _ => true
  | _ => false

/-- A text that holds one definition and nothing after it. -/
structure DefinesAlone (text : String) : Prop where
  first : ∀ parsed, parse (tokens text.toList) = .ok parsed →
    ∃ p, parsed = some p ∧ p.statement.isDefinition = true
  last : ∀ lexeme ∈ lexemes text.toList, lexeme.token = .symbol ";" → lexeme.after = []

theorem prepare_definition {db : Database} {s : Statement} {program : Option Program}
    (definition : s.isDefinition = true) (prepared : db.prepare s = .ok program)
    {Q : Database → Prop} (lasting : Database.Lasting Q) :
    ∃ p, program = some p ∧ p.Keeps Q := by
  have mapped {found : Except Engine.Fault Program}
      (keeps : ∀ p, found = .ok p → p.Keeps Q) (same : found.map some = .ok program) :
      ∃ p, program = some p ∧ p.Keeps Q := by
    cases found with
    | error fault => cases same
    | ok p => cases same; exact ⟨p, rfl, keeps p rfl⟩
  cases s with
  | createTable d => exact mapped (fun _ => Engine.createTable_keeps lasting) prepared
  | createIndex d => exact mapped (fun _ => Engine.createIndex_keeps lasting) prepared
  | alter table alteration =>
    cases alteration with
    | addColumn d => exact mapped (fun _ => Engine.prepareColumn_keeps lasting) prepared
    | renameTo name => exact mapped (fun _ => Engine.prepareRename_keeps lasting) prepared
  | _ => cases definition

theorem DefinesAlone.textAfter {text : String} (alone : DefinesAlone text) (unread : Nat) :
    textAfter (lexemes text.toList) unread = "" := by
  rw [EntityStore.textAfter]
  split
  · next lexeme found =>
    split
    · next semicolon =>
      rw [alone.last lexeme (List.mem_of_getElem? found) semicolon]
    · rfl
  · rfl

/-- A definition that the engine has prepared leaves nothing of its text, keeps what definitions do
    not touch and never ends a transaction. -/
theorem DefinesAlone.prepared {text : String} (alone : DefinesAlone text) {db : Database}
    {again : Bool} {prepared : Option Prepared} (read : prepareText db text again = .ok prepared)
    {Q : Database → Prop} (lasting : Database.Lasting Q) :
    ∃ p program, prepared = some p ∧ p.rest = "" ∧ p.program = some program ∧ program.Keeps Q := by
  simp only [prepareText] at read
  split at read
  · cases read
  · next nothing =>
    obtain ⟨p, absurd, _⟩ := alone.first _ nothing
    cases absurd
  · next parsed found =>
    obtain ⟨p, same, definition⟩ := alone.first _ found
    cases same
    split at read
    · cases read
    · next program prepares =>
      cases read
      obtain ⟨p, rfl, keeps⟩ := prepare_definition definition prepares lasting
      exact ⟨_, p, rfl, alone.textAfter _, rfl, keeps⟩

/-! ## The texts of plans -/

def MappingPlan.definitions (p : MappingPlan) : List String :=
  p.createTable :: (p.columns.map p.addColumn ++ p.createIndexes)

theorem MappingPlan.addColumn_mem {p : MappingPlan} {c : ColumnPlan} (member : c ∈ p.columns) :
    p.addColumn c ∈ p.definitions :=
  List.mem_cons_of_mem _ (List.mem_append_left _ (List.mem_map_of_mem member))

theorem MappingPlan.createIndex_mem {p : MappingPlan} {c : ColumnPlan} (member : c ∈ p.indexedColumns) :
    p.createIndex c ∈ p.definitions :=
  List.mem_cons_of_mem _ (List.mem_append_right _ (List.mem_map_of_mem member))

/-- Each of the texts holds one definition and nothing after it. -/
def MappingPlan.Definite (p : MappingPlan) : Prop := ∀ text ∈ p.definitions, DefinesAlone text

/-- No name of a plan breaks a statement in two. -/
structure MappingPlan.Unbroken (p : MappingPlan) : Prop where
  table : ';' ∉ p.table.toList
  columns : ∀ c ∈ p.columns, ';' ∉ c.column.toList

/-- A text that has no semicolon but at most the last character has nothing after it. -/
theorem last_of_semicolon {cs : List Char} (unbroken : ';' ∉ cs) {tail : List Char}
    (ends : tail = [] ∨ tail = [';']) :
    ∀ lexeme ∈ lexemes (cs ++ tail), lexeme.token = .symbol ";" → lexeme.after = [] := by
  intro lexeme member semicolon
  obtain ⟨before, same⟩ := after_of_semicolon member semicolon
  cases List.eq_nil_or_concat lexeme.after with
  | inl empty => exact empty
  | inr more =>
    -- Else the semicolon would stand before the last character.
    obtain ⟨inner, final, after⟩ := more
    refine absurd ?_ unbroken
    rw [after] at same
    rcases ends with rfl | rfl
    · rw [List.append_nil] at same
      rw [← same]
      simp
    · have split : (before ++ ';' :: inner) ++ [final] = cs ++ [';'] := by simpa using same
      rw [← (List.append_inj' split rfl).1]
      simp

theorem keyword_unbroken (a : Affinity) : ';' ∉ a.keyword.toList := by
  cases a <;> decide

theorem definition_unbroken {c : ColumnPlan} (unbroken : ';' ∉ c.column.toList) :
    ';' ∉ c.definition.toList := by
  have keyword := keyword_unbroken c.affinity
  simp only [ColumnPlan.definition, String.toList_append, List.mem_append, not_or]
  exact ⟨⟨unbroken, by decide⟩, keyword⟩

theorem commaList_unbroken {items : List String} (unbroken : ∀ item ∈ items, ';' ∉ item.toList) :
    ';' ∉ (MappingPlan.commaList items).toList := by
  induction items with
  | nil => decide
  | cons item rest ih =>
    cases rest with
    | nil => simpa [MappingPlan.commaList] using unbroken item
    | cons next rest =>
      rw [MappingPlan.commaList, String.intercalate_cons_cons]
      simp only [String.toList_append, List.mem_append, not_or]
      exact ⟨⟨unbroken item (List.mem_cons_self ..), by decide⟩,
        ih fun item member => unbroken item (List.mem_cons_of_mem _ member)⟩

/-- The first two words of a text that starts with them. -/
theorem tokens_two {first second : String} (isFirst : isWord first = true)
    (isSecond : isWord second = true) (rest : List Char) :
    tokens ((first ++ " " ++ second ++ " ").toList ++ rest) =
      .word first :: .word second :: tokens rest := by
  have split : (first ++ " " ++ second ++ " ").toList ++ rest =
      first.toList ++ ' ' :: (second.toList ++ ' ' :: rest) := by
    simp [String.toList_append]
  rw [split, tokens_word isFirst rfl, tokens_space, tokens_word isSecond rfl, tokens_space]

/-- A text that starts like a definition and has no semicolon but at most the last character. -/
theorem definesAlone {first second rest tail : String}
    (isFirst : isWord first = true) (isSecond : isWord second = true)
    (unbroken : ';' ∉ (first ++ " " ++ second ++ " ").toList ∧ ';' ∉ rest.toList)
    (ends : tail.toList = [] ∨ tail.toList = [';'])
    (defines : ∀ following n named s d,
      readStatement.run ⟨.word first :: .word second :: following, n, named⟩ = .ok (s, d) →
        s.isDefinition = true) :
    DefinesAlone (first ++ " " ++ second ++ " " ++ rest ++ tail) := by
  constructor
  · intro parsed read
    rw [String.toList_append, String.toList_append, List.append_assoc,
      tokens_two isFirst isSecond] at read
    obtain ⟨p, d, rfl, done⟩ := parse_eq_ok (by simp) read
    exact ⟨p, rfl, defines _ _ _ _ _ done⟩
  · rw [String.toList_append]
    refine last_of_semicolon ?_ ends
    rw [String.toList_append, List.mem_append, not_or]
    exact unbroken

namespace MappingPlan

variable {p : MappingPlan}

theorem createTable_alone (unbroken : p.Unbroken) : DefinesAlone p.createTable := by
  have columns : ∀ item ∈ p.columns.map columnDefinition, ';' ∉ item.toList := by
    intro item member
    obtain ⟨c, listed, rfl⟩ := List.mem_map.mp member
    have definition := definition_unbroken (unbroken.columns c listed)
    rw [columnDefinition]
    split
    · simp only [String.toList_append, List.mem_append, not_or]
      exact ⟨definition, by decide⟩
    · exact definition
  -- The only semicolon is the last letter.
  have written : p.createTable = "create" ++ " " ++ "table" ++ " " ++ ("if not exists " ++ p.table
      ++ "( " ++ commaList (p.columns.map columnDefinition) ++ " ) WITHOUT ROWID ") ++ ";" := by
    show "create table if not exists " ++ p.table ++ "( "
      ++ commaList (p.columns.map columnDefinition) ++ " ) WITHOUT ROWID ;" = _
    simp [← String.toList_inj]
  rw [written]
  refine definesAlone (by decide) (by decide) ⟨by decide, ?_⟩ (.inr rfl) ?_
  · have table := unbroken.table
    have list := commaList_unbroken columns
    simp only [String.toList_append, List.mem_append, not_or]
    exact ⟨⟨⟨⟨by decide, table⟩, by decide⟩, list⟩, by decide⟩
  · intro following n named s d read
    rw [readStatement_create] at read
    obtain ⟨definition, rfl⟩ := readCreate_table read
    rfl

theorem createIndex_alone (unbroken : p.Unbroken) {c : ColumnPlan} (member : c ∈ p.columns) :
    DefinesAlone (p.createIndex c) := by
  have table := unbroken.table
  have column := unbroken.columns c member
  have written : p.createIndex c = "create" ++ " " ++ "index" ++ " " ++ ("if not exists "
      ++ c.indexName p.table ++ " on " ++ p.table ++ "(" ++ c.column ++ ")") ++ "" := by
    show "create index if not exists " ++ c.indexName p.table ++ " on " ++ p.table ++ "("
      ++ c.column ++ ")" = _
    simp [← String.toList_inj]
  rw [written]
  refine definesAlone (by decide) (by decide) ⟨by decide, ?_⟩ (.inl rfl) ?_
  · have name : ';' ∉ (c.indexName p.table).toList := by
      simp only [ColumnPlan.indexName, String.toList_append, List.mem_append, not_or]
      exact ⟨⟨⟨table, by decide⟩, column⟩, by decide⟩
    simp only [String.toList_append, List.mem_append, not_or]
    exact ⟨⟨⟨⟨⟨⟨by decide, name⟩, by decide⟩, table⟩, by decide⟩, column⟩, by decide⟩
  · intro following n named s d read
    rw [readStatement_create] at read
    obtain ⟨definition, rfl⟩ := readCreate_index read
    rfl

theorem addColumn_alone (unbroken : p.Unbroken) {c : ColumnPlan} (member : c ∈ p.columns) :
    DefinesAlone (p.addColumn c) := by
  have table := unbroken.table
  have definition := definition_unbroken (unbroken.columns c member)
  have written : p.addColumn c = "alter" ++ " " ++ "table" ++ " " ++ (p.table ++ " add column "
      ++ c.definition) ++ "" := by
    show "alter table " ++ p.table ++ " add column " ++ c.definition = _
    simp [← String.toList_inj]
  rw [written]
  refine definesAlone (by decide) (by decide) ⟨by decide, ?_⟩ (.inl rfl) ?_
  · simp only [String.toList_append, List.mem_append, not_or]
    exact ⟨⟨table, by decide⟩, definition⟩
  · intro following n named s d read
    rw [readStatement_alter] at read
    obtain ⟨table, alteration, rfl⟩ := readAlter_alter read
    rfl

theorem Unbroken.definite (unbroken : p.Unbroken) : p.Definite := by
  intro text member
  rcases List.mem_cons.mp member with rfl | member
  · exact createTable_alone unbroken
  rcases List.mem_append.mp member with added | indexed
  · obtain ⟨c, listed, rfl⟩ := List.mem_map.mp added
    exact addColumn_alone unbroken listed
  · obtain ⟨c, listed, rfl⟩ := List.mem_map.mp indexed
    exact createIndex_alone unbroken (List.mem_filter.mp listed).1

end MappingPlan

end EntityStore
