import EntityStore.Text.Blank
import EntityStore.Proofs.Migration.Text
import EntityStore.Proofs.Sql.Spelling
import EntityStore.Proofs.Transaction.Change

/-! # Texts of mappers

The first words of a text decide what it does to a transaction, whatever a caller has put into the
rest of it:

* `Statement.leavesOpen` — statements that only read or change rows, and never undo a transaction.
* `LeavesOpen` — a text whose first statement is one.
* `MappingPlan.Named` — the names of a plan are identifiers.
* `MappingPlan.select_leavesOpen` and the like — the texts of mappers.
-/

namespace EntityStore

open EntityStore.Sql
open EntityStore.Engine (Database Program)

/-! ## Statements -/

/-- Whether a statement reads or changes rows and, by itself, never undoes a transaction. -/
def Sql.Statement.leavesOpen : Statement → Bool
  | .select _ | .delete _ => true
  | .insert change => change.onConflict ≠ .rollback
  | .update change => change.onConflict ≠ .rollback
  | _ => false

def LeavesOpen (text : String) : Prop :=
  ∀ parsed, parse (tokens text.toList) = .ok (some parsed) → parsed.statement.leavesOpen = true

/-- A program that leaves transactions open and changes nothing but rows. -/
def Engine.Program.KeepsRowwise (p : Program) : Prop :=
  ∀ Q : Database → Prop, Database.Rowwise Q → p.Keeps Q

/-- A statement that leaves transactions open is a program that does, if triggers do. -/
theorem prepare_leavesOpen {db : Database} (steady : db.Steady) {s : Statement}
    {program : Option Program} (leaves : s.leavesOpen = true)
    (prepared : db.prepare s = .ok program) : ∃ p, program = some p ∧ p.KeepsRowwise := by
  have mapped {found : Except Engine.Fault Program}
      (keeps : ∀ p, found = .ok p → p.KeepsRowwise) (same : found.map some = .ok program) :
      ∃ p, program = some p ∧ p.KeepsRowwise := by
    cases found with
    | error fault => cases same
    | ok p => cases same; exact ⟨p, rfl, keeps p rfl⟩
  -- Queries and changes of rows, and none that may roll back; the other statements do not leave it open.
  cases s with
  | select q =>
    simp only [Engine.Database.prepare] at prepared
    cases query : db.query q with
    | error fault => rw [query] at prepared; cases prepared
    | ok found =>
      rw [query] at prepared
      cases prepared
      exact ⟨_, rfl, fun _ _ => Engine.query_keeps found⟩
  | insert change =>
    have other : change.onConflict ≠ .rollback := by simpa [Statement.leavesOpen] using leaves
    exact mapped (fun _ done _ rowwise => Engine.prepareInsert_keeps rowwise steady other done) prepared
  | update change =>
    have other : change.onConflict ≠ .rollback := by simpa [Statement.leavesOpen] using leaves
    exact mapped (fun _ done _ rowwise => Engine.prepareUpdate_keeps rowwise steady other done) prepared
  | delete change =>
    exact mapped (fun _ done _ rowwise => Engine.prepareDelete_keeps rowwise steady done) prepared
  | _ => cases leaves

theorem LeavesOpen.prepared {text : String} (leaves : LeavesOpen text) {db : Database}
    (steady : db.Steady) {again : Bool} {p : Prepared}
    (read : prepareText db text again = .ok (some p)) :
    ∃ program, p.program = some program ∧ program.KeepsRowwise := by
  simp only [prepareText] at read
  split at read
  · cases read
  · cases read
  · next parsed found =>
    split at read
    · cases read
    · next program prepares =>
      cases read
      exact prepare_leavesOpen steady (leaves parsed found) prepares

/-! ## First words -/

def StartsWith (word text : String) : Prop := ∃ rest, text.toList = word.toList ++ ' ' :: rest

theorem StartsWith.append {word text : String} (starts : StartsWith word text) (more : String) :
    StartsWith word (text ++ more) := by
  obtain ⟨rest, same⟩ := starts
  exact ⟨rest ++ more.toList, by simp [String.toList_append, same]⟩

theorem StartsWith.tokens {word text : String} (starts : StartsWith word text)
    (isWord : isWord word = true) :
    ∃ following, tokens text.toList = .word word :: following := by
  obtain ⟨rest, same⟩ := starts
  exact ⟨_, by rw [same, tokens_word isWord rfl]⟩

/-- What is left of a text without the blanks at its end starts like the text. -/
theorem trimChars_prefix {word : List Char} (first : word ≠ [])
    (solid : word.all (fun c => !Text.isBlank c) = true) (rest : List Char) :
    ∃ kept, kept <+: rest ∧ Text.trimChars (word ++ rest) = word ++ kept := by
  obtain ⟨c, cs, rfl⟩ := List.exists_cons_of_ne_nil first
  have head : Text.isBlank c = false := by simp_all
  have dropped : (c :: cs ++ rest).dropWhile Text.isBlank = c :: cs ++ rest := by
    rw [List.cons_append, List.dropWhile_cons_of_neg (by simp [head])]
  -- Read from its end, the text is trimmed down to the last letter of the word at most.
  obtain ⟨last, most, split⟩ : ∃ last most, (c :: cs).reverse = last :: most := by
    cases reversed : (c :: cs).reverse with
    | nil => simp at reversed
    | cons last most => exact ⟨last, most, rfl⟩
  have lastSolid : Text.isBlank last = false := by
    have member : last ∈ c :: cs := List.mem_reverse.mp (split ▸ List.mem_cons_self ..)
    simpa using List.all_eq_true.mp solid last member
  refine ⟨(rest.reverse.dropWhile Text.isBlank).reverse, ?_, ?_⟩
  · rw [← List.reverse_suffix, List.reverse_reverse]
    exact List.dropWhile_suffix _
  · rw [Text.trimChars, dropped, List.reverse_append, split]
    have ends : ∀ cs : List Char, (cs ++ last :: most).dropWhile Text.isBlank
        = cs.dropWhile Text.isBlank ++ last :: most := by
      intro cs
      induction cs with
      | nil => simp [lastSolid]
      | cons d ds ih =>
        by_cases blank : Text.isBlank d = true
        · simp [blank, ih]
        · simp [blank]
    rw [ends, List.reverse_append, ← split, List.reverse_reverse]

theorem StartsWith.tokens_trim {word text : String} (starts : StartsWith word text)
    (isWord : isWord word = true)
    (solid : word.toList.all (fun c => !Text.isBlank c) = true) :
    ∃ following, Sql.tokens (Text.trim text).toList = .word word :: following := by
  obtain ⟨rest, same⟩ := starts
  have first : word.toList ≠ [] := by
    intro empty
    simp [Sql.isWord, empty] at isWord
  obtain ⟨kept, ⟨more, prefixed⟩, trimmed⟩ := trimChars_prefix first solid (' ' :: rest)
  refine ⟨Sql.tokens kept, ?_⟩
  rw [Text.trim, String.toList_ofList, same, trimmed, tokens_word isWord]
  cases kept with
  | nil => rfl
  | cons c cs =>
    obtain ⟨rfl, _⟩ := List.cons.inj prefixed
    rfl

/-! ## Kinds of texts -/

theorem leavesOpen_of_reads {text : String} {first : Token} {following : List Token}
    (starts : tokens text.toList = first :: following) (other : first ≠ .symbol ";")
    (reads : ∀ s d, readStatement.run { rest := first :: following } = .ok (s, d) →
      s.leavesOpen = true) : LeavesOpen text := by
  intro parsed found
  rw [starts] at found
  obtain ⟨p, d, same, read⟩ := parse_eq_ok other found
  cases same
  exact reads _ d read

theorem select_leavesOpen {text : String} {following : List Token}
    (starts : tokens text.toList = .word "select" :: following) : LeavesOpen text := by
  refine leavesOpen_of_reads starts (by simp) fun s d read => ?_
  rw [readStatement_select] at read
  obtain ⟨q, _, rfl⟩ := run_map_eq_ok read
  rfl

theorem delete_leavesOpen {text : String} {following : List Token}
    (starts : tokens text.toList = .word "delete" :: following) : LeavesOpen text := by
  refine leavesOpen_of_reads starts (by simp) fun s d read => ?_
  rw [readStatement_delete] at read
  obtain ⟨change, _, rfl⟩ := run_map_eq_ok read
  rfl

/-- Rows that are replaced make way for the new ones. -/
theorem replace_leavesOpen {text : String} {following : List Token}
    (starts : tokens text.toList = .word "REPLACE" :: following) : LeavesOpen text := by
  refine leavesOpen_of_reads starts (by simp) fun s d read => ?_
  rw [readStatement_replace] at read
  obtain ⟨change, inserts, rfl⟩ := run_map_eq_ok read
  rw [Statement.leavesOpen, readInsert_onConflict inserts]
  rfl

theorem update_leavesOpen {text table : String} {following : List Token}
    (starts : tokens text.toList = .word "update" :: .word table :: following)
    (plain : isReserved table = false) : LeavesOpen text := by
  refine leavesOpen_of_reads starts (by simp) fun s d read => ?_
  rw [readStatement_update] at read
  obtain ⟨change, updates, rfl⟩ := run_map_eq_ok read
  have other : foldWord table ≠ "or" := by
    intro same
    rw [isReserved, same] at plain
    exact absurd plain (by decide)
  rw [Statement.leavesOpen, readUpdate_onConflict other updates]
  rfl

/-- A query, whatever stands in it, leaves transactions open. -/
theorem StartsWith.select_leavesOpen {text : String} (starts : StartsWith "select" text) :
    LeavesOpen (Text.trim text) := by
  obtain ⟨following, tokens⟩ := starts.tokens_trim (by decide) (by decide)
  exact EntityStore.select_leavesOpen tokens

/-! ## The texts of plans -/

/-- The names of a plan are identifiers. -/
structure MappingPlan.Named (p : MappingPlan) : Prop where
  table : isIdentifier p.table = true
  columns : ∀ c ∈ p.columns, isIdentifier c.column = true

theorem isIdentifier_unbroken {name : String} (identifier : isIdentifier name = true) :
    ';' ∉ name.toList := by
  simp only [isIdentifier, Bool.and_eq_true] at identifier
  intro semicolon
  have isWord := identifier.1
  cases letters : name.toList with
  | nil => rw [letters] at semicolon; cases semicolon
  | cons c cs =>
    simp only [Sql.isWord, letters, Bool.and_eq_true, List.all_eq_true] at isWord
    rw [letters] at semicolon
    rcases List.mem_cons.mp semicolon with rfl | member
    · exact absurd isWord.1.1 (by decide)
    · exact absurd (isWord.2 _ member) (by decide)

namespace MappingPlan

variable {p : MappingPlan}

theorem Named.unbroken (named : p.Named) : p.Unbroken where
  table := isIdentifier_unbroken named.table
  columns c member := isIdentifier_unbroken (named.columns c member)

theorem Named.definite (named : p.Named) : p.Definite := named.unbroken.definite

theorem startsWith_selectFrom (p : MappingPlan) : StartsWith "select" p.selectFrom := by
  simp only [selectFrom]
  exact .append (.append (.append ⟨[], by simp⟩ _) _) _

theorem startsWith_get (p : MappingPlan) : StartsWith "select" p.get := by
  simp only [get]
  exact ((p.startsWith_selectFrom.append _).append _).append _

theorem startsWith_gets (p : MappingPlan) (n : Nat) : StartsWith "select" (p.gets n) := by
  simp only [gets]
  exact ((((p.startsWith_selectFrom.append _).append _).append _).append _).append _

theorem startsWith_selectOrdered (p : MappingPlan) (order : String) :
    StartsWith "select" (p.selectOrdered order) :=
  ((startsWith_selectFrom p).append _).append _

theorem startsWith_selectWhereOrdered (p : MappingPlan) (predicate order : String) :
    StartsWith "select" (p.selectWhereOrdered predicate order) :=
  ((((startsWith_selectFrom p).append _).append _).append _).append _

theorem startsWith_aggregate (p : MappingPlan) (expression : String)
    (predicate group : Option String) :
    StartsWith "select" (p.aggregate expression predicate group) := by
  simp only [aggregate]
  exact .append (.append (.append (.append (.append ⟨[], by simp⟩ _) _) _) _) _

theorem startsWith_insert (p : MappingPlan) : StartsWith "REPLACE" p.insert := by
  have starts : StartsWith "REPLACE" ("REPLACE into " ++ p.table) :=
    ⟨("into " ++ p.table).toList, by simp [String.toList_append]⟩
  exact ((((starts.append _).append _).append _).append _).append _

theorem insert_leavesOpen (p : MappingPlan) : LeavesOpen (Text.trim p.insert) := by
  obtain ⟨following, tokens⟩ := p.startsWith_insert.tokens_trim (by decide) (by decide)
  exact replace_leavesOpen tokens

theorem startsWith_delete (p : MappingPlan) : StartsWith "delete" p.delete := by
  simp only [delete]
  exact .append (.append (.append (.append ⟨"from ".toList, by simp⟩ _) _) _) _

theorem startsWith_deleteWhere (p : MappingPlan) (predicate : String) :
    StartsWith "delete" (p.deleteWhere predicate) := by
  simp only [deleteWhere]
  exact .append (.append (.append ⟨"from ".toList, by simp⟩ _) _) _

theorem updateWhere_leavesOpen (named : p.Named) (assignments predicate : String) :
    LeavesOpen (p.updateWhere assignments predicate) := by
  have table := named.table
  simp only [isIdentifier, Bool.and_eq_true, Bool.not_eq_true'] at table
  have words : Sql.tokens (p.updateWhere assignments predicate).toList =
      .word "update" :: .word p.table :: Sql.tokens (" set ".toList ++ (assignments.toList
        ++ (" where ".toList ++ predicate.toList))) := by
    have split : (p.updateWhere assignments predicate).toList =
        "update".toList ++ ' ' :: (p.table.toList ++ (" set ".toList ++ (assignments.toList
          ++ (" where ".toList ++ predicate.toList)))) := by
      show ("update " ++ p.table ++ " set " ++ assignments ++ " where " ++ predicate).toList = _
      simp [String.toList_append]
    rw [split, tokens_word (by decide) rfl, tokens_space, tokens_word table.1 rfl]
  exact update_leavesOpen words table.2

end MappingPlan

end EntityStore
