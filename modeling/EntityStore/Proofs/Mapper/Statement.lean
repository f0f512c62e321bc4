import Mathlib.Data.List.Range
import EntityStore.Proofs.Sql.Spelling

/-! # Queries of mappers

What the engine reads in the texts of a plan whose names are names:

* `MappingPlan.Written` — the names of a plan are names, and one of its columns is the key.
* `Output.IsColumn` — a result of a query that is a column.
* `MappingPlan.parse_get` and the like — the queries in the texts of reads.
-/

namespace EntityStore

open EntityStore.Sql

/-- The names of a plan are names, and one of its columns is the key. -/
structure MappingPlan.Written (p : MappingPlan) : Prop where
  table : isName p.table = true
  columns : ∀ c ∈ p.columns, isName c.column = true
  key : p.keyColumn ∈ p.columnNames

namespace MappingPlan.Written

variable {p : MappingPlan} (written : p.Written)
include written

theorem columns_ne : p.columns ≠ [] := by
  intro empty
  have key := written.key
  simp [columnNames, empty] at key

theorem keyColumn : isName p.keyColumn = true := by
  obtain ⟨c, member, same⟩ := List.mem_map.mp written.key
  rw [← same]
  exact written.columns c member

end MappingPlan.Written

/-! ## Names of indexes -/

theorem isWord_append {word more : String} (isWord : isWord word = true)
    (all : more.toList.all isWordChar = true) : Sql.isWord (word ++ more) = true := by
  simp only [Sql.isWord, String.toList_append] at isWord ⊢
  cases letters : word.toList with
  | nil => rw [letters] at isWord; cases isWord
  | cons c cs =>
    rw [letters] at isWord
    simp only [Bool.and_eq_true] at isWord
    simp only [List.cons_append, List.all_append, isWord.1.1, isWord.1.2, isWord.2, all,
      Bool.and_self]

theorem isWord_all {word : String} (isWord : isWord word = true) :
    word.toList.all isWordChar = true := by
  simp only [Sql.isWord] at isWord
  cases letters : word.toList with
  | nil => rfl
  | cons c cs =>
    rw [letters] at isWord
    simp only [Bool.and_eq_true] at isWord
    simp [isWordChar, isWord.1.1, isWord.2]

/-- None of the words that are no names ends as the names of indexes do. -/
theorem isName_of_idx {word : String} (isWord : isWord word = true) (start : List Char)
    (ends : word.toList = start ++ "_idx".toList) : isName word = true := by
  have folded : "_idx".toList <:+ (foldWord word).toList := by
    refine ⟨start.map Char.toLower, ?_⟩
    rw [foldWord, ends, List.map_append, String.toList_ofList (l := List.map _ _ ++ List.map _ _)]
    rfl
  have other {words : List String}
      (plain : words.all (fun w => !"_idx".toList.isSuffixOf w.toList) = true) :
      words.contains (foldWord word) = false := by
    rw [List.contains_eq_mem, decide_eq_false_iff_not]
    intro member
    have apart := List.all_eq_true.mp plain _ member
    rw [List.isSuffixOf_iff_suffix.mpr folded] at apart
    cases apart
  have reserved : isReserved word = false := other (by decide)
  have starts : startsExpr word = false := other (by decide)
  have last : word.toList.getLast?.all (fun c => !Text.isBlank c) = true := by
    rw [ends, List.getLast?_append]
    rfl
  rw [isName, isWord, reserved, starts, last]
  rfl

theorem isName_indexName {c : ColumnPlan} {table : String} (isTable : isIdentifier table = true)
    (isColumn : isIdentifier c.column = true) : isName (c.indexName table) = true := by
  have written : c.indexName table = table ++ ("_" ++ c.column ++ "_idx") := by
    rw [ColumnPlan.indexName, String.append_assoc, String.append_assoc, String.append_assoc]
  rw [written]
  refine isName_of_idx (isWord_append (isIdentifier_word isTable) ?_)
    (table.toList ++ '_' :: c.column.toList) ?_
  · have column := isWord_all (isIdentifier_word isColumn)
    simp only [String.toList_append, List.all_append, column, Bool.and_true]
    decide
  · simp [String.toList_append]

/-! ## Queries -/

def Sql.Output.IsColumn (c : ColumnPlan) (output : Output) : Prop :=
  ∃ place, output = .value (.column place none c.column false) none

section
variable {rest : List Token} {n : Nat} {named : List (String × Nat)}

theorem run_readAlias?_none (ends : endsExpr rest = true) :
    readAlias?.run ⟨rest, n, named⟩ = .ok (none, ⟨rest, n, named⟩) := by
  rw [readAlias?, run_unless_takeWord (endsExpr_word ends "as" (by decide)), run_takeToken,
    (endsExpr_operator ends).2]
  rfl

theorem run_readOutput_name {c : ColumnPlan} (isName : isName c.column = true)
    (ends : endsExpr rest = true) :
    ∃ output, readOutput.run ⟨.word c.column :: rest, n, named⟩ = .ok (output, ⟨rest, n, named⟩)
      ∧ output.IsColumn c := by
  refine ⟨.value (.column (rest.length + 1) none c.column false) none, ?_, _, rfl⟩
  rw [readOutput, run_unless_takeSymbol (by simp), run_bind_ok (run_readExpr_name (isName_free isName)
      (isName_plain isName) ends), run_bind_ok (run_readAlias?_none ends), run_pure]

theorem run_readOutputs {columns : List ColumnPlan} (names : ∀ c ∈ columns, isName c.column = true)
    (some_column : columns ≠ []) (ends : endsExpr rest = true)
    (stops : rest.head? ≠ some (.symbol ",")) :
    ∃ outputs, (readCommas readOutput).run
        ⟨commas (columns.map fun c => [.word c.column]) ++ rest, n, named⟩ =
          .ok (outputs, ⟨rest, n, named⟩)
      ∧ List.Forall₂ Output.IsColumn columns outputs :=
  run_readItems stops
    (fun c member _ item => run_readOutput_name (names c member) (item.endsExpr ends)) some_column

theorem run_readExprAfter?_none {keyword : String}
    (other : rest.head?.any (·.isWord keyword) = false) :
    (readExprAfter? keyword).run ⟨rest, n, named⟩ = .ok (none, ⟨rest, n, named⟩) := by
  rw [readExprAfter?, run_unless_takeWord other, run_pure]

theorem run_where {expr : Expr} {d : Cursor} (read : readExpr.run ⟨rest, n, named⟩ = .ok (expr, d)) :
    (readExprAfter? "where").run ⟨.word "where" :: rest, n, named⟩ = .ok (some expr, d) := by
  rw [readExprAfter?, run_after_takeWord rfl (by decide), run_bind_ok read, run_pure]

theorem run_readBy_none {α : Type} {item : Reader α} {keyword : String}
    (other : rest.head?.any (·.isWord keyword) = false) :
    (readBy keyword item).run ⟨rest, n, named⟩ = .ok ([], ⟨rest, n, named⟩) := by
  rw [readBy, run_unless_takeWord other, run_pure]

theorem run_readSortKey {name : String} (free : isReserved name = false)
    (plain : startsExpr name = false) (ends : endsExpr rest = true) :
    ∃ place, readSortKey.run ⟨.word name :: rest, n, named⟩ =
      .ok ({ place := place, expr := .column place none name false }, ⟨rest, n, named⟩) := by
  refine ⟨rest.length + 1, ?_⟩
  have key : readGroupKey.run ⟨.word name :: rest, n, named⟩ =
      .ok ({ place := rest.length + 1, expr := .column (rest.length + 1) none name false },
        ⟨rest, n, named⟩) := by
    rw [readGroupKey, run_bind_ok (run_herePlace _), run_bind_ok (run_readExpr_name free plain ends),
      run_pure]
    rfl
  rw [readSortKey, run_bind_ok key,
    run_unless_takeWord (endsExpr_word ends "desc" (by decide)), run_bind_ok (run_takeWord _ _),
    endsExpr_word ends "asc" (by decide)]
  rfl

theorem run_readSortKeys {name : String} (free : isReserved name = false)
    (plain : startsExpr name = false) (ends : endsExpr rest = true) (stops : rest.head? ≠ some (.symbol ",")) :
    ∃ place, (readCommas readSortKey).run ⟨.word name :: rest, n, named⟩ =
      .ok ([{ place := place, expr := .column place none name false }], ⟨rest, n, named⟩) := by
  obtain ⟨keys, read, single⟩ : ∃ keys, (readCommas readSortKey).run
      ⟨commas ([name].map fun name => [.word name]) ++ rest, n, named⟩ =
        .ok (keys, ⟨rest, n, named⟩) ∧ List.Forall₂ (fun name key => ∃ place, key =
          ({ place := place, expr := .column place none name false } : SortKey)) [name] keys := by
    refine run_readItems stops (fun word member following item => ?_) (by simp)
    obtain rfl := List.mem_singleton.mp member
    obtain ⟨place, read⟩ := run_readSortKey free plain (item.endsExpr ends)
    exact ⟨_, read, place, rfl⟩
  cases single with
  | cons key rest =>
    obtain ⟨place, rfl⟩ := key
    cases rest
    exact ⟨place, read⟩

theorem run_readSelect {columns : List ColumnPlan} {table : String} {tail after : List Token}
    {condition : Option Expr} {orders : List SortKey} {m : Nat}
    (names : ∀ c ∈ columns, isName c.column = true) (some_column : columns ≠ [])
    (isTable : isName table = true) (ends : endsExpr tail = true)
    (where_ : (readExprAfter? "where").run ⟨tail, n, named⟩ = .ok (condition, ⟨after, m, named⟩))
    (group : after.head?.any (·.isWord "group") = false)
    (order : (readBy "order" readSortKey).run ⟨after, m, named⟩ = .ok (orders, ⟨[], m, named⟩)) :
    ∃ outputs, readSelect.run ⟨commas (columns.map fun c => [.word c.column])
          ++ .word "from" :: .word table :: tail, n, named⟩ =
        .ok ({ outputs := outputs, source := some ⟨tail.length + 1, none, table, table⟩
               condition := condition, orders := orders }, ⟨[], m, named⟩)
      ∧ List.Forall₂ Output.IsColumn columns outputs := by
  obtain ⟨outputs, read, columns⟩ : ∃ outputs, (readCommas readOutput).run
      ⟨commas (columns.map fun c => [.word c.column]) ++ .word "from" :: .word table :: tail, n,
        named⟩ = .ok (outputs, ⟨.word "from" :: .word table :: tail, n, named⟩)
      ∧ List.Forall₂ Output.IsColumn columns outputs :=
    run_readOutputs names some_column rfl (by simp)
  refine ⟨outputs, ?_, columns⟩
  have source : (some <$> readObjectName).run ⟨.word table :: tail, n, named⟩ =
      .ok (some ⟨tail.length + 1, none, table, table⟩, ⟨tail, n, named⟩) :=
    run_map_ok (run_readObjectName (isName_free isTable) (endsExpr_symbol ends (.inr rfl)))
  -- The clauses one after the other, each in what the one before has left.
  rw [readSelect, run_bind_ok read, run_after_takeWord rfl (by decide), run_bind_ok source]
  simp only [Option.isSome_some, ↓reduceIte]
  rw [run_bind_ok (run_readAlias?_none ends), run_bind_ok where_,
    run_bind_ok (run_readBy_none group), run_bind_ok order]
  rfl

def readClause : Reader (Option Expr × List SortKey) := do
  let condition ← readExprAfter? "where"
  return (condition, ← readBy "group" readGroupKey)

/-- A query for one value of each group of rows of a table, with the reading of what follows. -/
theorem run_readAggregate {table : String} {first : Token} (more : List Token)
    {tail unread : List Token} {expr : Expr}
    {clause : Option Expr × List SortKey} {m : Nat} {named' : List (String × Nat)}
    (isTable : isName table = true) (value : first ≠ .symbol "*")
    (read : readExpr.run ⟨first :: more ++ .word "from" :: .word table :: tail, n, named⟩ =
      .ok (expr, ⟨.word "from" :: .word table :: tail, n, named⟩)) (ends : endsExpr tail = true)
    (reads : readClause.run ⟨tail, n, named⟩ = .ok (clause, ⟨unread, m, named'⟩))
    (ended : unread = [] ∨ unread = [.symbol ";"]) :
    readSelect.run ⟨first :: more ++ .word "from" :: .word table :: tail, n, named⟩ =
      .ok ({ outputs := [.value expr none], source := some ⟨tail.length + 1, none, table, table⟩
             condition := clause.1, groups := clause.2 }, ⟨unread, m, named'⟩) := by
  have output : readOutput.run ⟨first :: more ++ .word "from" :: .word table :: tail, n, named⟩ =
      .ok (.value expr none, ⟨.word "from" :: .word table :: tail, n, named⟩) := by
    rw [readOutput, run_unless_takeSymbol (by simpa using value), run_bind_ok read,
      run_bind_ok (run_readAlias?_none rfl), run_pure]
  have outputs : (readCommas readOutput).run
      ⟨first :: more ++ .word "from" :: .word table :: tail, n, named⟩ =
        .ok ([.value expr none], ⟨.word "from" :: .word table :: tail, n, named⟩) := by
    rw [readCommas, run_bind_ok (run_herePlace _), readCommasUpTo, run_bind_ok output,
      run_unless_takeSymbol (by simp), run_pure]
  have source : (some <$> readObjectName).run ⟨.word table :: tail, n, named⟩ =
      .ok (some ⟨tail.length + 1, none, table, table⟩, ⟨tail, n, named⟩) :=
    run_map_ok (run_readObjectName (isName_free isTable) (endsExpr_symbol ends (.inr rfl)))
  obtain ⟨condition, after, where_, rest⟩ := run_bind_eq_ok reads
  obtain ⟨groups, last, group, done⟩ := run_bind_eq_ok rest
  cases done
  -- At the end of the text no further clause can start.
  have other (keyword : String) (apart : keyword = "order" ∨ keyword = "limit") :
      unread.head?.any (·.isWord keyword) = false := by
    rcases ended with rfl | rfl <;> rfl
  rw [readSelect, run_bind_ok outputs, run_after_takeWord rfl (by decide), run_bind_ok source]
  simp only [Option.isSome_some, ↓reduceIte]
  rw [run_bind_ok (run_readAlias?_none ends), run_bind_ok where_, run_bind_ok group,
    run_bind_ok (run_readBy_none (other "order" (.inl rfl)))]
  have limit : readLimit.run ⟨unread, m, named'⟩ = .ok ((none, none), ⟨unread, m, named'⟩) := by
    rw [readLimit, run_bind_ok (run_readExprAfter?_none (other "limit" (.inr rfl)))]
    rfl
  rw [run_bind_ok limit, run_pure]

end

/-! ## Texts of queries -/

/-- A statement that is read to the end of the text, or up to the semicolon there. -/
theorem parse_of_named {first : Token} {rest unread : List Token} {s : Statement} {n : Nat}
    {named : List (String × Nat)} (start : first ≠ .symbol ";")
    (ends : unread = [] ∨ unread = [.symbol ";"])
    (read : readStatement.run { rest := first :: rest } = .ok (s, ⟨unread, n, named⟩)) :
    parse (first :: rest) = .ok (some ⟨s, n, []⟩) := by
  have kept : (first :: rest).dropWhile (· = .symbol ";") = first :: rest := by simp [start]
  simp only [parse, kept, read]
  rcases ends with rfl | rfl <;> rfl

theorem parse_of_read {first : Token} {rest unread : List Token} {s : Statement} {n : Nat}
    (start : first ≠ .symbol ";") (ends : unread = [] ∨ unread = [.symbol ";"])
    (read : readStatement.run { rest := first :: rest } = .ok (s, ⟨unread, n, []⟩)) :
    parse (first :: rest) = .ok (some ⟨s, n, []⟩) := parse_of_named start ends read

theorem parse_of_refused {first : Token} {rest : List Token} {place : Nat} (start : first ≠ .symbol ";")
    (refused : readStatement.run { rest := first :: rest } = .error place) :
    parse (first :: rest) = .error place := by
  have kept : (first :: rest).dropWhile (· = .symbol ";") = first :: rest := by simp [start]
  simp only [parse, kept, refused]
  rfl

namespace MappingPlan

variable {p : MappingPlan} (written : p.Written)
include written

def columnTokens (p : MappingPlan) : List Token := commas (p.columns.map fun c => [.word c.column])

theorem spells_selectFields : Spells p.selectFields.toList p.columnTokens :=
  spells_commaList fun c member => spells_word (isName_word (written.columns c member))

theorem parse_selectFrom {tail : String} {more : List Char} {following after : List Token}
    {condition : Option Expr} {orders : List SortKey} {n : Nat} (blank : tail.toList = ' ' :: more)
    (tokens_tail : Sql.tokens more = following) (ends : endsExpr following = true)
    (where_ : (readExprAfter? "where").run { rest := following } =
      .ok (condition, ⟨after, n, []⟩))
    (group : after.head?.any (·.isWord "group") = false)
    (order : (readBy "order" readSortKey).run ⟨after, n, []⟩ = .ok (orders, ⟨[], n, []⟩)) :
    ∃ outputs place, parse (Sql.tokens (p.selectFrom ++ tail).toList) =
        .ok (some ⟨.select { outputs := outputs, source := some ⟨place, none, p.table, p.table⟩
                             condition := condition, orders := orders }, n, []⟩)
      ∧ List.Forall₂ Output.IsColumn p.columns outputs := by
  have split : (p.selectFrom ++ tail).toList = phrase ["select"] ++ (p.selectFields.toList ++ ' ' ::
      (phrase ["from"] ++ (p.table.toList ++ ' ' :: more))) := by
    show ("select " ++ p.selectFields ++ " from " ++ p.table ++ tail).toList = _
    simp [String.toList_append, phrase, blank]
  obtain ⟨outputs, read, columns⟩ := run_readSelect written.columns written.columns_ne written.table
    ends where_ group order
  refine ⟨outputs, following.length + 1, ?_, columns⟩
  rw [split, tokens_phrase (by decide), spells_selectFields written _ rfl, tokens_space,
    tokens_phrase (by decide), tokens_word (isName_word written.table) rfl, tokens_space,
    tokens_tail]
  refine parse_of_read (by simp) (.inl rfl) ?_
  exact readStatement_select.trans (run_map_ok read)

theorem parse_get :
    ∃ outputs place key, parse (Sql.tokens p.get.toList) =
        .ok (some ⟨.select { outputs := outputs, source := some ⟨place, none, p.table, p.table⟩
                             condition := some (.binary .equal
                               (.column key none p.keyColumn false) (.parameter 1)) }, 1, []⟩)
      ∧ List.Forall₂ Output.IsColumn p.columns outputs := by
  have split : (" where " ++ p.keyColumn ++ " = ?").toList =
      ' ' :: (phrase ["where"] ++ (p.keyColumn.toList ++ ' ' :: '=' :: ' ' :: "?".toList)) := by
    simp [String.toList_append, phrase]
  have tail : Sql.tokens (phrase ["where"] ++ (p.keyColumn.toList ++ ' ' :: '=' :: ' ' ::
      "?".toList)) = [.word "where", .word p.keyColumn, .symbol "=", .parameter "?"] := by
    rw [tokens_phrase (by decide), tokens_word (isName_word written.keyColumn) rfl, tokens_space,
      tokens_symbol (by decide) (by simp), tokens_space, spells_mark.tokens]
    rfl
  obtain ⟨key, where_⟩ : ∃ key, (readExprAfter? "where").run
      { rest := [.word "where", .word p.keyColumn, .symbol "=", .parameter "?"] } =
        .ok (some (.binary .equal (.column key none p.keyColumn false) (.parameter 1)),
          ⟨[], 1, []⟩) := by
    obtain ⟨key, read⟩ := run_readExpr_equals written.keyColumn (by decide : endsExpr [] = true)
    exact ⟨key, run_where read⟩
  obtain ⟨outputs, place, read, columns⟩ :=
    parse_selectFrom written split tail rfl where_ rfl (run_readBy_none rfl)
  refine ⟨outputs, place, key, ?_, columns⟩
  rw [← read, get, String.append_assoc, String.append_assoc, String.append_assoc]

theorem parse_gets {count : Nat} (some_key : 0 < count) :
    ∃ outputs place key, parse (Sql.tokens (p.gets count).toList) =
        .ok (some ⟨.select { outputs := outputs, source := some ⟨place, none, p.table, p.table⟩
                             condition := some (.inList (.column key none p.keyColumn false)
                               ((List.range count).map fun i => .parameter (i + 1))) }, count, []⟩)
      ∧ List.Forall₂ Output.IsColumn p.columns outputs := by
  have split : (" where " ++ p.keyColumn ++ " in (" ++ marks count ++ ")").toList =
      ' ' :: (phrase ["where"] ++ (p.keyColumn.toList ++ ' ' :: (phrase ["in"] ++ '(' ::
        ((marks count).toList ++ [')'])))) := by
    simp [String.toList_append, phrase]
  have tail : Sql.tokens (phrase ["where"] ++ (p.keyColumn.toList ++ ' ' :: (phrase ["in"] ++ '(' ::
      ((marks count).toList ++ [')'])))) = .word "where" :: .word p.keyColumn :: .word "in" ::
        .symbol "(" :: (markTokens count ++ [.symbol ")"]) := by
    rw [tokens_phrase (by decide), tokens_word (isName_word written.keyColumn) rfl, tokens_space,
      tokens_phrase (by decide), tokens_symbol (by decide) (by simp), spells_marks count _ rfl,
      tokens_symbol (by decide) (by simp), tokens_nil]
    rfl
  obtain ⟨key, where_⟩ : ∃ key, (readExprAfter? "where").run
      { rest := .word "where" :: .word p.keyColumn :: .word "in" :: .symbol "(" ::
          (markTokens count ++ [.symbol ")"]) } =
        .ok (some (.inList (.column key none p.keyColumn false)
          ((List.range count).map fun i => .parameter (0 + i + 1))), ⟨[], 0 + count, []⟩) := by
    obtain ⟨key, read⟩ := run_readExpr_among written.keyColumn
      (by decide : endsExpr [] = true) some_key
    exact ⟨key, run_where read⟩
  simp only [Nat.zero_add] at where_
  obtain ⟨outputs, place, read, columns⟩ :=
    parse_selectFrom written split tail rfl where_ rfl (run_readBy_none rfl)
  refine ⟨outputs, place, key, ?_, columns⟩
  rw [← read, gets]
  simp only [String.append_assoc]

theorem parse_select :
    ∃ outputs place key, parse (Sql.tokens p.select.toList) =
        .ok (some ⟨.select { outputs := outputs, source := some ⟨place, none, p.table, p.table⟩
                             orders := [{ place := key
                                          expr := .column key none p.keyColumn false }] }, 0, []⟩)
      ∧ List.Forall₂ Output.IsColumn p.columns outputs := by
  have split : (" order by " ++ p.keyColumn).toList =
      ' ' :: (phrase ["order", "by"] ++ p.keyColumn.toList) := by
    simp [String.toList_append, phrase]
  have tail : Sql.tokens (phrase ["order", "by"] ++ p.keyColumn.toList) =
      [.word "order", .word "by", .word p.keyColumn] := by
    rw [tokens_phrase (by decide), (spells_word (isName_word written.keyColumn)).tokens]
    rfl
  obtain ⟨key, order⟩ : ∃ key, (readBy "order" readSortKey).run
      { rest := [.word "order", .word "by", .word p.keyColumn] } =
        .ok ([{ place := key, expr := .column key none p.keyColumn false }], ⟨[], 0, []⟩) := by
    obtain ⟨key, read⟩ := run_readSortKeys (isName_free written.keyColumn)
      (isName_plain written.keyColumn) (by decide : endsExpr [] = true) (by simp)
    refine ⟨key, ?_⟩
    rw [readBy, run_after_takeWord rfl (by decide), run_bind_ok (run_expectWord "by" "by" (by decide))]
    exact read
  obtain ⟨outputs, place, read, columns⟩ := parse_selectFrom written split tail rfl
    (run_readExprAfter?_none rfl) rfl order
  refine ⟨outputs, place, key, ?_, columns⟩
  rw [← read, select, selectOrdered, String.append_assoc]

omit written in
theorem tokens_one {rest : List Char} :
    Sql.tokens ('1' :: ')' :: rest) = .integer "1" :: .symbol ")" :: Sql.tokens rest := by
  have token : readToken ('1' :: ')' :: rest) = (.integer "1", ')' :: rest) := rfl
  rw [Sql.tokens, lexemes_eq, nextLexeme?_cons (by decide) (by decide) (by decide) (by decide)
    (by decide), token, List.map_cons, ← Sql.tokens, tokens_symbol (by decide) (by simp)]

theorem parse_count :
    ∃ place call, parse (Sql.tokens (p.count none none).toList) =
        .ok (some ⟨.select { outputs := [.value (.call call "count" [.literal (.integer 1)]) none]
                             source := some ⟨place, none, p.table, p.table⟩ }, 0, []⟩) := by
  have split : (p.count none none).toList = phrase ["select", "count"] ++ '(' :: '1' :: ')' :: ' ' ::
      (phrase ["from"] ++ p.table.toList) := by
    show ("select " ++ "count (1)" ++ " from " ++ p.table ++ "" ++ "").toList = _
    simp [String.toList_append, phrase]
  have read : readExpr.run ⟨.word "count" :: .symbol "(" :: .integer "1" :: .symbol ")" ::
      [.word "from", .word p.table], 0, []⟩ = .ok (.call 6 "count" [.literal (.integer 1)],
        ⟨[.word "from", .word p.table], 0, []⟩) := run_readExpr_count rfl
  refine ⟨1, 6, ?_⟩
  rw [split, tokens_phrase (by decide), tokens_symbol (by decide) (by simp), tokens_one,
    tokens_space, tokens_phrase (by decide), (spells_word (isName_word written.table)).tokens]
  have clause : readClause.run { rest := [] } = .ok ((none, []), { rest := [] }) := rfl
  have selects := run_readAggregate [.symbol "(", .integer "1", .symbol ")"] written.table (by simp)
    read rfl clause (.inl rfl)
  exact parse_of_read (by simp) (.inl rfl) (readStatement_select.trans (run_map_ok selects))

theorem parse_sum {column : String} (isColumn : isName column = true) {tail : List Char}
    {following unread : List Token} {clause : Option Expr × List SortKey} {n : Nat}
    {named : List (String × Nat)} (tokens_tail : Sql.tokens tail = following)
    (ends : endsExpr following = true)
    (reads : readClause.run { rest := following } = .ok (clause, ⟨unread, n, named⟩))
    (ended : unread = [] ∨ unread = [.symbol ";"]) :
    ∃ place call name, parse (Sql.tokens (phrase ["select", "sum"] ++ '(' :: (column.toList ++ ')' :: ' ' ::
        (phrase ["from"] ++ (p.table.toList ++ ' ' :: tail))))) =
      .ok (some ⟨.select { outputs := [.value (.call call "sum" [.column name none column false]) none]
                           source := some ⟨place, none, p.table, p.table⟩
                           condition := clause.1, groups := clause.2 }, n, []⟩) := by
  have read : readExpr.run ⟨.word "sum" :: .symbol "(" :: .word column :: .symbol ")" ::
      .word "from" :: .word p.table :: following, 0, []⟩ = .ok (_, _) := run_readExpr_sum isColumn rfl
  have selects := run_readAggregate [.symbol "(", .word column, .symbol ")"] written.table (by simp)
    read ends reads ended
  rw [tokens_phrase (by decide), tokens_symbol (by decide) (by simp), tokens_word (isName_word isColumn) rfl,
    tokens_symbol (by decide) (by simp), tokens_space, tokens_phrase (by decide),
    tokens_word (isName_word written.table) rfl, tokens_space, tokens_tail]
  exact ⟨_, _, _, parse_of_named (by simp) ended (readStatement_select.trans (run_map_ok selects))⟩

end MappingPlan

end EntityStore
