import EntityStore.Proofs.Mapper.Statement
import EntityStore.Proofs.Mapper.Text

/-! # Changes and definitions of mappers

What the engine reads in the other texts of a plan whose names are names:

* `MappingPlan.parse_insert`, `MappingPlan.parse_delete` — one row in its place, and one row less.
* `MappingPlan.parse_createTable`, `MappingPlan.parse_addColumn`, `MappingPlan.parse_createIndex` —
  the table, a column that it gets later, and its indexes.
* `MappingPlan.trim_get` and the like — texts without blanks at their ends.
-/

namespace EntityStore

open EntityStore.Sql

section
variable {rest : List Token} {n : Nat} {named : List (String × Nat)}

theorem run_readParenthesized {α : Type} {item : Reader α} {ts : List Token} {m : Nat} {as : List α}
    (read : (readCommas item).run ⟨ts ++ .symbol ")" :: rest, n, named⟩ =
      .ok (as, ⟨.symbol ")" :: rest, m, named⟩)) :
    (readParenthesized item).run ⟨.symbol "(" :: (ts ++ .symbol ")" :: rest), n, named⟩ =
      .ok (as, ⟨rest, m, named⟩) := by
  rw [readParenthesized, run_bind_ok (run_expectSymbol "("), run_bind_ok read,
    run_bind_ok (run_expectSymbol ")"), run_pure]

theorem run_readNames {columns : List ColumnPlan} (names : ∀ c ∈ columns, isName c.column = true)
    (some_column : columns ≠ []) :
    (readCommas readName).run
        ⟨commas (columns.map fun c => [.word c.column]) ++ .symbol ")" :: rest, n, named⟩ =
      .ok (columns.map (·.column), ⟨.symbol ")" :: rest, n, named⟩) :=
  run_readItems_map (by simp) (fun c member _ _ => run_readName (isName_free (names c member))) some_column

/-! ## Definitions of columns -/

def ColumnPlan.tokens (c : ColumnPlan) : List Token :=
  .word c.column :: .word c.affinity.keyword ::
    if c.primaryKey then [.word "PRIMARY", .word "KEY"] else []

def ColumnPlan.definedAs (c : ColumnPlan) : ColumnDefinition :=
  { name := c.column, type := c.affinity.keyword, primaryKey := c.primaryKey }

theorem isWord_keyword (a : Affinity) : isWord a.keyword = true := by
  cases a <;> decide

theorem spells_definition {c : ColumnPlan} (isColumn : isIdentifier c.column = true) :
    Spells (MappingPlan.columnDefinition c).toList c.tokens := by
  have plain : Spells c.definition.toList [.word c.column, .word c.affinity.keyword] := by
    have split : c.definition.toList = c.column.toList ++ ' ' :: c.affinity.keyword.toList := by
      simp [ColumnPlan.definition, String.toList_append]
    rw [split]
    exact (spells_word (isIdentifier_word isColumn)).append
      (spells_word (isWord_keyword c.affinity)).space rfl
  rw [MappingPlan.columnDefinition, ColumnPlan.tokens]
  cases c.primaryKey with
  | false => exact plain
  | true =>
    have split : (c.definition ++ " PRIMARY KEY").toList =
        c.definition.toList ++ ' ' :: ("PRIMARY".toList ++ ' ' :: "KEY".toList) := by
      simp [String.toList_append]
    have isPrimary : isWord "PRIMARY" = true := by decide
    have isKey : isWord "KEY" = true := by decide
    simp only [↓reduceIte]
    rw [split]
    exact plain.append ((spells_word isPrimary).append (spells_word isKey).space rfl).space rfl

/-- The word of a type ends before what may follow an expression, and before a rule. -/
theorem run_readType {keyword : String} (plain : Token.plainName? (.word keyword) = some keyword)
    (stops : rest.head?.bind Token.plainName? = none)
    (single : rest.head? ≠ some (.symbol "(")) :
    readType.run ⟨.word keyword :: rest, n, named⟩ = .ok (keyword, ⟨rest, n, named⟩) := by
  have first : (takeToken Token.plainName?).run ⟨.word keyword :: rest, n, named⟩ =
      .ok (some keyword, ⟨rest, n, named⟩) := by
    rw [run_takeToken, List.head?_cons, Option.bind_some, plain]
    rfl
  have second : (takeToken Token.plainName?).run ⟨rest, n, named⟩ =
      .ok (none, ⟨rest, n, named⟩) := by
    rw [run_takeToken]
    dsimp only
    rw [stops]
    rfl
  have words : (readMany (takeToken Token.plainName?)).run ⟨.word keyword :: rest, n, named⟩ =
      .ok ([keyword], ⟨rest, n, named⟩) := by
    rw [readMany, run_bind_ok (run_herePlace _), readManyUpTo, run_bind_ok first]
    dsimp only [List.length_cons]
    rw [readManyUpTo, run_bind_ok (run_bind_ok second _)]
    rfl
  rw [readType, run_bind_ok words]
  -- A bracket would start the sizes of the type.
  have sizes : skipSizes.run ⟨rest, n, named⟩ = .ok ((), ⟨rest, n, named⟩) := by
    rw [skipSizes, run_unless_takeSymbol single, run_pure]
  simp only [List.isEmpty_cons, Bool.not_false, ↓reduceIte]
  rw [run_bind_ok sizes, run_pure]
  rfl

theorem run_readColumnRule?_none {symbol : String} :
    readColumnRule?.run ⟨.symbol symbol :: rest, n, named⟩ =
      .ok (none, ⟨.symbol symbol :: rest, n, named⟩) := rfl

theorem run_readColumnRule?_key {symbol : String} :
    readColumnRule?.run ⟨.word "PRIMARY" :: .word "KEY" :: .symbol symbol :: rest, n, named⟩ =
      .ok (some fun c => { c with primaryKey := true }, ⟨.symbol symbol :: rest, n, named⟩) := rfl

theorem run_readTablePart {c : ColumnPlan} (isColumn : isIdentifier c.column = true) {symbol : String}
    (single : symbol ≠ "(") :
    readTablePart.run ⟨c.tokens ++ .symbol symbol :: rest, n, named⟩ =
      .ok (.inl c.definedAs, ⟨.symbol symbol :: rest, n, named⟩) := by
  -- A column is no rule of the table: its name is none of the words that rules start with.
  have rule (word : String) (special : isReserved word = true) (folded : foldWord word = word) :
      (c.tokens ++ .symbol symbol :: rest).head?.any (·.isWord word) = false := by
    have other := free_ne (isIdentifier_free isColumn) special folded
    simp [ColumnPlan.tokens, isWord_word, other]
  have plain : Token.plainName? (.word c.affinity.keyword) = some c.affinity.keyword := by
    cases c.affinity <;> decide
  have column : readColumn.run ⟨c.tokens ++ .symbol symbol :: rest, n, named⟩ =
      .ok (c.definedAs, ⟨.symbol symbol :: rest, n, named⟩) := by
    rw [readColumn, ColumnPlan.tokens, ColumnPlan.definedAs, List.cons_append, List.cons_append,
      run_bind_ok (run_readName (isIdentifier_free isColumn))]
    cases c.primaryKey with
    | false =>
      have rules : (readMany readColumnRule?).run ⟨.symbol symbol :: rest, n, named⟩ =
          .ok ([], ⟨.symbol symbol :: rest, n, named⟩) := by
        rw [readMany, run_bind_ok (run_herePlace _), readManyUpTo,
          run_bind_ok run_readColumnRule?_none, run_pure]
      simp only [Bool.false_eq_true, ↓reduceIte, List.nil_append]
      rw [run_bind_ok (run_readType plain rfl (by simpa using single)), run_bind_ok rules, run_pure]
      rfl
    | true =>
      have rules : (readMany readColumnRule?).run
          ⟨.word "PRIMARY" :: .word "KEY" :: .symbol symbol :: rest, n, named⟩ =
            .ok ([fun c => { c with primaryKey := true }], ⟨.symbol symbol :: rest, n, named⟩) := by
        rw [readMany, run_bind_ok (run_herePlace _), readManyUpTo,
          run_bind_ok run_readColumnRule?_key]
        dsimp only [List.length_cons]
        rw [readManyUpTo, run_bind_ok (run_bind_ok run_readColumnRule?_none _)]
        rfl
      simp only [↓reduceIte, List.cons_append, List.nil_append]
      rw [run_bind_ok (run_readType plain rfl (by simp)), run_bind_ok rules, run_pure]
      rfl
  rw [readTablePart, run_bind_ok (run_takeWord _ _), rule "constraint" (by decide) (by decide)]
  simp only [Bool.false_eq_true, ↓reduceIte, Cursor.after]
  rw [run_unless_takeWord (rule "primary" (by decide) (by decide)),
    run_unless_takeWord (rule "unique" (by decide) (by decide)), run_bind_ok column, run_pure]

theorem run_readTableParts {columns : List ColumnPlan}
    (identifiers : ∀ c ∈ columns, isIdentifier c.column = true) (some_column : columns ≠ []) :
    (readCommas readTablePart).run
        ⟨commas (columns.map (·.tokens)) ++ .symbol ")" :: rest, n, named⟩ =
      .ok (columns.map fun c => .inl c.definedAs, ⟨.symbol ")" :: rest, n, named⟩) := by
  refine run_readItems_map (by simp) (fun c member following ends => ?_) some_column
  -- A comma or the closing bracket follows, neither of which belongs to the type of a column.
  obtain ⟨symbol, more, rfl, other⟩ :
      ∃ symbol more, following = .symbol symbol :: more ∧ symbol ≠ "(" := by
    rcases ends with rfl | comma
    · exact ⟨")", rest, rfl, by decide⟩
    · exact ⟨",", following.tail, List.eq_cons_of_mem_head? comma, by decide⟩
  exact run_readTablePart (identifiers c member) other

theorem run_readIfAbsent :
    readIfAbsent.run ⟨.word "if" :: .word "not" :: .word "exists" :: rest, n, named⟩ =
      .ok (true, ⟨rest, n, named⟩) := rfl

end

namespace MappingPlan

variable {p : MappingPlan} (written : p.Written)
include written

/-! ## Changes -/

theorem parse_insert :
    ∃ place, parse (Sql.tokens p.insert.toList) =
      .ok (some ⟨.insert { onConflict := .replace, table := ⟨place, none, p.table, p.table⟩
                           columns := some p.columnNames
                           rows := [(List.range p.columns.length).map fun i => .parameter (i + 1)] },
        p.columns.length, []⟩) := by
  have split : p.insert.toList = phrase ["REPLACE", "into"] ++ (p.table.toList ++ '(' ::
      (p.selectFields.toList ++ ')' :: ("values".toList ++ '(' ::
        ((marks p.columns.length).toList ++ [')'])))) := by
    show ("REPLACE into " ++ p.table ++ "(" ++ p.selectFields ++ ")values(" ++ marks p.columns.length
      ++ ")").toList = _
    simp [String.toList_append, phrase]
  have isValues : isWord "values" = true := by decide
  let tail : List Token := .word "values" :: .symbol "(" ::
    (markTokens p.columns.length ++ [.symbol ")"])
  -- First the tokens of the text, then what each reader makes of its part of them.
  have tokens : Sql.tokens p.insert.toList = .word "REPLACE" :: .word "into" :: .word p.table ::
      .symbol "(" :: (p.columnTokens ++ .symbol ")" :: tail) := by
    rw [split, tokens_phrase (by decide), tokens_word (isName_word written.table) rfl,
      tokens_symbol (by decide) (by simp), spells_selectFields written _ rfl,
      tokens_symbol (by decide) (by simp), tokens_word isValues rfl,
      tokens_symbol (by decide) (by simp), spells_marks _ _ rfl, tokens_symbol (by decide) (by simp),
      tokens_nil]
    rfl
  have names : (some <$> readParenthesized readName).run
      ⟨.symbol "(" :: (p.columnTokens ++ .symbol ")" :: tail), 0, []⟩ =
        .ok (some p.columnNames, ⟨tail, 0, []⟩) :=
    run_map_ok (run_readParenthesized (run_readNames written.columns written.columns_ne))
  have close : endsExpr [.symbol ")"] = true := rfl
  have some_mark : 0 < p.columns.length := List.length_pos_iff.mpr written.columns_ne
  have marks : (readParenthesized readExpr).run
      ⟨.symbol "(" :: (markTokens p.columns.length ++ [.symbol ")"]), 0, []⟩ =
        .ok ((List.range p.columns.length).map fun i => .parameter (0 + i + 1),
          ⟨[], 0 + p.columns.length, []⟩) :=
    run_readParenthesized (run_readMarks close (by simp)
      (fun m following ends => run_readExpr_mark ends) some_mark)
  have rows : (readCommas (readParenthesized readExpr)).run
      ⟨.symbol "(" :: (markTokens p.columns.length ++ [.symbol ")"]), 0, []⟩ =
        .ok ([(List.range p.columns.length).map fun i => .parameter (i + 1)],
          ⟨[], p.columns.length, []⟩) := by
    simp only [Nat.zero_add] at marks
    rw [readCommas, run_bind_ok (run_herePlace _), readCommasUpTo, run_bind_ok marks,
      run_unless_takeSymbol (by simp), run_pure]
  refine ⟨(p.columnTokens ++ .symbol ")" :: tail).length + 2, ?_⟩
  rw [tokens]
  refine parse_of_read (by simp) (.inl rfl) (readStatement_replace.trans (run_map_ok ?_))
  rw [readInsert, run_bind_ok (run_expectWord "into" "into" (by decide)),
    run_bind_ok (run_readObjectName (isName_free written.table) (by simp)), run_bind_ok (run_peek? _)]
  simp only [List.head?_cons, ↓reduceIte]
  rw [run_bind_ok names, run_bind_ok (run_expectWord "values" "values" (by decide)),
    run_bind_ok rows, run_pure]
  rfl

/-- The row of a key goes. -/
theorem parse_delete :
    ∃ place key, parse (Sql.tokens p.delete.toList) =
      .ok (some ⟨.delete { table := ⟨place, none, p.table, p.table⟩
                           condition := some (.binary .equal
                             (.column key none p.keyColumn false) (.parameter 1)) }, 1, []⟩) := by
  have split : p.delete.toList = phrase ["delete", "from"] ++ (p.table.toList ++ ' ' ::
      (phrase ["where"] ++ (p.keyColumn.toList ++ ' ' :: '=' :: ' ' :: "?".toList))) := by
    show ("delete from " ++ p.table ++ " where " ++ p.keyColumn ++ " = ?").toList = _
    simp [String.toList_append, phrase]
  have tokens : Sql.tokens p.delete.toList = [.word "delete", .word "from", .word p.table,
      .word "where", .word p.keyColumn, .symbol "=", .parameter "?"] := by
    rw [split, tokens_phrase (by decide), tokens_word (isName_word written.table) rfl, tokens_space,
      tokens_phrase (by decide), tokens_word (isName_word written.keyColumn) rfl, tokens_space,
      tokens_symbol (by decide) (by simp), tokens_space, spells_mark.tokens]
    rfl
  obtain ⟨key, read⟩ : ∃ key, readExpr.run
      { rest := [.word p.keyColumn, .symbol "=", .parameter "?"] } =
        .ok (.binary .equal (.column key none p.keyColumn false) (.parameter 1), ⟨[], 1, []⟩) :=
    run_readExpr_equals written.keyColumn (by decide : endsExpr [] = true)
  refine ⟨5, key, ?_⟩
  rw [tokens]
  refine parse_of_read (by simp) (.inl rfl) (readStatement_delete.trans (run_map_ok ?_))
  rw [readDelete, run_bind_ok (run_expectWord "from" "from" (by decide)),
    run_bind_ok (run_readObjectName (isName_free written.table) (by simp)), run_bind_ok (run_where read),
    run_pure]
  rfl

/-! ## Definitions -/

theorem Written.named : p.Named :=
  ⟨isName_identifier written.table, fun c member => isName_identifier (written.columns c member)⟩

omit written

variable (named : p.Named)
include named

/-- The tokens after the name of the table, with the bracket that closes the columns. -/
def createTail (p : MappingPlan) : List Token :=
  commas (p.columns.map (·.tokens)) ++
    [.symbol ")", .word "WITHOUT", .word "ROWID", .symbol ";"]

theorem tokens_createTable : Sql.tokens p.createTable.toList = .word "create" :: .word "table" ::
    .word "if" :: .word "not" :: .word "exists" :: .word p.table :: .symbol "(" :: p.createTail := by
  have split : p.createTable.toList = phrase ["create", "table", "if", "not", "exists"] ++
      (p.table.toList ++ '(' :: ' ' :: ((commaList (p.columns.map columnDefinition)).toList ++
        ' ' :: ')' :: ' ' :: (phrase ["WITHOUT", "ROWID"] ++ [';']))) := by
    show ("create table if not exists " ++ p.table ++ "( "
      ++ commaList (p.columns.map columnDefinition) ++ " ) WITHOUT ROWID ;").toList = _
    simp [String.toList_append, phrase]
  have spelled : Spells (commaList (p.columns.map columnDefinition)).toList
      (commas (p.columns.map (·.tokens))) :=
    spells_commaList fun c member => spells_definition (named.columns c member)
  rw [split, tokens_phrase (by decide), tokens_word (isIdentifier_word named.table) rfl,
    tokens_symbol (by decide) (by simp), tokens_space, spelled _ rfl, tokens_space,
    tokens_symbol (by decide) (by simp), tokens_space, tokens_phrase (by decide),
    tokens_symbol (by decide) (by simp), tokens_nil]
  rfl

/-- The definition of the table, up to the end of its text. -/
theorem run_readTable (some_column : p.columns ≠ []) :
    readTable.run ⟨.word "if" :: .word "not" :: .word "exists" :: .word p.table :: .symbol "(" ::
        p.createTail, 0, []⟩ =
      .ok ({ ifAbsent := true, name := ⟨p.createTail.length + 2, none, p.table, p.table⟩
             columns := p.columns.map (·.definedAs), withoutRowId := true },
        ⟨[.symbol ";"], 0, []⟩) := by
  have parts : (readParenthesized readTablePart).run ⟨.symbol "(" :: p.createTail, 0, []⟩ =
      .ok (p.columns.map fun c => .inl c.definedAs, ⟨[.word "WITHOUT", .word "ROWID", .symbol ";"], 0, []⟩) :=
    run_readParenthesized (run_readTableParts named.columns some_column)
  have columns : (p.columns.map fun c => (Sum.inl c.definedAs : ColumnDefinition ⊕ TableConstraint)
      ).filterMap Sum.getLeft? = p.columns.map (·.definedAs) := by
    simp [List.filterMap_map, Function.comp_def]
  have rules : (p.columns.map fun c => (Sum.inl c.definedAs : ColumnDefinition ⊕ TableConstraint)
      ).filterMap Sum.getRight? = [] := by
    simp [List.filterMap_map, Function.comp_def]
  rw [readTable, run_bind_ok run_readIfAbsent,
    run_bind_ok (run_readObjectName (isIdentifier_free named.table) (by simp)),
    run_bind_ok parts, columns, rules]
  rfl

/-- The table, with the columns of the plan and its key. -/
theorem parse_createTable (some_column : p.columns ≠ []) :
    ∃ place, parse (Sql.tokens p.createTable.toList) =
      .ok (some ⟨.createTable { ifAbsent := true, name := ⟨place, none, p.table, p.table⟩
                                columns := p.columns.map (·.definedAs), withoutRowId := true },
        0, []⟩) := by
  refine ⟨p.createTail.length + 2, ?_⟩
  rw [tokens_createTable named]
  refine parse_of_read (by simp) (.inr rfl) (readStatement_create.trans ?_)
  rw [readCreate, run_after_takeWord rfl rfl, run_bind_ok (run_readTable named some_column), run_pure]

theorem createTable_unreadable (no_column : p.columns = []) :
    ∃ place, parse (Sql.tokens p.createTable.toList) = .error place := by
  have split : p.createTable.toList = phrase ["create", "table", "if", "not", "exists"] ++
      (p.table.toList ++ '(' :: ' ' :: ' ' :: ')' :: ' ' :: (phrase ["WITHOUT", "ROWID"] ++ [';'])) := by
    show ("create table if not exists " ++ p.table ++ "( "
      ++ commaList (p.columns.map columnDefinition) ++ " ) WITHOUT ROWID ;").toList = _
    simp [String.toList_append, phrase, no_column, commaList]
  let tail : List Token := [.word "WITHOUT", .word "ROWID", .symbol ";"]
  have table : readTable.run ⟨.word "if" :: .word "not" :: .word "exists" :: .word p.table ::
      .symbol "(" :: .symbol ")" :: tail, 0, []⟩ = .error 4 := by
    rw [readTable, run_bind_ok run_readIfAbsent,
      run_bind_ok (run_readObjectName (isIdentifier_free named.table) (by simp))]
    rfl
  refine ⟨4, ?_⟩
  rw [split, tokens_phrase (by decide), tokens_word (isIdentifier_word named.table) rfl,
    tokens_symbol (by decide) (by simp), tokens_space, tokens_space, tokens_symbol (by decide) (by simp),
    tokens_space, tokens_phrase (by decide), tokens_symbol (by decide) (by simp), tokens_nil]
  refine parse_of_refused (by simp) (readStatement_create.trans ?_)
  rw [readCreate, run_after_takeWord rfl rfl]
  exact run_bind_error table _

theorem tokens_createIndex {c : ColumnPlan} (member : c ∈ p.columns) :
    Sql.tokens (p.createIndex c).toList = [.word "create", .word "index", .word "if", .word "not",
      .word "exists", .word (c.indexName p.table), .word "on", .word p.table, .symbol "(",
      .word c.column, .symbol ")"] := by
  have isColumn := named.columns c member
  have isIndex := isName_indexName named.table isColumn
  have split : (p.createIndex c).toList = phrase ["create", "index", "if", "not", "exists"] ++
      ((c.indexName p.table).toList ++ ' ' :: (phrase ["on"] ++ (p.table.toList ++ '(' ::
        (c.column.toList ++ [')'])))) := by
    show ("create index if not exists " ++ c.indexName p.table ++ " on " ++ p.table ++ "("
      ++ c.column ++ ")").toList = _
    simp [String.toList_append, phrase]
  rw [split, tokens_phrase (by decide), tokens_word (isName_word isIndex) rfl, tokens_space,
    tokens_phrase (by decide), tokens_word (isIdentifier_word named.table) rfl,
    tokens_symbol (by decide) (by simp), tokens_word (isIdentifier_word isColumn) rfl,
    tokens_symbol (by decide) (by simp), tokens_nil]
  rfl

theorem run_createIndex {c : ColumnPlan} (member : c ∈ p.columns) :
    readStatement.run { rest := Sql.tokens (p.createIndex c).toList } =
      ((fun keys => Statement.createIndex {
          unique := false, ifAbsent := true
          name := ⟨6, none, c.indexName p.table, c.indexName p.table⟩
          table := p.table, terms := keys.map (·.expr) }) <$> readParenthesized readSortKey).run
        ⟨.symbol "(" :: ([.word c.column] ++ .symbol ")" :: []), 0, []⟩ := by
  have isIndex := isName_indexName named.table (named.columns c member)
  have unique (more : List Token) : (takeWord "unique").run ⟨.word "index" :: more, 0, []⟩ =
      .ok (false, ⟨.word "index" :: more, 0, []⟩) := rfl
  rw [tokens_createIndex named member]
  refine readStatement_create.trans ?_
  rw [readCreate, run_unless_takeWord rfl, run_unless_takeWord rfl, run_unless_takeWord rfl]
  refine (run_bind_ok (unique _) _).trans ?_
  rw [run_bind_ok (run_expectWord "index" "index" (by decide))]
  simp only [readIndex, bind_assoc, pure_bind]
  rw [run_bind_ok run_readIfAbsent, run_bind_ok (run_readObjectName (isName_free isIndex) (by simp)),
    run_bind_ok (run_expectWord "on" "on" (by decide)),
    run_bind_ok (run_readName (isIdentifier_free named.table)), bind_pure_comp]
  rfl

theorem parse_createIndex {c : ColumnPlan} (member : c ∈ p.columns)
    (plain : startsExpr c.column = false) :
    ∃ place column, parse (Sql.tokens (p.createIndex c).toList) =
      .ok (some ⟨.createIndex { unique := false, ifAbsent := true
                                name := ⟨place, none, c.indexName p.table, c.indexName p.table⟩
                                table := p.table, terms := [.column column none c.column false] },
        0, []⟩) := by
  have close : endsExpr [.symbol ")"] = true := rfl
  obtain ⟨column, key⟩ : ∃ column, (readCommas readSortKey).run
      ⟨.word c.column :: [.symbol ")"], 0, []⟩ =
        .ok ([{ place := column, expr := .column column none c.column false }],
          ⟨[.symbol ")"], 0, []⟩) :=
    run_readSortKeys (isIdentifier_free (named.columns c member)) plain close (by simp)
  have read := (run_createIndex named member).trans (run_map_ok (run_readParenthesized key))
  refine ⟨6, column, ?_⟩
  rw [tokens_createIndex named member] at read ⊢
  exact parse_of_read (by simp) (.inl rfl) read

/-- A column whose name starts an expression of its own gets no index. -/
theorem createIndex_unreadable {c : ColumnPlan} (member : c ∈ p.columns)
    (starts : startsExpr c.column = true) :
    ∃ place, parse (Sql.tokens (p.createIndex c).toList) = .error place := by
  let unread : Cursor := ⟨[.word c.column, .symbol ")"], 0, []⟩
  have word (keyword : String) : unread.rest.head?.any (·.isWord keyword) =
      decide (foldWord c.column = keyword) := isWord_word ..
  have free : isReserved c.column = false := isIdentifier_free (named.columns c member)
  have literal : (takeToken Token.literal?).run unread = .ok (none, unread) := by
    rw [run_takeToken]
    simp [unread, Token.literal?, free_ne free (by decide : isReserved "null" = true) (by decide),
      Cursor.after]
  -- There is a bracket to come after such a word, and a name has none; or no name may stand there.
  have operand (inner : Nat → Reader Expr) : ∃ place, (readOperand inner).run unread = .error place := by
    rw [readOperand, run_unless_takeSymbol (by simp [unread]), run_unless_takeSymbol (by simp [unread]),
      run_unless_takeSymbol (by simp [unread]), run_unless_takeSymbol (by simp [unread]),
      run_unless_takeWord ((word _).trans
        (decide_eq_false (free_ne free (by decide : isReserved "not" = true) (by decide))))]
    by_cases cast : foldWord c.column = "cast"
    · rw [run_after_takeWord rfl (by simp [isWord_word, cast])]
      exact ⟨1, rfl⟩
    · rw [run_unless_takeWord ((word _).trans (decide_eq_false cast))]
      by_cases raise : foldWord c.column = "raise"
      · rw [run_after_takeWord rfl (by simp [isWord_word, raise])]
        exact ⟨1, rfl⟩
      · have clock : clockWords.contains (foldWord c.column) = true := by
          simpa [startsExpr, cast, raise] using starts
        rw [run_unless_takeWord ((word _).trans (decide_eq_false raise)), run_bind_ok literal,
          run_bind_ok (run_peek? _)]
        refine ⟨2, ?_⟩
        simp only [unread, List.head?_cons, clock, if_true]
        rfl
  obtain ⟨place, operand⟩ := operand (readExprWithin 2)
  have expr : readExpr.run unread = .error place := by
    rw [readExpr, run_bind_ok (run_herePlace _)]
    exact run_bind_error operand _
  have key : readSortKey.run unread = .error place := by
    rw [readSortKey, readGroupKey, bind_assoc, run_bind_ok (run_herePlace _), bind_assoc]
    exact run_bind_error expr _
  have keys : (readParenthesized readSortKey).run
      ⟨.symbol "(" :: ([.word c.column] ++ .symbol ")" :: []), 0, []⟩ = .error place := by
    rw [readParenthesized, run_bind_ok (run_expectSymbol "("), readCommas, bind_assoc,
      run_bind_ok (run_herePlace _), readCommasUpTo, bind_assoc]
    exact run_bind_error key _
  have refused := run_createIndex named member
  rw [← bind_pure_comp, run_bind_error keys, tokens_createIndex named member] at refused
  refine ⟨place, ?_⟩
  rw [tokens_createIndex named member]
  exact parse_of_refused (by simp) refused

/-- A column that the table gets later. -/
theorem parse_addColumn {c : ColumnPlan} (isColumn : isIdentifier c.column = true) :
    ∃ place, parse (Sql.tokens (p.addColumn c).toList) =
      .ok (some ⟨.alter ⟨place, none, p.table, p.table⟩
        (.addColumn { name := c.column, type := c.affinity.keyword }), 0, []⟩) := by
  have split : (p.addColumn c).toList = phrase ["alter", "table"] ++ (p.table.toList ++ ' ' ::
      (phrase ["add", "column"] ++ (c.column.toList ++ ' ' :: c.affinity.keyword.toList))) := by
    show ("alter table " ++ p.table ++ " add column " ++ (c.column ++ " " ++ c.affinity.keyword)).toList = _
    simp [String.toList_append, phrase]
  have plain : Token.plainName? (.word c.affinity.keyword) = some c.affinity.keyword := by
    cases c.affinity <;> decide
  have rules : (readMany readColumnRule?).run ⟨[], 0, []⟩ = .ok ([], ⟨[], 0, []⟩) := rfl
  have column : readColumn.run ⟨[.word c.column, .word c.affinity.keyword], 0, []⟩ =
      .ok ({ name := c.column, type := c.affinity.keyword }, ⟨[], 0, []⟩) := by
    rw [readColumn, run_bind_ok (run_readName (isIdentifier_free isColumn)),
      run_bind_ok (run_readType plain rfl (by simp)),
      run_bind_ok rules, run_pure]
    rfl
  refine ⟨5, ?_⟩
  rw [split, tokens_phrase (by decide), tokens_word (isIdentifier_word named.table) rfl, tokens_space,
    tokens_phrase (by decide), tokens_word (isIdentifier_word isColumn) rfl, tokens_space,
    (spells_word (isWord_keyword c.affinity)).tokens]
  refine parse_of_read (by simp) (.inl rfl) (readStatement_alter.trans ?_)
  have named : readObjectName.run ⟨.word p.table :: .word "add" :: .word "column" ::
      [.word c.column, .word c.affinity.keyword], 0, []⟩ =
        .ok (⟨5, none, p.table, p.table⟩, ⟨.word "add" :: .word "column" ::
          [.word c.column, .word c.affinity.keyword], 0, []⟩) :=
    run_readObjectName (isIdentifier_free named.table) (by simp)
  refine (run_bind_ok (run_expectWord "table" "table" (by decide)) _).trans ?_
  refine (run_bind_ok named _).trans ?_
  rw [run_unless_takeWord rfl]
  refine (run_bind_ok (run_expectWord "add" "add" (by decide)) _).trans ?_
  refine (run_bind_ok (run_takeWord "column" _) _).trans ?_
  exact (run_bind_ok column _).trans (run_pure _ _)

end MappingPlan

/-! ## Blanks -/

/-- A text that neither starts nor ends with a blank has none at its ends. -/
theorem trim_append {word text more : String} (starts : StartsWith word text)
    (first : word.toList.head?.any (fun c => !Text.isBlank c) = true)
    (last : more.toList.getLast?.any (fun c => !Text.isBlank c) = true) :
    Text.trim (text ++ more) = text ++ more := by
  obtain ⟨following, same⟩ := starts
  obtain ⟨final, ends, solid⟩ := (Option.any_eq_true _ _).mp last
  obtain ⟨init, letters⟩ : ∃ init, (text ++ more).toList = init ++ [final] := by
    obtain ⟨init, whole⟩ := List.getLast?_eq_some_iff.mp ends
    exact ⟨text.toList ++ init, by rw [String.toList_append, whole, List.append_assoc]⟩
  obtain ⟨start, rest, opening, clear⟩ :
      ∃ start rest, (text ++ more).toList = start :: rest ∧ Text.isBlank start = false := by
    cases letters : word.toList with
    | nil => simp [letters] at first
    | cons c cs =>
      refine ⟨c, cs ++ ' ' :: following ++ more.toList, ?_, by simpa [letters] using first⟩
      rw [String.toList_append, same, letters]
      rfl
  -- Nothing is dropped in front, and nothing from the end of the reversed text.
  have kept : ((text ++ more).toList.dropWhile Text.isBlank) = (text ++ more).toList := by
    rw [opening, List.dropWhile_cons_of_neg (by simp [clear])]
  have closed : Text.isBlank final = false := by simpa using solid
  rw [Text.trim, Text.trimChars, kept, letters, List.reverse_append, List.reverse_singleton,
    List.singleton_append, List.dropWhile_cons_of_neg (by simp [closed]), List.reverse_cons,
    List.reverse_reverse, ← letters, String.ofList_toList]

theorem isName_ends {name : String} (isName : isName name = true) :
    name.toList.getLast?.any (fun c => !Text.isBlank c) = true := by
  have last := isName_last isName
  cases ends : name.toList.getLast? with
  | some c => rw [ends] at last; exact last
  | none =>
    have isWord := isName_word isName
    simp [Sql.isWord, List.getLast?_eq_none_iff.mp ends] at isWord

namespace MappingPlan

variable {p : MappingPlan}

theorem trim_get (p : MappingPlan) : Text.trim p.get = p.get :=
  trim_append ((p.startsWith_selectFrom.append _).append _) (by decide) (by decide)

theorem trim_gets (p : MappingPlan) (count : Nat) : Text.trim (p.gets count) = p.gets count :=
  trim_append ((((p.startsWith_selectFrom.append _).append _).append _).append _) (by decide)
    (by decide)

theorem trim_select (written : p.Written) : Text.trim p.select = p.select :=
  trim_append (p.startsWith_selectFrom.append _) (by decide) (isName_ends written.keyColumn)

theorem trim_count (written : p.Written) : Text.trim (p.count none none) = p.count none none := by
  have same : p.count none none = "select " ++ "count (1)" ++ " from " ++ p.table := by
    show "select " ++ "count (1)" ++ " from " ++ p.table ++ "" ++ "" = _
    rw [String.append_empty, String.append_empty]
  have starts : StartsWith "select" ("select " ++ "count (1)") :=
    ⟨"count (1)".toList, by simp⟩
  rw [same]
  exact trim_append (starts.append _) (by decide) (isName_ends written.table)

theorem trim_insert (p : MappingPlan) : Text.trim p.insert = p.insert := by
  have starts : StartsWith "REPLACE" ("REPLACE into " ++ p.table) :=
    ⟨("into " ++ p.table).toList, by simp [String.toList_append]⟩
  exact trim_append ((((starts.append _).append _).append _).append _) (by decide) (by decide)

theorem trim_delete (p : MappingPlan) : Text.trim p.delete = p.delete := by
  have starts : StartsWith "delete" ("delete from " ++ p.table ++ " where " ++ p.keyColumn) :=
    .append (.append (.append ⟨"from ".toList, by simp⟩ _) _) _
  exact trim_append starts (by decide) (by decide)

end MappingPlan

end EntityStore
