import EntityStore.Proofs.Sql.Token
import EntityStore.Sql.StatementReader

/-! # Reading tokens one by one

What readers do at a given position:

* `run_bind_ok`, `run_bind_error` — one reader after another.
* `run_takeWord`, `run_takeSymbol`, `run_takeToken` — the readers of single tokens.
* `readStatement_createTable` and the like — the first words decide what kind of statement is read.
-/

namespace EntityStore.Sql

variable {α β : Type}

/-! ## Readers in a row -/

theorem run_bind_ok {first : Reader α} {c d : Cursor} {a : α} (read : first.run c = .ok (a, d))
    (next : α → Reader β) : (first >>= next).run c = (next a).run d := by
  rw [StateT.run_bind, read]
  rfl

theorem run_bind_error {first : Reader α} {c : Cursor} {place : Nat}
    (refused : first.run c = .error place) (next : α → Reader β) :
    (first >>= next).run c = .error place := by
  rw [StateT.run_bind, refused]
  rfl

/-- What two readers in a row have read, the first has read to some point. -/
theorem run_bind_eq_ok {first : Reader α} {next : α → Reader β} {c e : Cursor} {b : β}
    (read : (first >>= next).run c = .ok (b, e)) :
    ∃ a d, first.run c = .ok (a, d) ∧ (next a).run d = .ok (b, e) := by
  cases start : first.run c with
  | error place => rw [run_bind_error start] at read; cases read
  | ok pair => exact ⟨pair.1, pair.2, rfl, by rwa [run_bind_ok start] at read⟩

theorem run_pure (a : α) (c : Cursor) : (pure a : Reader α).run c = .ok (a, c) := rfl

theorem run_map_ok {f : α → β} {reader : Reader α} {c d : Cursor} {a : α}
    (read : reader.run c = .ok (a, d)) : (f <$> reader).run c = .ok (f a, d) := by
  rw [← bind_pure_comp, run_bind_ok read, run_pure]

theorem run_map_eq_ok {f : α → β} {reader : Reader α} {c d : Cursor} {b : β}
    (read : (f <$> reader).run c = .ok (b, d)) : ∃ a, reader.run c = .ok (a, d) ∧ f a = b := by
  rw [← bind_pure_comp] at read
  obtain ⟨a, e, first, done⟩ := run_bind_eq_ok read
  cases done
  exact ⟨a, first, rfl⟩

/-! ## Single tokens -/

theorem run_peek? (c : Cursor) : peek?.run c = .ok (c.rest.head?, c) := rfl

theorem run_advance (c : Cursor) : advance.run c = .ok ((), { c with rest := c.rest.tail }) := rfl

theorem run_herePlace (c : Cursor) : herePlace.run c = .ok (c.rest.length, c) := rfl

def Cursor.after (c : Cursor) (taken : Bool) : Cursor :=
  if taken then { c with rest := c.rest.tail } else c

theorem run_takeSymbol (text : String) (c : Cursor) :
    (takeSymbol text).run c =
      .ok (decide (c.rest.head? = some (.symbol text)),
        c.after (decide (c.rest.head? = some (.symbol text)))) := by
  rw [takeSymbol, run_bind_ok (run_peek? c)]
  by_cases here : c.rest.head? = some (.symbol text)
  · rw [if_pos here, run_bind_ok (run_advance c), run_pure]
    simp [here, Cursor.after]
  · rw [if_neg here, run_pure]
    simp [here, Cursor.after]

theorem run_takeWord (keyword : String) (c : Cursor) :
    (takeWord keyword).run c =
      .ok (c.rest.head?.any (·.isWord keyword), c.after (c.rest.head?.any (·.isWord keyword))) := by
  have here : (atWord keyword).run c = .ok (c.rest.head?.any (·.isWord keyword), c) := rfl
  rw [takeWord, run_bind_ok here]
  cases c.rest.head?.any (·.isWord keyword) with
  | true => rfl
  | false => rfl

theorem run_takeToken (meaning : Token → Option α) (c : Cursor) :
    (takeToken meaning).run c =
      .ok (c.rest.head?.bind meaning, c.after (c.rest.head?.bind meaning).isSome) := by
  rw [takeToken, run_bind_ok (run_peek? c)]
  cases c.rest.head?.bind meaning with
  | some a => rfl
  | none => rfl

/-! ## Kinds of statements -/

theorem isWord_word (letters keyword : String) :
    (Token.word letters).isWord keyword = decide (foldWord letters = keyword) := rfl

/-- What follows a word that is not the next one is read instead. -/
theorem run_unless_takeWord {keyword : String} {c : Cursor} {yes no : Reader α}
    (other : c.rest.head?.any (·.isWord keyword) = false) :
    (do if ← takeWord keyword then yes else no).run c = no.run c := by
  rw [run_bind_ok (run_takeWord keyword c), other]
  rfl

theorem run_after_takeWord {keyword : String} {c : Cursor} {token : Token} {rest : List Token}
    {yes no : Reader α} (here : c.rest = token :: rest) (word : token.isWord keyword = true) :
    (do if ← takeWord keyword then yes else no).run c = yes.run { c with rest := rest } := by
  rw [run_bind_ok (run_takeWord keyword c), here, List.head?_cons, Option.any_some, word]
  simp [Cursor.after, here]

theorem readStatement_create {rest : List Token} {n : Nat} {named : List (String × Nat)} :
    readStatement.run ⟨.word "create" :: rest, n, named⟩ = readCreate.run ⟨rest, n, named⟩ := by
  rw [readStatement, run_unless_takeWord rfl, run_unless_takeWord rfl, run_unless_takeWord rfl,
    run_unless_takeWord rfl, run_unless_takeWord rfl, run_after_takeWord rfl rfl]

theorem readStatement_alter {rest : List Token} {n : Nat} {named : List (String × Nat)} :
    readStatement.run ⟨.word "alter" :: rest, n, named⟩ = readAlter.run ⟨rest, n, named⟩ := by
  rw [readStatement, run_unless_takeWord rfl, run_unless_takeWord rfl, run_unless_takeWord rfl,
    run_unless_takeWord rfl, run_unless_takeWord rfl, run_unless_takeWord rfl,
    run_unless_takeWord rfl, run_after_takeWord rfl rfl]

theorem readStatement_select {rest : List Token} {n : Nat} {named : List (String × Nat)} :
    readStatement.run ⟨.word "select" :: rest, n, named⟩ =
      (Statement.select <$> readSelect).run ⟨rest, n, named⟩ := by
  rw [readStatement, run_after_takeWord rfl rfl, bind_pure_comp]

theorem readStatement_replace {rest : List Token} {n : Nat} {named : List (String × Nat)} :
    readStatement.run ⟨.word "REPLACE" :: rest, n, named⟩ =
      (Statement.insert <$> readInsert .replace).run ⟨rest, n, named⟩ := by
  rw [readStatement, run_unless_takeWord rfl, run_unless_takeWord rfl, run_after_takeWord rfl rfl,
    bind_pure_comp]

theorem readStatement_update {rest : List Token} {n : Nat} {named : List (String × Nat)} :
    readStatement.run ⟨.word "update" :: rest, n, named⟩ =
      (Statement.update <$> readUpdate).run ⟨rest, n, named⟩ := by
  rw [readStatement, run_unless_takeWord rfl, run_unless_takeWord rfl, run_unless_takeWord rfl,
    run_after_takeWord rfl rfl, bind_pure_comp]

theorem readStatement_delete {rest : List Token} {n : Nat} {named : List (String × Nat)} :
    readStatement.run ⟨.word "delete" :: rest, n, named⟩ =
      (Statement.delete <$> readDelete).run ⟨rest, n, named⟩ := by
  rw [readStatement, run_unless_takeWord rfl, run_unless_takeWord rfl, run_unless_takeWord rfl,
    run_unless_takeWord rfl, run_after_takeWord rfl rfl, bind_pure_comp]

/-- New rows meet broken constraints as the first words say. -/
theorem readInsert_onConflict {action : ConflictAction} {c d : Cursor} {change : Insert}
    (read : (readInsert action).run c = .ok (change, d)) : change.onConflict = action := by
  obtain ⟨_, _, _, read⟩ := run_bind_eq_ok read
  obtain ⟨_, _, _, read⟩ := run_bind_eq_ok read
  obtain ⟨_, _, _, read⟩ := run_bind_eq_ok read
  have rows {columns : Option (List String)} {table : ObjectName} {e : Cursor}
      (read : (do
        expectWord "values"
        let rows ← readCommas (readParenthesized readExpr)
        return { onConflict := action, table := table, columns := columns, rows := rows }
          : Reader Insert).run e = .ok (change, d)) : change.onConflict = action := by
    obtain ⟨_, _, _, read⟩ := run_bind_eq_ok read
    obtain ⟨_, _, _, done⟩ := run_bind_eq_ok read
    cases done
    rfl
  dsimp only at read
  split at read
  · obtain ⟨_, _, _, read⟩ := run_bind_eq_ok read
    exact rows read
  · exact rows read

/-- Where no conflict action is named, an update is undone if it breaks a constraint. -/
theorem readUpdate_onConflict {table : String} {rest : List Token} {n : Nat}
    {named : List (String × Nat)} {d : Cursor} {change : Update} (other : foldWord table ≠ "or")
    (read : readUpdate.run ⟨.word table :: rest, n, named⟩ = .ok (change, d)) :
    change.onConflict = .abort := by
  have abort : readConflictAction.run ⟨.word table :: rest, n, named⟩ =
      .ok (.abort, ⟨.word table :: rest, n, named⟩) := by
    rw [readConflictAction, run_unless_takeWord (by simp [isWord_word, other]), run_pure]
  rw [readUpdate, run_bind_ok abort] at read
  obtain ⟨_, _, _, read⟩ := run_bind_eq_ok read
  obtain ⟨_, _, _, read⟩ := run_bind_eq_ok read
  obtain ⟨_, _, _, read⟩ := run_bind_eq_ok read
  obtain ⟨_, _, _, done⟩ := run_bind_eq_ok read
  cases done
  rfl

theorem readCreate_table {rest : List Token} {n : Nat} {named : List (String × Nat)}
    {s : Statement} {d : Cursor}
    (read : readCreate.run ⟨.word "table" :: rest, n, named⟩ = .ok (s, d)) :
    ∃ definition, s = .createTable definition := by
  rw [readCreate, run_after_takeWord rfl rfl] at read
  obtain ⟨definition, _, _, done⟩ := run_bind_eq_ok read
  cases done
  exact ⟨definition, rfl⟩

theorem readCreate_index {rest : List Token} {n : Nat} {named : List (String × Nat)}
    {s : Statement} {d : Cursor}
    (read : readCreate.run ⟨.word "index" :: rest, n, named⟩ = .ok (s, d)) :
    ∃ definition, s = .createIndex definition := by
  rw [readCreate, run_unless_takeWord rfl, run_unless_takeWord rfl, run_unless_takeWord rfl] at read
  obtain ⟨_, _, _, read⟩ := run_bind_eq_ok read
  obtain ⟨_, _, _, read⟩ := run_bind_eq_ok read
  obtain ⟨definition, _, _, done⟩ := run_bind_eq_ok read
  cases done
  exact ⟨definition, rfl⟩

theorem readAlter_alter {c d : Cursor} {s : Statement} (read : readAlter.run c = .ok (s, d)) :
    ∃ table alteration, s = .alter table alteration := by
  rw [readAlter] at read
  obtain ⟨_, _, _, read⟩ := run_bind_eq_ok read
  obtain ⟨table, _, _, read⟩ := run_bind_eq_ok read
  obtain ⟨renames, _, _, read⟩ := run_bind_eq_ok read
  cases renames with
  | true =>
    obtain ⟨_, _, _, read⟩ := run_bind_eq_ok read
    obtain ⟨_, _, _, done⟩ := run_bind_eq_ok read
    cases done
    exact ⟨table, _, rfl⟩
  | false =>
    obtain ⟨_, _, _, read⟩ := run_bind_eq_ok read
    obtain ⟨_, _, _, read⟩ := run_bind_eq_ok read
    obtain ⟨_, _, _, done⟩ := run_bind_eq_ok read
    cases done
    exact ⟨table, _, rfl⟩

/-! ## The first statement -/

theorem parse_eq_ok {first : Token} {rest : List Token} {parsed : Option Parsed}
    (start : first ≠ .symbol ";") (read : parse (first :: rest) = .ok parsed) :
    ∃ p d, parsed = some p ∧ readStatement.run { rest := first :: rest } = .ok (p.statement, d) := by
  have kept : (first :: rest).dropWhile (· = .symbol ";") = first :: rest := by simp [start]
  simp only [parse, kept] at read
  cases done : readStatement.run { rest := first :: rest } with
  | error place => rw [done] at read; cases read
  | ok pair =>
    rw [done] at read
    obtain ⟨s, d⟩ := pair
    simp only [bind, Except.bind] at read
    split at read
    · cases read; exact ⟨_, d, rfl, rfl⟩
    · cases read; exact ⟨_, d, rfl, rfl⟩
    · cases read

end EntityStore.Sql
