import Mathlib.Data.List.Chain
import Mathlib.Data.List.Forall2
import Mathlib.Data.List.Range
import EntityStore.Catalog.Plan
import EntityStore.Proofs.Sql.Reading

/-! # Names and lists in statements

How names, parameters and lists are written in a text, and how they are read:

* `isName` — a word that is a name wherever one may stand.
* `phrase`, `Spells` — pieces of a text with known tokens.
* `commas` — the tokens of a list.
* `endsExpr` — what may follow an expression.
* `run_readExpr_name`, `run_readExpr_mark`, `run_readCommas` — how they are read.
-/

namespace EntityStore.Sql

/-! ## Names -/

/-- Whether a word starts an expression of its own, though it is not reserved. -/
def startsExpr (word : String) : Bool := ("cast" :: "raise" :: clockWords).contains (foldWord word)

/-- Whether a text is a name that stands for itself. -/
def isIdentifier (name : String) : Bool := isWord name && !isReserved name

/-- Whether a word is a name wherever one may stand, the end of a text included: blanks of other
    scripts belong to words, but not to the text of a statement that ends in them. -/
def isName (name : String) : Bool :=
  isWord name && !isReserved name && !startsExpr name
    && name.toList.getLast?.all fun c => !Text.isBlank c

section
variable {name : String} (isName : isName name = true)
include isName

theorem isName_word : isWord name = true := by
  simp only [Sql.isName, Bool.and_eq_true] at isName
  exact isName.1.1.1

theorem isName_free : isReserved name = false := by
  simp only [Sql.isName, Bool.and_eq_true, Bool.not_eq_true'] at isName
  exact isName.1.1.2

theorem isName_last : name.toList.getLast?.all (fun c => !Text.isBlank c) = true := by
  simp only [Sql.isName, Bool.and_eq_true] at isName
  exact isName.2

theorem isName_plain : startsExpr name = false := by
  simp only [Sql.isName, Bool.and_eq_true, Bool.not_eq_true'] at isName
  exact isName.1.2

theorem isName_identifier : isIdentifier name = true := by
  rw [isIdentifier, isName_word isName, isName_free isName]
  rfl

end

theorem isIdentifier_word {name : String} (identifier : isIdentifier name = true) :
    isWord name = true := (Bool.and_eq_true_iff.mp identifier).1

theorem isIdentifier_free {name : String} (identifier : isIdentifier name = true) :
    isReserved name = false := Bool.not_eq_true' _ ▸ (Bool.and_eq_true_iff.mp identifier).2

theorem free_ne {name word : String} (free : isReserved name = false)
    (reserved : isReserved word = true) (folded : foldWord word = word) : foldWord name ≠ word := by
  rintro rfl
  rw [isReserved, folded, ← isReserved, free] at reserved
  cases reserved

theorem plain_ne {name word : String} (plain : startsExpr name = false)
    (starts : startsExpr word = true) (folded : foldWord word = word) : foldWord name ≠ word := by
  rintro rfl
  rw [startsExpr, folded, ← startsExpr, plain] at starts
  cases starts

/-! ## Pieces of texts -/

def phrase (words : List String) : List Char := words.flatMap fun word => word.toList ++ [' ']

theorem tokens_phrase {words : List String} (all : words.all isWord = true) (rest : List Char) :
    tokens (phrase words ++ rest) = words.map .word ++ tokens rest := by
  induction words with
  | nil => rfl
  | cons word words ih =>
    simp only [List.all_cons, Bool.and_eq_true] at all
    have split : phrase (word :: words) ++ rest = word.toList ++ ' ' :: (phrase words ++ rest) := by
      simp [phrase]
    rw [split, tokens_word all.1 rfl, tokens_space, ih all.2]
    rfl

/-- A piece of a text with its tokens, provided that no word goes on behind it. -/
def Spells (cs : List Char) (ts : List Token) : Prop :=
  ∀ rest, endsWord rest = true → tokens (cs ++ rest) = ts ++ tokens rest

theorem endsWord_append {cs rest : List Char} (first : endsWord cs = true)
    (second : endsWord rest = true) : endsWord (cs ++ rest) = true := by
  cases cs with
  | nil => exact second
  | cons c cs => exact first

theorem spells_word {word : String} (isWord : isWord word = true) :
    Spells word.toList [.word word] := fun _ ends => tokens_word isWord ends

theorem spells_mark : Spells "?".toList [.parameter "?"] := by
  intro rest ends
  refine tokens_parameter ?_
  cases rest with
  | nil => rfl
  | cons c rest =>
    simp only [endsWord, List.head?_cons, Option.all_some, Bool.and_eq_true, Bool.not_eq_true',
      isWordChar, decide_eq_false_iff_not, not_or] at ends
    simpa using ends.1.2.1

theorem Spells.append {cs ds : List Char} {ts us : List Token} (first : Spells cs ts)
    (second : Spells ds us) (apart : endsWord ds = true) : Spells (cs ++ ds) (ts ++ us) := by
  intro rest ends
  rw [List.append_assoc, first _ (endsWord_append apart ends), second rest ends, List.append_assoc]

theorem Spells.space {cs : List Char} {ts : List Token} (spells : Spells cs ts) :
    Spells (' ' :: cs) ts := by
  intro rest ends
  rw [List.cons_append, tokens_space, spells rest ends]

theorem tokens_nil : tokens [] = [] := by
  rw [tokens_eq]
  simp [nextLexeme?, skipSpace]

theorem Spells.tokens {text : String} {ts : List Token} (spells : Spells text.toList ts) :
    tokens text.toList = ts := by
  have whole := spells [] rfl
  rwa [List.append_nil, tokens_nil, List.append_nil] at whole

/-! ## Lists -/

def commas : List (List Token) → List Token
  | [] => []
  | [item] => item
  | item :: rest => item ++ .symbol "," :: commas rest

theorem commas_cons_cons (item next : List Token) (rest : List (List Token)) :
    commas (item :: next :: rest) = item ++ .symbol "," :: commas (next :: rest) := rfl

theorem spells_commaList {α : Type} {text : α → String} {ts : α → List Token} {items : List α}
    (each : ∀ a ∈ items, Spells (text a).toList (ts a)) :
    Spells (MappingPlan.commaList (items.map text)).toList (commas (items.map ts)) := by
  induction items with
  | nil => exact fun rest _ => rfl
  | cons a items ih =>
    have here := each a (List.mem_cons_self ..)
    cases items with
    | nil => simpa [MappingPlan.commaList, commas] using here
    | cons b items =>
      have later := ih fun c member => each c (List.mem_cons_of_mem _ member)
      intro rest ends
      have split : (MappingPlan.commaList ((a :: b :: items).map text)).toList ++ rest =
          (text a).toList ++ ',' :: ' ' ::
            ((MappingPlan.commaList ((b :: items).map text)).toList ++ rest) := by
        rw [MappingPlan.commaList, List.map_cons, List.map_cons, String.intercalate_cons_cons]
        simp [MappingPlan.commaList, String.toList_append]
      rw [split, here _ rfl, tokens_symbol (by decide) (by simp), tokens_space, later rest ends]
      simp only [List.map_cons, commas_cons_cons, List.append_assoc, List.cons_append]

/-! ## Reading expressions -/

/-- The words that may go on with an expression or say something about it. -/
def continuingWords : List String :=
  ["isnull", "notnull", "is", "not", "in", "between", "as", "asc", "desc"]

/-- Whether nothing of an expression or of a name after it can start with a token. -/
def Token.isEnd (token : Token) : Bool :=
  token.operator?.isNone && token.plainName?.isNone && token ≠ .symbol "(" && token ≠ .symbol "."
    && !continuingWords.any token.isWord

def endsExpr (rest : List Token) : Bool := rest.head?.all Token.isEnd

section
variable {α β : Type} {rest : List Token} {n : Nat} {named : List (String × Nat)}

theorem run_unless_takeSymbol {symbol : String} {c : Cursor} {yes no : Reader α}
    (other : c.rest.head? ≠ some (.symbol symbol)) :
    (do if ← takeSymbol symbol then yes else no).run c = no.run c := by
  rw [run_bind_ok (run_takeSymbol symbol c), decide_eq_false other]
  rfl

theorem run_after_takeSymbol {symbol : String} {yes no : Reader α} :
    (do if ← takeSymbol symbol then yes else no).run ⟨.symbol symbol :: rest, n, named⟩ =
      yes.run ⟨rest, n, named⟩ := by
  rw [run_bind_ok (run_takeSymbol symbol _)]
  simp [Cursor.after]

theorem run_expectSymbol (symbol : String) :
    (expectSymbol symbol).run ⟨.symbol symbol :: rest, n, named⟩ = .ok ((), ⟨rest, n, named⟩) := by
  rw [expectSymbol, run_after_takeSymbol, run_pure]

theorem run_expectWord (word letters : String) (same : foldWord letters = word) :
    (expectWord word).run ⟨.word letters :: rest, n, named⟩ = .ok ((), ⟨rest, n, named⟩) := by
  rw [expectWord, run_after_takeWord rfl (by simp [isWord_word, same]), run_pure]

theorem run_readName {name : String} (free : isReserved name = false) :
    readName.run ⟨.word name :: rest, n, named⟩ = .ok (name, ⟨rest, n, named⟩) := by
  rw [readName, run_bind_ok (run_takeToken _ _)]
  simp only [List.head?_cons, Option.bind_some, Token.name?, free]
  rfl

/-- A name that is not followed by another one after a point. -/
theorem run_readObjectName {name : String} (free : isReserved name = false)
    (alone : rest.head? ≠ some (.symbol ".")) :
    readObjectName.run ⟨.word name :: rest, n, named⟩ =
      .ok (⟨rest.length + 1, none, name, name⟩, ⟨rest, n, named⟩) := by
  have simple : (readSimpleName none).run ⟨.word name :: rest, n, named⟩ =
      .ok (⟨rest.length + 1, none, name, name⟩, ⟨rest, n, named⟩) := by
    rw [readSimpleName, run_bind_ok (run_herePlace _), run_bind_ok (run_peek? _),
      run_bind_ok (run_readName free)]
    rfl
  rw [readObjectName, run_bind_ok simple, run_unless_takeSymbol alone, run_pure]

variable {inner : Nat → Reader Expr}

theorem endsExpr_word (ends : endsExpr rest = true) (word : String)
    (member : word ∈ continuingWords) :
    rest.head?.any (·.isWord word) = false := by
  cases rest with
  | nil => rfl
  | cons token rest =>
    simp only [endsExpr, List.head?_cons, Option.all_some, Token.isEnd, Bool.and_eq_true,
      Bool.not_eq_true', List.any_eq_false] at ends
    simpa using ends.2 word member

theorem endsExpr_symbol (ends : endsExpr rest = true) {symbol : String}
    (open_or_point : symbol = "(" ∨ symbol = ".") : rest.head? ≠ some (.symbol symbol) := by
  intro here
  rw [endsExpr, here] at ends
  rcases open_or_point with rfl | rfl <;> cases ends

theorem endsExpr_operator (ends : endsExpr rest = true) :
    rest.head?.bind Token.operator? = none ∧ rest.head?.bind Token.plainName? = none := by
  cases rest with
  | nil => exact ⟨rfl, rfl⟩
  | cons token rest =>
    simp only [endsExpr, List.head?_cons, Option.all_some, Token.isEnd, Bool.and_eq_true,
      Option.isNone_iff_eq_none] at ends
    exact ⟨ends.1.1.1.1, ends.1.1.1.2⟩

theorem run_extendUpTo_end (ends : endsExpr rest = true) (level count : Nat) (left : Expr) :
    (extendUpTo inner level count left).run ⟨rest, n, named⟩ = .ok (left, ⟨rest, n, named⟩) := by
  have word := endsExpr_word ends
  have atWord (letters : String) (member : letters ∈ continuingWords) :
      (atWord letters).run ⟨rest, n, named⟩ = .ok (false, ⟨rest, n, named⟩) := by
    rw [← word letters member]
    rfl
  -- No operator follows: neither a symbol nor one of the words that go on with an expression.
  have byWord : (extendByWord? inner left).run ⟨rest, n, named⟩ = .ok (none, ⟨rest, n, named⟩) := by
    rw [extendByWord?, run_unless_takeWord (word _ (by decide)),
      run_unless_takeWord (word _ (by decide)), run_unless_takeWord (word _ (by decide)),
      run_unless_takeWord (word _ (by decide)), run_bind_ok (atWord _ (by decide)),
      run_bind_ok (atWord _ (by decide))]
    rfl
  have stays : (extend? inner level left).run ⟨rest, n, named⟩ = .ok (none, ⟨rest, n, named⟩) := by
    rw [extend?, run_bind_ok (run_peek? _)]
    simp only [(endsExpr_operator ends).1]
    split
    · exact byWord
    · rfl
  cases count with
  | zero => rfl
  | succ count => rw [extendUpTo, run_bind_ok stays, run_pure]

theorem run_readOperand_word {name : String} (free : isReserved name = false)
    (plain : startsExpr name = false) :
    (readOperand inner).run ⟨.word name :: rest, n, named⟩ =
      (readNamed inner).run ⟨.word name :: rest, n, named⟩ := by
  -- A name is none of the words that operands of their own start with.
  have other {word : String} (special : isReserved word = true ∨ startsExpr word = true)
      (folded : foldWord word = word) : (some (Token.word name)).any (·.isWord word) = false := by
    have different : foldWord name ≠ word :=
      special.elim (fun reserved => free_ne free reserved folded)
        fun starts => plain_ne plain starts folded
    simp [isWord_word, different]
  have literal : (takeToken Token.literal?).run ⟨.word name :: rest, n, named⟩ =
      .ok (none, ⟨.word name :: rest, n, named⟩) := by
    rw [run_takeToken]
    simp [Token.literal?, free_ne free (by decide : isReserved "null" = true) (by decide),
      Cursor.after]
  rw [readOperand, run_unless_takeSymbol (by simp), run_unless_takeSymbol (by simp),
    run_unless_takeSymbol (by simp), run_unless_takeSymbol (by simp),
    run_unless_takeWord (other (by decide) (by decide)),
    run_unless_takeWord (other (by decide) (by decide)),
    run_unless_takeWord (other (by decide) (by decide)), run_bind_ok literal,
    run_bind_ok (run_peek? _)]
  simp only [startsExpr, List.contains_cons, Bool.or_eq_false_iff] at plain
  simp only [List.head?_cons, plain.2.2, Bool.false_eq_true, if_false]

theorem run_readOperand_name {name : String} (free : isReserved name = false)
    (plain : startsExpr name = false)
    (alone : rest.head? ≠ some (.symbol "(") ∧ rest.head? ≠ some (.symbol ".")) :
    (readOperand inner).run ⟨.word name :: rest, n, named⟩ =
      .ok (.column (rest.length + 1) none name false, ⟨rest, n, named⟩) := by
  rw [run_readOperand_word free plain, readNamed, run_bind_ok (run_herePlace _),
    run_bind_ok (run_peek? _)]
  simp only [List.head?_cons]
  rw [run_bind_ok (run_readName free), run_unless_takeSymbol alone.1,
    run_unless_takeSymbol alone.2, run_pure]
  rfl

theorem run_readOperand_mark :
    (readOperand inner).run ⟨.parameter "?" :: rest, n, named⟩ =
      .ok (.parameter (n + 1), ⟨rest, n + 1, named⟩) := by
  have literal : (takeToken Token.literal?).run ⟨.parameter "?" :: rest, n, named⟩ =
      .ok (none, ⟨.parameter "?" :: rest, n, named⟩) := rfl
  rw [readOperand, run_unless_takeSymbol (by simp), run_unless_takeSymbol (by simp),
    run_unless_takeSymbol (by simp), run_unless_takeSymbol (by simp), run_unless_takeWord rfl,
    run_unless_takeWord rfl, run_unless_takeWord rfl, run_bind_ok literal,
    run_bind_ok (run_peek? _)]
  rfl

theorem run_readOperand_one :
    (readOperand inner).run ⟨.integer "1" :: rest, n, named⟩ =
      .ok (.literal (.integer 1), ⟨rest, n, named⟩) := by
  have one : Token.literal? (.integer "1") = some (.integer 1) := by decide +kernel
  have literal : (takeToken Token.literal?).run ⟨.integer "1" :: rest, n, named⟩ =
      .ok (some (.integer 1), ⟨rest, n, named⟩) := by
    rw [run_takeToken, List.head?_cons, Option.bind_some, one]
    rfl
  rw [readOperand, run_unless_takeSymbol (by simp), run_unless_takeSymbol (by simp),
    run_unless_takeSymbol (by simp), run_unless_takeSymbol (by simp), run_unless_takeWord rfl,
    run_unless_takeWord rfl, run_unless_takeWord rfl, run_bind_ok literal]
  exact run_pure _ _

theorem run_readExprWithin {depth : Nat} {expr : Expr} {c : Cursor} (ends : endsExpr rest = true)
    (operand : (readOperand (readExprWithin depth)).run c = .ok (expr, ⟨rest, n, named⟩))
    (level : Nat) :
    (readExprWithin (depth + 1) level).run c = .ok (expr, ⟨rest, n, named⟩) := by
  rw [readExprWithin, run_bind_ok operand, run_bind_ok (run_herePlace _),
    run_extendUpTo_end ends]

theorem run_readExpr {depth : Nat} {expr : Expr} {c d : Cursor} (more : c.rest.length = depth)
    (read : (readExprWithin (depth + 1) 1).run c = .ok (expr, d)) :
    readExpr.run c = .ok (expr, d) := by
  rw [readExpr, run_bind_ok (run_herePlace c), more, read]

theorem run_readExpr_name {name : String} (free : isReserved name = false)
    (plain : startsExpr name = false) (ends : endsExpr rest = true) :
    readExpr.run ⟨.word name :: rest, n, named⟩ =
      .ok (.column (rest.length + 1) none name false, ⟨rest, n, named⟩) :=
  run_readExpr rfl (run_readExprWithin ends (run_readOperand_name free plain
    ⟨endsExpr_symbol ends (.inl rfl), endsExpr_symbol ends (.inr rfl)⟩) 1)

theorem run_readExpr_mark (ends : endsExpr rest = true) :
    readExpr.run ⟨.parameter "?" :: rest, n, named⟩ =
      .ok (.parameter (n + 1), ⟨rest, n + 1, named⟩) :=
  run_readExpr rfl (run_readExprWithin ends run_readOperand_mark 1)

/-! ## Reading lists -/

theorem length_commas (items : List (List Token)) : items.length ≤ (commas items).length + 1 := by
  induction items with
  | nil => simp
  | cons item items ih =>
    cases items with
    | nil => simp
    | cons next items =>
      rw [commas_cons_cons]
      simp only [List.length_cons, List.length_append] at ih ⊢
      omega

def EndsItem (rest following : List Token) : Prop :=
  following = rest ∨ following.head? = some (.symbol ",")

theorem EndsItem.endsExpr {following : List Token} (item : EndsItem rest following)
    (ends : endsExpr rest = true) : Sql.endsExpr following = true := by
  rcases item with rfl | comma
  · exact ends
  · rw [Sql.endsExpr, comma]
    rfl

/-- Items are read one after the other, each from the number of parameters that the one before it
    has come to. -/
theorem run_readCommas {item : Reader α} {ts : β → List Token} {R : β → α → Prop}
    (before after : β → Nat) {items : List β} (stops : rest.head? ≠ some (.symbol ","))
    (each : ∀ b ∈ items, ∀ following, EndsItem rest following → ∃ a,
      item.run ⟨ts b ++ following, before b, named⟩ = .ok (a, ⟨following, after b, named⟩) ∧ R b a)
    (chain : items.IsChain fun b c => after b = before c) (some_item : items ≠ []) :
    ∃ as, (readCommas item).run
        ⟨commas (items.map ts) ++ rest, before (items.head some_item), named⟩ =
          .ok (as, ⟨rest, after (items.getLast some_item), named⟩) ∧ List.Forall₂ R items as := by
  -- Every bound that is no less than the number of items will do.
  have read (count : Nat) (enough : items.length ≤ count) : ∃ as, (readCommasUpTo item count).run
      ⟨commas (items.map ts) ++ rest, before (items.head some_item), named⟩ =
        .ok (as, ⟨rest, after (items.getLast some_item), named⟩) ∧ List.Forall₂ R items as := by
    induction items generalizing count with
    | nil => exact absurd rfl some_item
    | cons b items ih =>
      obtain ⟨count, rfl⟩ : ∃ fewer, count = fewer + 1 := ⟨count - 1, by simp at enough; omega⟩
      cases items with
      | nil =>
        obtain ⟨a, here, related⟩ := each b (List.mem_cons_self ..) rest (.inl rfl)
        refine ⟨[a], ?_, .cons related .nil⟩
        rw [readCommasUpTo, List.map_singleton, commas, List.head_cons, run_bind_ok here,
          run_unless_takeSymbol stops, run_pure]
        rfl
      | cons c items =>
        rw [List.isChain_cons_cons] at chain
        obtain ⟨as, later, others⟩ := ih (fun d member => each d (List.mem_cons_of_mem _ member))
          chain.2 (by simp) count (by simpa using enough)
        obtain ⟨a, here, related⟩ := each b (List.mem_cons_self ..)
          (.symbol "," :: (commas ((c :: items).map ts) ++ rest)) (.inr rfl)
        refine ⟨a :: as, ?_, .cons related others⟩
        rw [List.head_cons] at later
        rw [readCommasUpTo, List.map_cons, List.map_cons, commas_cons_cons, List.append_assoc,
          List.cons_append, List.head_cons, ← List.map_cons, run_bind_ok here,
          run_after_takeSymbol, chain.1, run_bind_ok later, run_pure]
        rfl
  rw [readCommas, run_bind_ok (run_herePlace _)]
  refine read _ ?_
  have enough := length_commas (items.map ts)
  simp only [List.length_map] at enough
  simp only [List.length_append]
  omega

theorem run_readItems {item : Reader α} {ts : β → List Token} {R : β → α → Prop}
    {items : List β} (stops : rest.head? ≠ some (.symbol ","))
    (each : ∀ b ∈ items, ∀ following, EndsItem rest following → ∃ a,
      item.run ⟨ts b ++ following, n, named⟩ = .ok (a, ⟨following, n, named⟩) ∧ R b a)
    (some_item : items ≠ []) :
    ∃ as, (readCommas item).run ⟨commas (items.map ts) ++ rest, n, named⟩ =
        .ok (as, ⟨rest, n, named⟩) ∧ List.Forall₂ R items as :=
  run_readCommas (fun _ => n) (fun _ => n) stops each
    (List.pairwise_of_forall fun _ _ => rfl).isChain some_item

/-- Items without parameters that are read as a function of what they stand for. -/
theorem run_readItems_map {item : Reader α} {ts : β → List Token} {f : β → α} {items : List β}
    (stops : rest.head? ≠ some (.symbol ","))
    (each : ∀ b ∈ items, ∀ following, EndsItem rest following →
      item.run ⟨ts b ++ following, n, named⟩ = .ok (f b, ⟨following, n, named⟩))
    (some_item : items ≠ []) :
    (readCommas item).run ⟨commas (items.map ts) ++ rest, n, named⟩ =
      .ok (items.map f, ⟨rest, n, named⟩) := by
  obtain ⟨as, read, same⟩ := run_readItems (R := fun b a => f b = a) stops
    (fun b member following ends => ⟨_, each b member following ends, rfl⟩) some_item
  have all : items.map f = as := List.forall₂_eq_eq_eq ▸ List.forall₂_map_left_iff.mpr same
  rw [read, all]

def markTokens (count : Nat) : List Token :=
  commas ((List.range count).map fun _ => [.parameter "?"])

theorem spells_marks (count : Nat) : Spells (MappingPlan.marks count).toList (markTokens count) := by
  have same : List.replicate count "?" = (List.range count).map fun _ => "?" := by simp
  rw [MappingPlan.marks, same]
  exact spells_commaList fun _ _ => spells_mark

theorem run_readMarks {item : Reader Expr} {count : Nat} (last : endsExpr rest = true)
    (stops : rest.head? ≠ some (.symbol ","))
    (each : ∀ m following, endsExpr following = true →
      item.run ⟨.parameter "?" :: following, m, named⟩ =
        .ok (.parameter (m + 1), ⟨following, m + 1, named⟩)) (some_mark : 0 < count) :
    (readCommas item).run ⟨markTokens count ++ rest, n, named⟩ =
      .ok ((List.range count).map fun i => .parameter (n + i + 1), ⟨rest, n + count, named⟩) := by
  have some_item : List.range count ≠ [] := by simpa using Nat.ne_of_gt some_mark
  -- The count of parameters before a mark is the number of marks before it.
  obtain ⟨exprs, read, numbered⟩ : ∃ exprs, (readCommas item).run
      ⟨markTokens count ++ rest, n + (List.range count).head some_item, named⟩ =
        .ok (exprs, ⟨rest, n + (List.range count).getLast some_item + 1, named⟩)
      ∧ List.Forall₂ (fun i expr => Expr.parameter (n + i + 1) = expr) (List.range count) exprs :=
    run_readCommas (fun i => n + i) (fun i => n + i + 1) stops
      (fun i _ following item => ⟨_, each (n + i) following (item.endsExpr last), rfl⟩)
      ((List.isChain_range _ _).mpr fun _ _ => rfl) some_item
  have all : (List.range count).map (fun i => Expr.parameter (n + i + 1)) = exprs :=
    List.forall₂_eq_eq_eq ▸ List.forall₂_map_left_iff.mpr numbered
  rw [List.head_range, List.getLast_range] at read
  rw [all, ← Nat.add_zero n, read]
  congr 2
  congr 1
  omega

/-! ## Conditions -/

theorem run_readExprWithin_extended {depth level : Nat} {c d : Cursor} {left longer : Expr}
    (operand : (readOperand (readExprWithin depth)).run c = .ok (left, d)) (more : d.rest ≠ [])
    (extended : (extend? (readExprWithin depth) level left).run d =
      .ok (some longer, ⟨rest, n, named⟩)) (ends : endsExpr rest = true) :
    (readExprWithin (depth + 1) level).run c = .ok (longer, ⟨rest, n, named⟩) := by
  obtain ⟨count, enough⟩ : ∃ count, d.rest.length = count + 1 :=
    Nat.exists_eq_add_one.mpr (List.length_pos_iff.mpr more)
  rw [readExprWithin, run_bind_ok operand, run_bind_ok (run_herePlace d), enough, extendUpTo,
    run_bind_ok extended]
  exact run_extendUpTo_end ends level count longer

theorem run_readExpr_equals {name : String} (isName : isName name = true)
    (ends : endsExpr rest = true) :
    ∃ place, readExpr.run ⟨.word name :: .symbol "=" :: .parameter "?" :: rest, n, named⟩ =
      .ok (.binary .equal (.column place none name false) (.parameter (n + 1)),
        ⟨rest, n + 1, named⟩) := by
  have operator : (some (Token.symbol "=")).bind Token.operator? = some (.equal, 4) := by decide
  refine ⟨rest.length + 3, run_readExpr rfl (run_readExprWithin_extended
    (run_readOperand_name (isName_free isName) (isName_plain isName) ⟨by simp, by simp⟩) (by simp) ?_ ends)⟩
  rw [extend?, run_bind_ok (run_peek? _)]
  simp only [List.head?_cons, operator]
  rw [if_pos (by decide), run_bind_ok (run_advance _)]
  exact run_bind_ok (run_readExprWithin ends run_readOperand_mark 5) _

theorem run_readExpr_among {name : String} (isName : isName name = true)
    (ends : endsExpr rest = true) {count : Nat} (some_mark : 0 < count) :
    ∃ place, readExpr.run ⟨.word name :: .word "in" :: .symbol "(" :: (markTokens count
        ++ .symbol ")" :: rest), n, named⟩ =
      .ok (.inList (.column place none name false)
        ((List.range count).map fun i => .parameter (n + i + 1)), ⟨rest, n + count, named⟩) := by
  have marks (depth : Nat) : (readCommas (readExprWithin (depth + 1) 1)).run
      ⟨markTokens count ++ .symbol ")" :: rest, n, named⟩ =
        .ok ((List.range count).map fun i => .parameter (n + i + 1),
          ⟨.symbol ")" :: rest, n + count, named⟩) := by
    have close : endsExpr (.symbol ")" :: rest) = true := rfl
    exact run_readMarks close (by simp)
      (fun m following ends => run_readExprWithin ends run_readOperand_mark 1) some_mark
  -- There is a mark, so the list is not read as an empty one.
  have marks_start : (markTokens count ++ .symbol ")" :: rest).head? ≠ some (.symbol ")") := by
    obtain ⟨count, rfl⟩ := Nat.exists_eq_add_one.mpr some_mark
    cases count <;> simp [markTokens, commas, List.range_succ_eq_map]
  refine ⟨(markTokens count ++ .symbol ")" :: rest).length + 3, run_readExpr rfl
    (run_readExprWithin_extended (run_readOperand_name (isName_free isName) (isName_plain isName)
      ⟨by simp, by simp⟩) (by simp) ?_ ends)⟩
  have operator : (some (Token.word "in")).bind Token.operator? = none := by decide
  have here : (atWord "in").run ⟨.word "in" :: .symbol "(" :: (markTokens count
      ++ .symbol ")" :: rest), n, named⟩ = .ok (true, ⟨.word "in" :: .symbol "(" :: (markTokens count
      ++ .symbol ")" :: rest), n, named⟩) := rfl
  have elsewhere : (atWord "between").run ⟨.word "in" :: .symbol "(" :: (markTokens count
      ++ .symbol ")" :: rest), n, named⟩ = .ok (false, ⟨.word "in" :: .symbol "(" ::
      (markTokens count ++ .symbol ")" :: rest), n, named⟩) := rfl
  rw [extend?, run_bind_ok (run_peek? _)]
  simp only [List.head?_cons, operator]
  rw [if_pos (by decide), extendByWord?, run_unless_takeWord rfl, run_unless_takeWord rfl,
    run_unless_takeWord rfl, run_unless_takeWord rfl, run_bind_ok here, run_bind_ok elsewhere]
  simp only [Bool.true_or, ↓reduceIte]
  refine run_bind_ok ?_ _
  rw [readMembership, run_unless_takeWord rfl, run_bind_ok (run_expectWord "in" "in" (by decide)),
    run_bind_ok (run_expectSymbol "("), run_unless_takeSymbol marks_start]
  refine (run_bind_ok (marks _) _).trans ?_
  rw [run_bind_ok (run_expectSymbol ")")]
  exact run_pure _ _

theorem run_readExpr_call {function : String} {operand : Token} (expr : Nat → Expr)
    (isName : isName function = true)
    (starts : operand ≠ .symbol "*" ∧ operand ≠ .symbol ")")
    (reads : ∀ inner following, endsExpr following = true →
      (readOperand inner).run ⟨operand :: following, n, named⟩ =
        .ok (expr following.length, ⟨following, n, named⟩)) (ends : endsExpr rest = true) :
    readExpr.run ⟨.word function :: .symbol "(" :: operand :: .symbol ")" :: rest, n, named⟩ =
      .ok (.call (rest.length + 4) function [expr (rest.length + 1)], ⟨rest, n, named⟩) := by
  have free := isName_free isName
  -- The operands are a list of one, and then the call ends.
  have operands (depth : Nat) : (readCommas (readExprWithin (depth + 1) 1)).run
      ⟨operand :: .symbol ")" :: rest, n, named⟩ =
        .ok ([expr (rest.length + 1)], ⟨.symbol ")" :: rest, n, named⟩) := by
    have close : endsExpr (.symbol ")" :: rest) = true := rfl
    rw [readCommas, run_bind_ok (run_herePlace _), readCommasUpTo,
      run_bind_ok (run_readExprWithin close (reads _ _ close) 1), run_unless_takeSymbol (by simp), run_pure]
    rfl
  have call (depth : Nat) : (readCall (readExprWithin (depth + 1)) (rest.length + 4) function).run
      ⟨operand :: .symbol ")" :: rest, n, named⟩ =
        .ok (.call (rest.length + 4) function [expr (rest.length + 1)], ⟨rest, n, named⟩) := by
    rw [readCall, run_unless_takeSymbol (by simpa using starts.1),
      run_unless_takeSymbol (by simpa using starts.2), run_bind_ok (operands depth),
      run_bind_ok (run_expectSymbol ")"), run_pure]
  refine run_readExpr rfl (run_readExprWithin ends ?_ 1)
  rw [run_readOperand_word free (isName_plain isName), readNamed, run_bind_ok (run_herePlace _),
    run_bind_ok (run_peek? _)]
  simp only [List.head?_cons]
  rw [run_bind_ok (run_readName free), run_after_takeSymbol]
  exact call _

theorem run_readExpr_count (ends : endsExpr rest = true) :
    readExpr.run ⟨.word "count" :: .symbol "(" :: .integer "1" :: .symbol ")" :: rest, n, named⟩ =
      .ok (.call (rest.length + 4) "count" [.literal (.integer 1)], ⟨rest, n, named⟩) :=
  run_readExpr_call (fun _ => .literal (.integer 1)) (by decide) (by simp) (fun _ _ _ => run_readOperand_one) ends

theorem run_readExpr_sum {name : String} (isName : isName name = true) (ends : endsExpr rest = true) :
    readExpr.run ⟨.word "sum" :: .symbol "(" :: .word name :: .symbol ")" :: rest, n, named⟩ =
      .ok (.call (rest.length + 4) "sum" [.column (rest.length + 2) none name false],
        ⟨rest, n, named⟩) :=
  run_readExpr_call (fun more => .column (more + 1) none name false) (by decide) (by simp)
    (fun _ _ close => run_readOperand_name (isName_free isName) (isName_plain isName)
      ⟨endsExpr_symbol close (.inl rfl), endsExpr_symbol close (.inr rfl)⟩) ends

end

end EntityStore.Sql
