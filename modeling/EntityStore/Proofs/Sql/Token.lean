import EntityStore.Sql.Token
import Mathlib.Tactic.ByContra

/-! # Tokens in a text

How a text falls into tokens, piece by piece:

* `readToken_suffix` — a token takes at least one character, and what follows it is the end of the
  text.
* `lexemes_eq` — the tokens of a text are its first one and those of what follows.
* `lexemes_space`, `lexemes_word`, `lexemes_symbol` — what blanks, words and symbols at the start of
  a text give.
* `after_of_semicolon` — a semicolon among the tokens is one of the text.
* `isWord` — a text that is a word as a whole.
-/

namespace EntityStore.Sql

/-! ## What a token leaves -/

theorem readQuoted_suffix (quote : Char) (out cs : List Char) {text : String} {rest : List Char}
    (read : readQuoted quote out cs = some (text, rest)) : rest <:+ cs := by
  fun_induction readQuoted quote out cs with
  | case1 => cases read
  | case2 out more ih =>
    exact (ih read).trans ((List.suffix_cons _ _).trans (List.suffix_cons _ _))
  | case3 => cases read; exact List.suffix_cons _ _
  | case4 => cases read; exact List.nil_suffix
  | case5 _ _ _ _ ih => exact (ih read).trans (List.suffix_cons _ _)

theorem readBracketed_suffix (cs : List Char) {text : String} {rest : List Char}
    (read : readBracketed cs = some (text, rest)) : rest <:+ cs := by
  have whole := List.dropWhile_suffix (fun c : Char => decide (c ≠ ']')) (l := cs)
  simp only [readBracketed] at read
  split at read
  · next same =>
    cases read
    rw [same] at whole
    exact (List.suffix_cons _ _).trans whole
  · cases read

theorem quotedToken_suffix (make : String → Token) {read : Option (String × List Char)}
    {cs : List Char} (suffix : ∀ text rest, read = some (text, rest) → rest <:+ cs) :
    (quotedToken make read).2 <:+ cs := by
  cases read with
  | none => exact List.nil_suffix
  | some pair => exact suffix pair.1 pair.2 rfl

theorem splitExponent_suffix (cs : List Char) : (splitExponent cs).2 <:+ cs := by
  unfold splitExponent
  split
  · split
    · split
      · split
        · exact (List.dropWhile_suffix _).trans (List.suffix_cons _ _)
        · split
          · exact (List.dropWhile_suffix _).trans
              ((List.suffix_cons _ _).trans (List.suffix_cons _ _))
          · exact List.suffix_rfl
      · exact List.suffix_rfl
    · exact List.suffix_rfl
  · exact List.suffix_rfl

/-- The number is over where its exponent ends, or goes on with what makes it no number. -/
theorem readNumber_rest_suffix (whole fraction : List Char) {left rest : List Char}
    (suffix : left <:+ rest) :
    (let (exponent, rest) := splitExponent left
      let more := rest.takeWhile isWordChar
      if !more.isEmpty then (Token.illegal, rest.dropWhile isWordChar)
      else if fraction.isEmpty && exponent.isEmpty then (.integer (String.ofList whole), rest)
      else (.decimal (String.ofList (whole ++ fraction ++ exponent)), rest)).2 <:+ rest := by
  have remains := (splitExponent_suffix left).trans suffix
  dsimp only
  split
  · exact (List.dropWhile_suffix _).trans remains
  · split
    · exact remains
    · exact remains

theorem readNumber_suffix (c : Char) (rest : List Char) (starts : c.isDigit = true ∨ c = '.') :
    (readNumber (c :: rest)).2 <:+ rest := by
  by_cases digit : c.isDigit = true
  · have whole := List.dropWhile_suffix Char.isDigit (l := rest)
    simp only [readNumber, List.dropWhile_cons_of_pos digit]
    split
    · next same =>
      rw [same] at whole
      exact readNumber_rest_suffix _ _
        ((List.dropWhile_suffix _).trans ((List.suffix_cons _ _).trans whole))
    · exact readNumber_rest_suffix _ _ whole
  · obtain rfl := starts.resolve_left digit
    simp only [readNumber, List.dropWhile_cons_of_neg digit]
    exact readNumber_rest_suffix _ _ (List.dropWhile_suffix _)

theorem readBytes_suffix (cs : List Char) : (readBytes cs).2 <:+ cs := by
  have digits := List.dropWhile_suffix isHexDigit (l := cs)
  simp only [readBytes]
  split
  · next same =>
    rw [same] at digits
    split
    · exact (List.suffix_cons _ _).trans digits
    · exact (List.suffix_cons _ _).trans digits
  · exact ((List.drop_suffix _ _).trans (List.dropWhile_suffix _)).trans digits

theorem readSymbol_suffix (c : Char) (rest : List Char) : (readSymbol (c :: rest)).2 <:+ rest := by
  simp only [readSymbol]
  split
  · exact List.drop_suffix 1 rest
  · split
    · exact List.suffix_rfl
    · exact List.suffix_rfl

/-- A token takes at least one character. -/
theorem readToken_suffix (c : Char) (rest : List Char) : (readToken (c :: rest)).2 <:+ rest := by
  -- One case for each kind of token, by its first character.
  unfold readToken
  split
  · exact List.nil_suffix
  · next same => cases same; exact quotedToken_suffix _ fun _ _ => readQuoted_suffix _ _ _
  · next same => cases same; exact quotedToken_suffix _ fun _ _ => readQuoted_suffix _ _ _
  · next same => cases same; exact quotedToken_suffix _ fun _ _ => readQuoted_suffix _ _ _
  · next same => cases same; exact quotedToken_suffix _ fun _ _ => readBracketed_suffix _
  · next same => cases same; exact List.dropWhile_suffix _
  · next same =>
    cases same
    split
    · exact (readBytes_suffix _).trans (List.drop_suffix 1 rest)
    · split
      · exact List.dropWhile_suffix _
      · split
        · exact (List.dropWhile_suffix _).trans (List.drop_suffix 1 rest)
        · split
          · next starts => exact readNumber_suffix c rest (starts.imp_right And.left)
          · split
            · exact List.dropWhile_suffix _
            · exact readSymbol_suffix c rest

/-! ## What blanks leave -/

theorem afterComment_suffix (cs : List Char) : afterComment cs <:+ cs := by
  fun_induction afterComment cs with
  | case1 => exact List.suffix_rfl
  | case2 rest => exact (List.suffix_cons _ _).trans (List.suffix_cons _ _)
  | case3 _ rest _ ih => exact ih.trans (List.suffix_cons _ _)

theorem skipSpace_suffix (cs : List Char) : skipSpace cs <:+ cs := by
  fun_induction skipSpace cs with
  | case1 => exact List.suffix_rfl
  | case2 rest ih =>
    exact ih.trans ((List.dropWhile_suffix _).trans
      ((List.suffix_cons _ _).trans (List.suffix_cons _ _)))
  | case3 c rest after shorter ih =>
    exact ih.trans ((afterComment_suffix _).trans
      ((List.suffix_cons _ _).trans (List.suffix_cons _ _)))
  | case4 => exact List.suffix_rfl
  | case5 rest ih => exact ih.trans (List.suffix_cons _ _)
  | case6 c rest _ _ _ _ ih => exact ih.trans (List.suffix_cons _ _)
  | case7 => exact List.suffix_rfl

/-- A token stands where the blanks end, and takes at least one character. -/
theorem nextLexeme?_eq_some {cs : List Char} {lexeme : Lexeme}
    (found : nextLexeme? cs = some lexeme) :
    ∃ c rest, lexeme.source = c :: rest ∧ c :: rest <:+ cs
      ∧ lexeme.token = (readToken (c :: rest)).1 ∧ lexeme.after = (readToken (c :: rest)).2 := by
  have suffix := skipSpace_suffix cs
  simp only [nextLexeme?] at found
  split at found
  · cases found
  · next c rest same =>
    rw [same] at suffix
    split at found
    · cases found
    · cases found
      exact ⟨c, rest, rfl, suffix, rfl, rfl⟩

theorem after_length_lt {cs : List Char} {lexeme : Lexeme}
    (found : nextLexeme? cs = some lexeme) : lexeme.after.length < cs.length := by
  obtain ⟨c, rest, _, suffix, _, after⟩ := nextLexeme?_eq_some found
  have shorter := (readToken_suffix c rest).length_le
  have within := suffix.length_le
  rw [List.length_cons] at within
  rw [after]
  omega

/-! ## The tokens of a text -/

theorem lexemes_eq (cs : List Char) :
    lexemes cs = match nextLexeme? cs with
      | none => []
      | some lexeme => lexeme :: lexemes lexeme.after := by
  rw [lexemes]
  cases found : nextLexeme? cs with
  | none => rfl
  | some lexeme => simp only [after_length_lt found, ↓reduceIte]

theorem tokens_eq (cs : List Char) :
    tokens cs = match nextLexeme? cs with
      | none => []
      | some lexeme => lexeme.token :: tokens lexeme.after := by
  rw [tokens, lexemes_eq]
  cases nextLexeme? cs <;> rfl

/-! ## Semicolons -/

theorem quotedToken_ne_symbol {make : String → Token} (other : ∀ text, make text ≠ .symbol ";")
    (read : Option (String × List Char)) : (quotedToken make read).1 ≠ .symbol ";" := by
  cases read with
  | none => simp [quotedToken]
  | some pair => exact other pair.1

theorem readNumber_ne_symbol (cs : List Char) : (readNumber cs).1 ≠ .symbol ";" := by
  simp only [readNumber]
  repeat (split <;> try simp)

theorem readBytes_ne_symbol (cs : List Char) : (readBytes cs).1 ≠ .symbol ";" := by
  simp only [readBytes]
  repeat (split <;> try simp)

theorem readSymbol_semicolon {c : Char} {rest : List Char}
    (read : (readSymbol (c :: rest)).1 = .symbol ";") :
    c = ';' ∧ (readSymbol (c :: rest)).2 = rest := by
  simp only [readSymbol] at read ⊢
  split at read
  · next long =>
    -- No symbol of two characters is one character long.
    simp only [Token.symbol.injEq] at read
    rw [read] at long
    exact absurd long (by decide)
  · next short =>
    rw [if_neg short]
    split at read
    · next known =>
      simp only [Token.symbol.injEq, List.take_succ_cons, List.take_zero] at read
      have same : [c] = [';'] := by
        rw [← String.toList_ofList (l := [c]), read]
        rfl
      rw [if_pos known]
      exact ⟨(List.cons.inj same).1, rfl⟩
    · cases read

theorem readToken_semicolon {c : Char} {rest : List Char}
    (read : (readToken (c :: rest)).1 = .symbol ";") :
    c = ';' ∧ (readToken (c :: rest)).2 = rest := by
  unfold readToken at read ⊢
  split at read
  · cases read
  · exact absurd read (quotedToken_ne_symbol (by simp) _)
  · exact absurd read (quotedToken_ne_symbol (by simp) _)
  · exact absurd read (quotedToken_ne_symbol (by simp) _)
  · exact absurd read (quotedToken_ne_symbol (by simp) _)
  · cases read
  · next same =>
    cases same
    -- The kinds of tokens in the order in which they are tried; only a symbol can be a semicolon.
    split at read
    · exact absurd read (readBytes_ne_symbol _)
    · split at read
      · cases read
      · split at read
        · cases read
        · split at read
          · exact absurd read (readNumber_ne_symbol _)
          · split at read
            · simp only [readParameter] at read
              split at read <;> cases read
            · simp_all only [↓reduceIte]
              exact readSymbol_semicolon read

/-- What stands after a semicolon among the tokens stands after it in the text. -/
theorem after_of_semicolon {cs : List Char} {lexeme : Lexeme} (member : lexeme ∈ lexemes cs)
    (semicolon : lexeme.token = .symbol ";") : ';' :: lexeme.after <:+ cs := by
  fun_induction lexemes cs with
  | case1 => cases member
  | case2 cs next found shorter ih =>
    obtain ⟨c, rest, _, suffix, token, after⟩ := nextLexeme?_eq_some found
    cases member with
    | head =>
      obtain ⟨rfl, same⟩ := readToken_semicolon (token ▸ semicolon)
      rw [after, same]
      exact suffix
    | tail _ member =>
      refine (ih member).trans (after ▸ ?_)
      exact (readToken_suffix c rest).trans ((List.suffix_cons c rest).trans suffix)
  | case3 cs next found longer => exact absurd (after_length_lt found) longer

/-! ## Words -/

def isWord (text : String) : Bool :=
  match text.toList with
  | [] => false
  | c :: rest => isWordStart c && c ≠ '\ufeff' && rest.all isWordChar

/-- Whether a word that stands before a text ends there. -/
def endsWord (rest : List Char) : Bool := rest.head?.all fun c => !isWordChar c && c ≠ '\''

theorem skipSpace_cons {c : Char} {rest : List Char} (space : isSpace c = false)
    (dash : c ≠ '-') (slash : c ≠ '/') (mark : c ≠ '\ufeff') : skipSpace (c :: rest) = c :: rest := by
  rw [skipSpace]
  · simp [space]
  · simp [dash]
  · simp [slash]
  · simp [mark]

theorem nextLexeme?_cons {c : Char} {rest : List Char} (space : isSpace c = false)
    (dash : c ≠ '-') (slash : c ≠ '/') (mark : c ≠ '\ufeff') (zero : c.toNat ≠ 0) :
    nextLexeme? (c :: rest) =
      some ⟨(readToken (c :: rest)).1, c :: rest, (readToken (c :: rest)).2⟩ := by
  simp only [nextLexeme?, skipSpace_cons space dash slash mark, zero, ↓reduceIte]

theorem takeWhile_append_stop {p : Char → Bool} {cs rest : List Char} (all : cs.all p = true)
    (stops : rest.head?.all (fun c => !p c) = true) :
    (cs ++ rest).takeWhile p = cs ∧ (cs ++ rest).dropWhile p = rest := by
  induction cs with
  | nil =>
    cases rest with
    | nil => exact ⟨rfl, rfl⟩
    | cons c rest =>
      have stops : p c = false := by simpa using stops
      simp [stops]
  | cons c cs ih =>
    simp only [List.all_cons, Bool.and_eq_true] at all
    simp [all.1, ih all.2]

theorem readToken_word {c : Char} {cs rest : List Char} (start : isWordStart c = true)
    (all : cs.all isWordChar = true) (ends : endsWord rest = true) :
    readToken (c :: (cs ++ rest)) = (.word (String.ofList (c :: cs)), rest) := by
  have stops : rest.head?.all (fun c => !isWordChar c) = true := by
    cases rest with
    | nil => rfl
    | cons d rest => simp_all [endsWord]
  -- A word that starts like a blob has no quote behind its first letter.
  have notBytes : ¬ ((c = 'x' ∨ c = 'X') ∧ (cs ++ rest).head? = some '\'') := by
    intro ⟨_, quote⟩
    cases cs with
    | nil =>
      cases rest with
      | nil => cases quote
      | cons d rest => simp_all [endsWord]
    | cons d cs =>
      obtain rfl : d = '\'' := by simpa using quote
      simp only [List.all_cons, Bool.and_eq_true] at all
      exact absurd all.1 (by decide)
  obtain ⟨taken, dropped⟩ := takeWhile_append_stop all stops
  unfold readToken
  split
  · next same => cases same
  · next same => cases same; exact absurd start (by decide)
  · next same => cases same; exact absurd start (by decide)
  · next same => cases same; exact absurd start (by decide)
  · next same => cases same; exact absurd start (by decide)
  · next same => cases same; exact absurd start (by decide)
  · next same =>
    cases same
    rw [if_neg notBytes, if_pos start, taken, dropped]

theorem isWordStart_plain {c : Char} (start : isWordStart c = true) :
    isSpace c = false ∧ c ≠ '-' ∧ c ≠ '/' ∧ c.toNat ≠ 0 := by
  refine ⟨?_, ?_, ?_, ?_⟩
  · by_contra space
    simp only [isSpace, Bool.not_eq_false, decide_eq_true_eq] at space
    rcases space with rfl | rfl | rfl | rfl | rfl <;> exact absurd start (by decide)
  · rintro rfl; exact absurd start (by decide)
  · rintro rfl; exact absurd start (by decide)
  · intro zero
    obtain rfl : c = '\x00' := Char.ext (UInt32.toNat_inj.mp zero)
    exact absurd start (by decide)

/-- A blank at the start of a text. -/
theorem lexemes_space (rest : List Char) : lexemes (' ' :: rest) = lexemes rest := by
  have same : nextLexeme? (' ' :: rest) = nextLexeme? rest := by
    rw [nextLexeme?, nextLexeme?, skipSpace]
    · rfl
    · simp
    · simp
    · simp
  rw [lexemes_eq, lexemes_eq rest, same]

theorem tokens_space (rest : List Char) : tokens (' ' :: rest) = tokens rest := by
  rw [tokens, lexemes_space, tokens]

theorem lexemes_word {word : String} (isWord : isWord word = true) {rest : List Char}
    (ends : endsWord rest = true) :
    lexemes (word.toList ++ rest) = ⟨.word word, word.toList ++ rest, rest⟩ :: lexemes rest := by
  cases letters : word.toList with
  | nil => simp [Sql.isWord, letters] at isWord
  | cons c cs =>
    simp only [Sql.isWord, letters, Bool.and_eq_true, decide_eq_true_eq] at isWord
    obtain ⟨⟨start, mark⟩, all⟩ := isWord
    obtain ⟨space, dash, slash, zero⟩ := isWordStart_plain start
    rw [lexemes_eq, List.cons_append, nextLexeme?_cons space dash slash mark zero,
      readToken_word start all ends, ← letters, String.ofList_toList]

theorem tokens_word {word : String} (isWord : isWord word = true) {rest : List Char}
    (ends : endsWord rest = true) :
    tokens (word.toList ++ rest) = .word word :: tokens rest := by
  rw [tokens, lexemes_word isWord ends, List.map_cons, tokens]

/-! ## Symbols, parameters and quotes -/

/-- The symbols that never start a longer one, but for two equality signs. -/
def isPlainSymbol (c : Char) : Bool := ['(', ')', ',', ';', '='].contains c

theorem readSymbol_plain {c : Char} (plain : isPlainSymbol c = true) {rest : List Char}
    (single : c = '=' → rest.head? ≠ some '=') :
    readSymbol (c :: rest) = (.symbol (String.ofList [c]), rest) := by
  have short : shortSymbols.contains c = true := by
    simp only [isPlainSymbol, List.contains_iff_mem, List.mem_cons, List.not_mem_nil,
      or_false] at plain
    rcases plain with rfl | rfl | rfl | rfl | rfl <;> decide
  have long : longSymbols.contains (String.ofList ((c :: rest).take 2)) = false := by
    simp only [isPlainSymbol, List.contains_iff_mem, List.mem_cons, List.not_mem_nil,
      or_false] at plain
    cases rest with
    | nil => rcases plain with rfl | rfl | rfl | rfl | rfl <;> decide
    | cons d rest =>
      rcases plain with rfl | rfl | rfl | rfl | rfl <;>
        simp_all [longSymbols, ← String.toList_inj]
  rw [readSymbol]
  simp only [long, Bool.false_eq_true, ↓reduceIte, List.head?_cons, Option.any_some, short]
  rfl

theorem lexemes_symbol {c : Char} (plain : isPlainSymbol c = true) {rest : List Char}
    (single : c = '=' → rest.head? ≠ some '=') :
    lexemes (c :: rest) = ⟨.symbol (String.ofList [c]), c :: rest, rest⟩ :: lexemes rest := by
  have read := readSymbol_plain plain single
  have token : readToken (c :: rest) = readSymbol (c :: rest) := by
    simp only [isPlainSymbol, List.contains_iff_mem, List.mem_cons, List.not_mem_nil,
      or_false] at plain
    rcases plain with rfl | rfl | rfl | rfl | rfl <;> rfl
  have next : nextLexeme? (c :: rest) =
      some ⟨(readToken (c :: rest)).1, c :: rest, (readToken (c :: rest)).2⟩ := by
    simp only [isPlainSymbol, List.contains_iff_mem, List.mem_cons, List.not_mem_nil,
      or_false] at plain
    apply nextLexeme?_cons <;> rcases plain with rfl | rfl | rfl | rfl | rfl <;> decide
  rw [lexemes_eq, next, token, read]

theorem tokens_symbol {c : Char} (plain : isPlainSymbol c = true) {rest : List Char}
    (single : c = '=' → rest.head? ≠ some '=') :
    tokens (c :: rest) = .symbol (String.ofList [c]) :: tokens rest := by
  rw [tokens, lexemes_symbol plain single, List.map_cons, tokens]

theorem tokens_parameter {rest : List Char} (ends : rest.head?.all (fun c => !c.isDigit) = true) :
    tokens ('?' :: rest) = .parameter "?" :: tokens rest := by
  have none : ([] : List Char).all Char.isDigit = true := rfl
  have digits : rest.takeWhile Char.isDigit = [] ∧ rest.dropWhile Char.isDigit = rest :=
    takeWhile_append_stop none ends
  have token : readToken ('?' :: rest) = (.parameter "?", rest) := by
    change (Token.parameter (String.ofList ('?' :: rest.takeWhile Char.isDigit)),
      rest.dropWhile Char.isDigit) = _
    rw [digits.1, digits.2]
  rw [tokens, lexemes_eq, nextLexeme?_cons (by decide) (by decide) (by decide) (by decide)
    (by decide), token, List.map_cons, tokens]

/-- What is quoted is read as it was, whatever the characters are. -/
theorem readQuoted_doubled (quote : Char) (cs out : List Char) :
    readQuoted quote out (cs.flatMap (fun c => if c = quote then [c, c] else [c]) ++ [quote]) =
      some (String.ofList (out.reverse ++ cs), []) := by
  induction cs generalizing out with
  | nil => simp [readQuoted]
  | cons c cs ih =>
    by_cases same : c = quote
    · subst same
      simp only [List.flatMap_cons, ↓reduceIte, List.cons_append, List.nil_append, readQuoted]
      rw [ih]
      simp
    · simp only [List.flatMap_cons, if_neg same, List.cons_append, List.nil_append]
      rw [readQuoted.eq_def]
      simp only [if_neg same]
      rw [ih]
      simp

theorem lexemes_quoted (text : String) {source : List Char}
    (quoted : source = '\'' :: (text.toList.flatMap
      (fun c => if c = '\'' then [c, c] else [c]) ++ ['\''])) :
    lexemes source = [⟨.text text, source, []⟩] := by
  have read := readQuoted_doubled '\'' text.toList []
  rw [List.reverse_nil, List.nil_append, String.ofList_toList] at read
  have token : readToken source = (.text text, []) := by
    rw [quoted]
    change quotedToken .text (readQuoted '\'' [] _) = _
    rw [read, quotedToken]
  have next : nextLexeme? source = some ⟨(readToken source).1, source, (readToken source).2⟩ := by
    rw [quoted]
    exact nextLexeme?_cons (by decide) (by decide) (by decide) (by decide) (by decide)
  have ends : lexemes [] = [] := by rw [lexemes_eq]; simp [nextLexeme?, skipSpace]
  rw [lexemes_eq, next, token]
  simp only [ends]

end EntityStore.Sql
