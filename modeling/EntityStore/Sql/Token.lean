/-! # Tokens of statements

A statement text as a sequence of tokens, blanks and comments between them left out:

* `Token` — words, names and texts in quotes, numbers, parameters and symbols.
* `nextLexeme?` — the next token with the characters from its start and after its end.
* `lexemes`, `tokens` — all of them.
-/

namespace EntityStore.Sql

/-- A token of a statement. -/
inductive Token where
  /-- A name or a keyword. -/
  | word (text : String)
  /-- A name in double quotes, back quotes or brackets; `mark` is what opens it. -/
  | quotedName (mark : Char) (text : String)
  /-- A text in single quotes. -/
  | text (value : String)
  | bytes (digits : String)
  /-- Decimal digits, or hexadecimal ones after their mark. -/
  | integer (digits : String)
  /-- A number with a point or an exponent. -/
  | decimal (written : String)
  /-- A parameter mark with its number or name. -/
  | parameter (written : String)
  | symbol (text : String)
  /-- What is no token at all. -/
  | illegal
  deriving DecidableEq

/-! ## Characters -/

def isSpace (c : Char) : Bool := c = ' ' ∨ c = '\t' ∨ c = '\n' ∨ c = '\x0c' ∨ c = '\r'

def isWordStart (c : Char) : Bool := c.isAlpha ∨ c = '_' ∨ '\x80' ≤ c

def isWordChar (c : Char) : Bool := isWordStart c ∨ c.isDigit ∨ c = '$'

def isHexDigit (c : Char) : Bool := c.isDigit ∨ ('a' ≤ c ∧ c ≤ 'f') ∨ ('A' ≤ c ∧ c ≤ 'F')

/-! ## Between tokens -/

/-- What follows the end of a comment in a statement, or nothing if it has none. -/
def afterComment : List Char → List Char
  | [] => []
  | '*' :: '/' :: rest => rest
  | _ :: rest => afterComment rest

def skipSpace (cs : List Char) : List Char :=
  match cs with
  | [] => []
  | '-' :: '-' :: rest => skipSpace (rest.dropWhile (· ≠ '\n'))
  | '/' :: '*' :: c :: rest =>
    let after := afterComment (c :: rest)
    if after.length < rest.length + 3 then skipSpace after else cs
  | '\ufeff' :: rest => skipSpace rest
  | c :: rest => if isSpace c then skipSpace rest else cs
termination_by cs.length
decreasing_by
  · have := (List.dropWhile_suffix (fun c => decide (c ≠ '\n')) (l := rest)).length_le
    simp only [List.length_cons]
    omega
  · simp only [List.length_cons]
    omega
  · simp
  · simp

/-! ## Tokens -/

/-- A text up to its closing quote, which stands twice inside; the text and what follows, if it is
    closed.

    The character with number zero is taken for any other here, where SQLite would find the quote not closed:
    the texts that the store writes have it only where a secret has it. -/
def readQuoted (quote : Char) (out : List Char) : List Char → Option (String × List Char)
  | [] => none
  | c :: rest =>
    if c = quote then
      match rest with
      | d :: more => if d = quote then readQuoted quote (quote :: out) more
        else some (String.ofList out.reverse, rest)
      | [] => some (String.ofList out.reverse, [])
    else readQuoted quote (c :: out) rest

def readBracketed (cs : List Char) : Option (String × List Char) :=
  match cs.dropWhile (· ≠ ']') with
  | _ :: rest => some (String.ofList (cs.takeWhile (· ≠ ']')), rest)
  | [] => none

def quotedToken (make : String → Token) (read : Option (String × List Char)) :
    Token × List Char :=
  match read with
  | some (text, rest) => (make text, rest)
  | none => (.illegal, [])

def splitExponent (cs : List Char) : List Char × List Char :=
  match cs with
  | mark :: rest =>
    if mark = 'e' ∨ mark = 'E' then
      match rest with
      | c :: more =>
        if c.isDigit then (mark :: rest.takeWhile Char.isDigit, rest.dropWhile Char.isDigit)
        else if (c = '+' ∨ c = '-') ∧ (more.head?.any Char.isDigit) then
          (mark :: c :: more.takeWhile Char.isDigit, more.dropWhile Char.isDigit)
        else ([], cs)
      | [] => ([], cs)
    else ([], cs)
  | [] => ([], cs)

/-- A decimal number and what follows; illegal if a word character follows. -/
def readNumber (cs : List Char) : Token × List Char :=
  let whole := cs.takeWhile Char.isDigit
  let rest := cs.dropWhile Char.isDigit
  let (fraction, rest) :=
    match rest with
    | '.' :: more => ('.' :: more.takeWhile Char.isDigit, more.dropWhile Char.isDigit)
    | rest => ([], rest)
  let (exponent, rest) := splitExponent rest
  let more := rest.takeWhile isWordChar
  if !more.isEmpty then (.illegal, rest.dropWhile isWordChar)
  else if fraction.isEmpty && exponent.isEmpty then (.integer (String.ofList whole), rest)
  else (.decimal (String.ofList (whole ++ fraction ++ exponent)), rest)

def readParameter (mark : Char) (cs : List Char) : Token × List Char :=
  let name := cs.takeWhile isWordChar
  (if name.isEmpty then .illegal else .parameter (String.ofList (mark :: name)),
    cs.dropWhile isWordChar)

/-- The digits of a blob after its opening quote. -/
def readBytes (cs : List Char) : Token × List Char :=
  let digits := cs.takeWhile isHexDigit
  match cs.dropWhile isHexDigit with
  | '\'' :: rest =>
    if digits.length % 2 = 0 then (.bytes (String.ofList digits), rest) else (.illegal, rest)
  | rest => (.illegal, (rest.dropWhile (· ≠ '\'')).drop 1)

def longSymbols : List String := ["==", "<=", "<>", "<<", ">=", ">>", "!=", "||", "->"]

def shortSymbols : List Char :=
  ['(', ')', ';', '+', '-', '*', '/', '%', '=', '<', '>', '|', ',', '&', '~', '.']

def readSymbol (cs : List Char) : Token × List Char :=
  let long := String.ofList (cs.take 2)
  if longSymbols.contains long then (.symbol long, cs.drop 2)
  else if cs.head?.any shortSymbols.contains then (.symbol (String.ofList (cs.take 1)), cs.drop 1)
  else (.illegal, cs.drop 1)

def readToken (cs : List Char) : Token × List Char :=
  match cs with
  | [] => (.illegal, [])
  | '\'' :: rest => quotedToken .text (readQuoted '\'' [] rest)
  | '"' :: rest => quotedToken (.quotedName '"') (readQuoted '"' [] rest)
  | '\x60' :: rest => quotedToken (.quotedName '\x60') (readQuoted '\x60' [] rest)
  | '[' :: rest => quotedToken (.quotedName '[') (readBracketed rest)
  | '?' :: rest =>
    (.parameter (String.ofList ('?' :: rest.takeWhile Char.isDigit)), rest.dropWhile Char.isDigit)
  | c :: rest =>
    if (c = 'x' ∨ c = 'X') ∧ rest.head? = some '\'' then readBytes (rest.drop 1)
    else if isWordStart c then
      (.word (String.ofList (c :: rest.takeWhile isWordChar)), rest.dropWhile isWordChar)
    else if c = '0' ∧ (rest.head? = some 'x' ∨ rest.head? = some 'X')
        ∧ (rest.drop 1).head?.any isHexDigit then
      let digits := (rest.drop 1).takeWhile isHexDigit
      (.integer (String.ofList ('0' :: 'x' :: digits)), (rest.drop 1).dropWhile isHexDigit)
    else if c.isDigit ∨ (c = '.' ∧ rest.head?.any Char.isDigit) then readNumber cs
    else if c = '$' ∨ c = '@' ∨ c = '#' ∨ c = ':' then readParameter c rest
    else readSymbol cs

/-! ## Whole texts -/

structure Lexeme where
  token : Token
  /-- The characters from its start on. -/
  source : List Char
  /-- The characters after its end. -/
  after : List Char

/-- The next token of a text; a text ends early at the character with number zero. -/
def nextLexeme? (cs : List Char) : Option Lexeme :=
  match skipSpace cs with
  | [] => none
  | source@(c :: _) =>
    if c.toNat = 0 then none
    else
      let (token, after) := readToken source
      some ⟨token, source, after⟩

/-- The tokens of a text in their places. -/
def lexemes (cs : List Char) : List Lexeme :=
  match nextLexeme? cs with
  | none => []
  | some lexeme =>
    if lexeme.after.length < cs.length then lexeme :: lexemes lexeme.after else [lexeme]
termination_by cs.length

def tokens (cs : List Char) : List Token := (lexemes cs).map (·.token)

end EntityStore.Sql
