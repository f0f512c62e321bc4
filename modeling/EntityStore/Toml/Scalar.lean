import EntityStore.Number.Decimal
import EntityStore.Number.Hexadecimal
import EntityStore.Toml.Value

/-! # TOML scalars

Readers of the smallest parts of a document.  Each takes the characters from some place on and
gives what it has read with the characters after it:

* `skipBlanks`, `skipLines` — what stands between values.
* `readString?`, `readKeyPart?` — text in its four forms, and one part of a key.
* `readWord?` — numbers, truth values, dates and times.
-/

namespace EntityStore.Toml

open EntityStore.Number (int64? isDigit ofDigits readBinary64? splitSign withSign binary64)

/-! ## Between values -/

/-- Whether a character may stand in a comment or, its delimiters apart, in a text. -/
def isPlain (c : Char) : Bool := c = '\t' ∨ (' ' ≤ c ∧ c ≠ '\x7f')

/-- The characters after spaces and tabs. -/
def skipBlanks (cs : List Char) : List Char := cs.dropWhile fun c => c = ' ' ∨ c = '\t'

def skipComment : List Char → List Char
  | '#' :: rest => rest.dropWhile isPlain
  | cs => cs

def readLineEnd? : List Char → Option (List Char)
  | '\n' :: rest => some rest
  | '\r' :: '\n' :: rest => some rest
  | _ => none

/-- The characters after blanks and line ends. -/
def skipGaps : List Char → List Char
  | ' ' :: rest => skipGaps rest
  | '\t' :: rest => skipGaps rest
  | '\n' :: rest => skipGaps rest
  | '\r' :: '\n' :: rest => skipGaps rest
  | cs => cs

/-- The characters after blanks, line ends and comments, which fill any number of lines. -/
def skipLines : Nat → List Char → List Char
  | 0, cs => cs
  | lines + 1, cs =>
    let rest := skipComment (skipBlanks cs)
    match readLineEnd? rest with
    | some rest => skipLines lines rest
    | none => rest

/-! ## Text -/

def readCodePoint? (count : Nat) (cs : List Char) : Option (Char × List Char) := do
  let digits := cs.take count
  let n ← if digits.length = count then Number.readHex? digits else none
  if n.isValidChar then some (Char.ofNat n, cs.drop count) else none

def readEscape? : List Char → Option (Char × List Char)
  | 'b' :: rest => some ('\x08', rest)
  | 't' :: rest => some ('\t', rest)
  | 'n' :: rest => some ('\n', rest)
  | 'f' :: rest => some ('\x0c', rest)
  | 'r' :: rest => some ('\r', rest)
  | '"' :: rest => some ('"', rest)
  | '\\' :: rest => some ('\\', rest)
  | 'u' :: rest => readCodePoint? 4 rest
  | 'U' :: rest => readCodePoint? 8 rest
  | _ => none

/-- Text up to a double quote, with escapes. -/
def readBasic? : Nat → List Char → List Char → Option (String × List Char)
  | 0, _, _ => none
  | fuel + 1, out, cs =>
    match cs with
    | '"' :: rest => some (String.ofList out.reverse, rest)
    | '\\' :: rest => do
      let (c, rest) ← readEscape? rest
      readBasic? fuel (c :: out) rest
    | c :: rest => if isPlain c then readBasic? fuel (c :: out) rest else none
    | [] => none

/-- Text up to a single quote, as it stands. -/
def readLiteral? (cs : List Char) : Option (String × List Char) :=
  let (inside, rest) := cs.span fun c => isPlain c ∧ c ≠ '\''
  match rest with
  | '\'' :: rest => some (String.ofList inside, rest)
  | _ => none

/-- How many times a character is repeated at the start. -/
def countOf (quote : Char) (cs : List Char) : Nat := (cs.takeWhile (· = quote)).length

/-- Text of several lines up to three quotes of a kind; up to two more quotes before them belong
    to it.  With escapes, a backslash at the end of a line takes the blanks and line ends after
    it away. -/
def readLong? (quote : Char) (escapes : Bool) :
    Nat → List Char → List Char → Option (String × List Char)
  | 0, _, _ => none
  | fuel + 1, out, cs =>
    let quotes := countOf quote cs
    if 3 ≤ quotes then
      let taken := min quotes 5
      let inside := List.replicate (taken - 3) quote
      some (String.ofList (out.reverse ++ inside), cs.drop taken)
    else
      match readLineEnd? cs with
      | some rest => readLong? quote escapes fuel ('\n' :: out) rest
      | none =>
        match cs with
        | [] => none
        | c :: rest =>
          if escapes ∧ c = '\\' then
            match readLineEnd? (skipBlanks rest) with
            | some rest => readLong? quote escapes fuel out (skipGaps rest)
            | none => do
              let (c, rest) ← readEscape? rest
              readLong? quote escapes fuel (c :: out) rest
          else if isPlain c then readLong? quote escapes fuel (c :: out) rest
          else none

/-- The start of a text of several lines: a line end right after the quotes is not part of it. -/
def skipFirstLineEnd (cs : List Char) : List Char := (readLineEnd? cs).getD cs

/-- Text in any of its four forms. -/
def readString? (cs : List Char) : Option (String × List Char) :=
  match cs with
  | '"' :: '"' :: '"' :: rest => readLong? '"' true cs.length [] (skipFirstLineEnd rest)
  | '\'' :: '\'' :: '\'' :: rest => readLong? '\'' false cs.length [] (skipFirstLineEnd rest)
  | '"' :: rest => readBasic? cs.length [] rest
  | '\'' :: rest => readLiteral? rest
  | _ => none

/-- Whether a character may stand in a key without quotes. -/
def isKeyChar (c : Char) : Bool := c.isAlphanum ∨ c = '_' ∨ c = '-'

/-- One part of a key: a text of one line, or letters, digits, underscores and hyphens. -/
def readKeyPart? (cs : List Char) : Option (String × List Char) :=
  match cs with
  | '"' :: rest => readBasic? cs.length [] rest
  | '\'' :: rest => readLiteral? rest
  | _ =>
    let (name, rest) := cs.span isKeyChar
    if name.isEmpty then none else some (String.ofList name, rest)

/-- The further parts of a dotted key, each after a point. -/
def readKeyRest? : Nat → List String → List Char →
    Option (List String × List Char)
  | 0, _, _ => none
  | fuel + 1, out, cs =>
    match skipBlanks cs with
    | '.' :: rest => do
      let (part, rest) ← readKeyPart? (skipBlanks rest)
      readKeyRest? fuel (part :: out) rest
    | rest => some (out.reverse, rest)

def readKey? (limit : Nat) (cs : List Char) : Option (List String × List Char) := do
  let (part, rest) ← readKeyPart? (skipBlanks cs)
  readKeyRest? limit [part] rest

/-! ## Numbers -/

/-- Digits with single underscores between them, without the underscores. -/
def readGroups? (accepts : Char → Bool) (cs : List Char) : Option (List Char) :=
  let groups := Text.splitChars '_' cs
  if groups.all fun g => !g.isEmpty ∧ g.all accepts then some groups.flatten else none

/-- Decimal digits without a leading zero. -/
def readWhole? (cs : List Char) : Option (List Char) := do
  let digits ← readGroups? isDigit cs
  if digits.length = 1 ∨ digits.head? ≠ some '0' then some digits else none

def readBased? (base : Nat) (cs : List Char) : Option Int64 := do
  let accepts (c : Char) : Bool := (Number.hexValue? c).any (· < base)
  let digits ← readGroups? accepts cs
  int64? (digits.foldl (fun n c => base * n + (Number.hexValue? c).getD 0) 0 : Nat)

/-- An integer: decimal with an optional sign, or of another base after its mark. -/
def readInteger? (cs : List Char) : Option Int64 :=
  match cs with
  | '0' :: 'x' :: rest => readBased? 16 rest
  | '0' :: 'o' :: rest => readBased? 8 rest
  | '0' :: 'b' :: rest => readBased? 2 rest
  | _ => do
    let (negative, rest) := splitSign cs
    int64? (withSign negative (ofDigits (← readWhole? rest)))

def readExponent? : List Char → Option (List Char)
  | [] => some []
  | mark :: rest =>
    if mark = 'e' ∨ mark = 'E' then do
      let (negative, digits) := splitSign rest
      let digits ← readGroups? isDigit digits
      some ('e' :: (if negative then '-' :: digits else digits))
    else none

def isExponentMark (c : Char) : Bool := c = 'e' ∨ c = 'E'

/-- A number with a fraction or an exponent, underscores taken out. -/
def readFraction? (cs : List Char) : Option (List Char) := do
  let (whole, rest) := cs.span fun c => c ≠ '.' ∧ !isExponentMark c
  let whole ← readWhole? whole
  match rest with
  | '.' :: rest =>
    let (fraction, exponent) := rest.span fun c => !isExponentMark c
    some (whole ++ '.' :: (← readGroups? isDigit fraction) ++ (← readExponent? exponent))
  | [] => none
  | exponent => some (whole ++ (← readExponent? exponent))

/-- A real number; one that would be read as positive infinity is refused, unless it is the word
    for it. -/
def readReal? (cs : List Char) : Option Number.Binary64 := do
  let (negative, rest) := splitSign cs
  if rest = ['i', 'n', 'f'] then some (.ofParts negative binary64.infinity)
  else if rest = ['n', 'a', 'n'] then some .nan
  else
    let x ← readBinary64? (← readFraction? rest)
    if x.isInfinite ∧ !negative then none else some (.ofParts negative x.magnitude)

/-! ## Dates and times -/

/-- Exactly so many digits, as a number within bounds. -/
def readDigits? (count first last : Nat) (cs : List Char) : Option (Nat × List Char) :=
  let digits := cs.take count
  let n := ofDigits digits
  if digits.length = count ∧ digits.all isDigit ∧ first ≤ n ∧ n ≤ last then
    some (n, cs.drop count)
  else none

def readMark? (mark : Char) : List Char → Option (List Char)
  | [] => none
  | c :: rest => if c = mark then some rest else none

def daysIn (year month : Nat) : Nat :=
  match month with
  | 2 => if year % 4 = 0 ∧ (year % 100 ≠ 0 ∨ year % 400 = 0) then 29 else 28
  | 4 | 6 | 9 | 11 => 30
  | _ => 31

def skipDate? (cs : List Char) : Option (List Char) := do
  let (year, cs) ← readDigits? 4 0 9999 cs
  let (month, cs) ← readDigits? 2 1 12 (← readMark? '-' cs)
  let (_, cs) ← readDigits? 2 1 (daysIn year month) (← readMark? '-' cs)
  some cs

def skipTime? (cs : List Char) : Option (List Char) := do
  let (_, cs) ← readDigits? 2 0 23 cs
  let (_, cs) ← readDigits? 2 0 59 (← readMark? ':' cs)
  let (_, cs) ← readDigits? 2 0 60 (← readMark? ':' cs)
  match cs with
  | '.' :: rest =>
    if (rest.takeWhile isDigit).isEmpty then none else some (rest.dropWhile isDigit)
  | cs => some cs

/-- Whether the characters are an offset from universal time, or nothing. -/
def isOffset (cs : List Char) : Bool :=
  match cs with
  | [] => true
  | [mark] => mark = 'Z' ∨ mark = 'z'
  | sign :: rest =>
    (sign = '+' ∨ sign = '-') ∧ ((do
      let (_, rest) ← readDigits? 2 0 23 rest
      let (_, rest) ← readDigits? 2 0 59 (← readMark? ':' rest)
      if rest.isEmpty then some () else none) : Option Unit).isSome

def isMoment (cs : List Char) : Bool :=
  match skipDate? cs with
  | some [] => true
  | some (mark :: rest) =>
    (mark = 'T' ∨ mark = 't' ∨ mark = ' ') ∧ ((skipTime? rest).map isOffset).getD false
  | none => (skipTime? cs).map List.isEmpty = some true

/-! ## Words -/

/-- Whether a character may stand in a number, a truth value, a date or a time. -/
def isWordChar (c : Char) : Bool := isKeyChar c ∨ c = '+' ∨ c = '.' ∨ c = ':'

/-- The characters of a word, and those after it.  A blank between a date and a time belongs to
    the word. -/
def splitWord (cs : List Char) : List Char × List Char :=
  let (word, rest) := cs.span isWordChar
  match rest with
  | ' ' :: c :: more =>
    if skipDate? word = some [] ∧ isDigit c then
      let (time, rest) := (c :: more).span isWordChar
      (word ++ ' ' :: time, rest)
    else (word, rest)
  | _ => (word, rest)

def wordValue? (word : List Char) : Option Value :=
  if word = ['t', 'r', 'u', 'e'] then some (.truth true)
  else if word = ['f', 'a', 'l', 's', 'e'] then some (.truth false)
  else if isMoment word then some (.moment (String.ofList word))
  else
    match readInteger? word with
    | some n => some (.integer n)
    | none => (readReal? word).map .real

/-- A number, a truth value, a date or a time. -/
def readWord? (cs : List Char) : Option (Value × List Char) :=
  let (word, rest) := splitWord cs
  (wordValue? word).map fun v => (v, rest)

end EntityStore.Toml
