import EntityStore.Text.Case
import EntityStore.Text.UnprintableTable

/-! # Quoted text

A text between double quotes, as diagnostics show it:

* `escape` — one character: short escapes, a number for what cannot be printed, else itself.
* `quoted`, `quotedPath` — a whole text, and the path of a file.
* `quotedList` — a list of texts between brackets.
-/

namespace EntityStore.Text

/-- The lower case hexadecimal digits of a number. -/
def hexDigits (n : Nat) : List Char := Nat.toDigits 16 n

/-- A character inside double quotes. -/
def escape (c : Char) : List Char :=
  if c.toNat = 0 then ['\\', '0']
  else if c = '\t' then ['\\', 't']
  else if c = '\n' then ['\\', 'n']
  else if c = '\r' then ['\\', 'r']
  else if c = '"' then ['\\', '"']
  else if c = '\\' then ['\\', '\\']
  else if inRanges c.toNat unprintable then ['\\', 'u', '\x7b'] ++ hexDigits c.toNat ++ ['\x7d']
  else [c]

/-- A text between double quotes. -/
def quoted (s : String) : String :=
  String.ofList ('"' :: (s.toList.flatMap escape ++ ['"']))

/-- A character of a path inside double quotes: single quotes are escaped too. -/
def escapePath (c : Char) : List Char := if c = '\'' then ['\\', '\''] else escape c

def quotedPath (s : String) : String :=
  String.ofList ('"' :: (s.toList.flatMap escapePath ++ ['"']))

/-- Quoted texts between brackets, separated by commas. -/
def quotedList (ss : List String) : String := "[" ++ ", ".intercalate (ss.map quoted) ++ "]"

end EntityStore.Text
