import EntityStore.Text.CaseTable

/-! # Letter case

Upper and lower casing by the full case mappings:

* `upper`, `lower` — the mapping of one character, possibly to several.
* `lowercase` — lower casing of a whole text, where a capital sigma that ends a word becomes
  the final form.
* `upperFirst`, `lowerFirst` — casing of the first character alone.
-/

namespace EntityStore.Text

def inRanges (n : Nat) (ranges : List (Nat × Nat)) : Bool :=
  ranges.any fun r => r.1 ≤ n && n ≤ r.2

def CaseRun.map? (run : CaseRun) (n : Nat) : Option Nat :=
  if run.first ≤ n ∧ n ≤ run.last ∧ (n - run.first) % run.step = 0 then
    some ((n : Int) + run.shift).toNat
  else none

/-- The mapping of a character by lists first, then by runs, else itself. -/
def mapCase (lists : List (Nat × List Nat)) (runs : List CaseRun) (c : Char) : List Char :=
  match lists.lookup c.toNat with
  | some image => image.map Char.ofNat
  | none =>
    match runs.findSome? (·.map? c.toNat) with
    | some image => [Char.ofNat image]
    | none => [c]

def upper (c : Char) : List Char := mapCase upperLists upperRuns c

/-- Full lower case of a character, whatever stands around it. -/
def lower (c : Char) : List Char := mapCase lowerLists lowerRuns c

/-- Whether the first character that is not ignorable is a cased letter. -/
def startsCased : List Char → Bool
  | [] => false
  | c :: rest =>
    if inRanges c.toNat caseIgnorable then startsCased rest else inRanges c.toNat cased

/-- Lower case of the text `rest`, which follows the reversed text `before`.  A capital sigma
    after a cased letter and before none is the last of its word. -/
def lowerAfter (before : List Char) : List Char → List Char
  | [] => []
  | 'Σ' :: rest =>
    (if startsCased before && !startsCased rest then 'ς' else 'σ')
      :: lowerAfter ('Σ' :: before) rest
  | c :: rest => lower c ++ lowerAfter (c :: before) rest

/-- Lower case of a whole text. -/
def lowercase (s : String) : String := String.ofList (lowerAfter [] s.toList)

/-- The text with its first character in upper case. -/
def upperFirst (s : String) : String :=
  match s.toList with
  | [] => ""
  | c :: rest => String.ofList (upper c ++ rest)

/-- The text with its first character in lower case. -/
def lowerFirst (s : String) : String :=
  match s.toList with
  | [] => ""
  | c :: rest => String.ofList (lower c ++ rest)

end EntityStore.Text
