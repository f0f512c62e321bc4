import EntityStore.Text.Case

/-! # Naming convention of accessors

How methods are matched to fields that have no explicit accessors:

* `getterCandidates`, `setterCandidates` — the fields a method name may stand for, in order.
* `matchAccessors` — methods in declaration order, each taking the first field of its candidates
  that is still wanted.
* `accessorName`, `mutatorName` — the names recorded for explicit accessors.
-/

namespace EntityStore

open EntityStore.Text (lowerFirst upperFirst)

/-- What follows a given beginning of a text, if the text has that beginning and goes on. -/
def suffixAfter? (start name : String) : Option String :=
  let rest := name.toList.drop start.length
  if name.toList.take start.length = start.toList ∧ !rest.isEmpty then some (String.ofList rest)
  else none

/-- The fields that a method may read by its name. -/
def getterCandidates (method : String) : List String :=
  match suffixAfter? "is" method with
  | some suffix => [method, suffix, lowerFirst suffix]
  | none =>
    match suffixAfter? "get" method with
    | some suffix => [suffix, lowerFirst suffix]
    | none => []

/-- The fields that a method may write by its name. -/
def setterCandidates (method : String) : List String :=
  match suffixAfter? "set" method with
  | some suffix => [suffix, lowerFirst suffix, "is" ++ suffix]
  | none => []

/-- Which method reads and which writes each field, by position, and the fields left over. -/
structure AccessorMatch where
  getters : List (String × Nat)
  setters : List (String × Nat)
  missingGetters : List String
  missingSetters : List String
  deriving DecidableEq

/-- The fields still wanted and those taken so far. -/
structure MatchState where
  wantedGetters : List String
  wantedSetters : List String
  getters : List (String × Nat)
  setters : List (String × Nat)

namespace MatchState

/-- One method takes the first wanted field among its candidates, to read it if it can, else to
    write it. -/
def step (s : MatchState) (method : String × Bool) (position : Nat) : MatchState :=
  if method.2 then s
  else
    -- A method that reads a field is never looked at as one that writes.
    match (getterCandidates method.1).find? (s.wantedGetters.contains ·) with
    | some field =>
      { s with
        wantedGetters := s.wantedGetters.filter (· ≠ field)
        getters := s.getters ++ [(field, position)] }
    | none =>
      match (setterCandidates method.1).find? (s.wantedSetters.contains ·) with
      | some field =>
        { s with
          wantedSetters := s.wantedSetters.filter (· ≠ field)
          setters := s.setters ++ [(field, position)] }
      | none => s

def run (s : MatchState) : Nat → List (String × Bool) → MatchState
  | _, [] => s
  | position, method :: rest => (s.step method position).run (position + 1) rest

end MatchState

/-- Matches methods, each a name and whether it is static, to the fields expected to be read and
    to be written. -/
def matchAccessors (methods : List (String × Bool)) (getters setters : List String) :
    AccessorMatch :=
  let s := (MatchState.mk getters setters [] []).run 0 methods
  { getters := s.getters
    setters := s.setters
    missingGetters := getters.filter (s.wantedGetters.contains ·)
    missingSetters := setters.filter (s.wantedSetters.contains ·) }

/-- The name recorded for an explicit getter. -/
def accessorName (field : String) : String := "get" ++ upperFirst field

/-- The name recorded for an explicit setter. -/
def mutatorName (field : String) : String := "set" ++ upperFirst field

end EntityStore
