import EntityStore.Number.Binary

/-! # TOML values

What a TOML document holds:

* `Value` — scalars, arrays and tables.
* `Value.member?` — a part of a table by its name, or of an array by its position.
-/

namespace EntityStore.Toml

/-- A value of a document. -/
inductive Value where
  | text (value : String)
  | integer (value : Int64)
  | real (value : Number.Binary64)
  | truth (value : Bool)
  /-- A date, a time of day or both, as written. -/
  | moment (written : String)
  | array (items : List Value)
  | table (entries : List (String × Value))

def Value.member? (name : String) (position : Nat) : Value → Option (Option Value)
  | table entries => some (entries.lookup name)
  | array items => some items[position]?
  | _ => none

end EntityStore.Toml
