/-! # Descriptions

What tools are told about schemas, plans and reports: nested parts with names, ready to be written
in any notation for data.
-/

namespace EntityStore

inductive Description where
  | absent
  | truth (value : Bool)
  | number (value : Int)
  | text (value : String)
  | list (items : List Description)
  | parts (entries : List (String × Description))

namespace Description

def texts (items : List String) : Description := list (items.map text)

def optional {α : Type} (describe : α → Description) : Option α → Description
  | none => absent
  | some a => describe a

end Description

end EntityStore
