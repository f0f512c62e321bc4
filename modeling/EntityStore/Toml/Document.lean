import EntityStore.Toml.Scalar

/-! # TOML documents

* `Node` — a document while it is read: a table remembers what has opened it, which decides what
  may still be added to it.
* `insertKey?`, `openTable?`, `openItem?` — a key with its value, and the two kinds of header.
* `readDocument?` — the top table of a document.
-/

namespace EntityStore.Toml

/-- What has opened a table. -/
inductive Origin where
  /-- A header below it names it on the way. -/
  | passed
  /-- A dotted key leads through it. -/
  | dotted
  /-- It has a header of its own. -/
  | headed
  deriving DecidableEq

/-- A part of a document while it is read. -/
inductive Node where
  | value (v : Value)
  | table (origin : Origin) (entries : List (String × Node))
  /-- The tables under one header that is repeated, the last first. -/
  | tables (items : List (List (String × Node)))

abbrev Entries := List (String × Node)

mutual

def Node.toValue : Node → Value
  | .value v => v
  | .table _ entries => .table (entryValues entries)
  | .tables items => .array (itemValues items).reverse

def entryValues : List (String × Node) → List (String × Value)
  | [] => []
  | (name, node) :: rest => (name, node.toValue) :: entryValues rest

def itemValues : List (List (String × Node)) → List Value
  | [] => []
  | entries :: rest => .table (entryValues entries) :: itemValues rest

end

/-- Entries with the one under a name replaced, or added at the end. -/
def put (name : String) (node : Node) : Entries → Entries
  | [] => [(name, node)]
  | (n, old) :: rest => if n = name then (name, node) :: rest else (n, old) :: put name node rest

/-! ## Adding to a table -/

/-- Adds a value under a dotted key.  A key may go through tables that no header has opened, and
    ends in one that dotted keys have opened. -/
def insertKey? (path : List String) (v : Value) (entries : Entries) : Option Entries :=
  match path with
  | [] => none
  | [name] => if (entries.lookup name).isSome then none else some (put name (.value v) entries)
  | name :: rest => do
    let last := rest.length = 1
    match entries.lookup name with
    | none => some (put name (.table .dotted (← insertKey? rest v [])) entries)
    | some (.table .dotted inner) =>
      some (put name (.table .dotted (← insertKey? rest v inner)) entries)
    -- A table that a header has only passed through may hold further tables, but no new keys.
    | some (.table .passed inner) =>
      if last then none else some (put name (.table .passed (← insertKey? rest v inner)) entries)
    | some (.tables (inner :: items)) =>
      if last then none else some (put name (.tables ((← insertKey? rest v inner) :: items)) entries)
    | some _ => none

/-- Changes the entries of the table that a path leads to, through tables and the last of
    repeated ones; what is missing is opened on the way. -/
def changeAt? (change : Entries → Option Entries) (path : List String) (entries : Entries) :
    Option Entries :=
  match path with
  | [] => change entries
  | name :: rest => do
    match entries.lookup name with
    | none => some (put name (.table .passed (← changeAt? change rest [])) entries)
    | some (.table origin inner) =>
      some (put name (.table origin (← changeAt? change rest inner)) entries)
    | some (.tables (inner :: items)) =>
      some (put name (.tables ((← changeAt? change rest inner) :: items)) entries)
    | some _ => none

/-- Opens a table by its own header, which it may have only once. -/
def openTable? (path : List String) (entries : Entries) : Option Entries :=
  match path.getLast? with
  | none => none
  | some name =>
    changeAt? (fun inner =>
      match inner.lookup name with
      | none => some (put name (.table .headed []) inner)
      | some (.table .passed below) => some (put name (.table .headed below) inner)
      | some _ => none) path.dropLast entries

/-- Opens one more of the tables under a repeated header. -/
def openItem? (path : List String) (entries : Entries) : Option Entries :=
  match path.getLast? with
  | none => none
  | some name =>
    changeAt? (fun inner =>
      match inner.lookup name with
      | none => some (put name (.tables [[]]) inner)
      | some (.tables items) => some (put name (.tables ([] :: items)) inner)
      | some _ => none) path.dropLast entries

/-! ## Values -/

/-- How deep arrays and tables may stand in each other within one value, and how many parts a key
    may have. -/
def nestingLimit : Nat := 79

mutual

/-- A value; arrays and tables in it stand at most `depth` deep. -/
def readValue? (fuel depth : Nat) (cs : List Char) : Option (Value × List Char) :=
  match fuel with
  | 0 => none
  | fuel + 1 =>
    match cs with
    | '[' :: rest => if depth = 0 then none else readItems? fuel (depth - 1) [] rest
    | '\x7b' :: rest => if depth = 0 then none else readInline? fuel (depth - 1) rest
    | c :: _ =>
      if c = '"' ∨ c = '\'' then (readString? cs).map fun (s, rest) => (.text s, rest)
      else readWord? cs
    | [] => none

/-- The items of an array up to its closing bracket; a comma may follow the last. -/
def readItems? (fuel depth : Nat) (out : List Value) (cs : List Char) : Option (Value × List Char) :=
  match fuel with
  | 0 => none
  | fuel + 1 =>
    match skipLines cs.length cs with
    | ']' :: rest => some (.array out.reverse, rest)
    | cs => do
      let (v, cs) ← readValue? fuel depth cs
      match skipLines cs.length cs with
      | ',' :: rest => readItems? fuel depth (v :: out) rest
      | ']' :: rest => some (.array (v :: out).reverse, rest)
      | _ => none

/-- A table within a line, after its opening brace. -/
def readInline? (fuel depth : Nat) (cs : List Char) : Option (Value × List Char) :=
  match fuel with
  | 0 => none
  | fuel + 1 =>
    match skipBlanks cs with
    | '\x7d' :: rest => some (.table [], rest)
    | cs => readMembers? fuel depth [] cs

/-- The members of a table within a line up to its closing brace. -/
def readMembers? (fuel depth : Nat) (entries : Entries) (cs : List Char) : Option (Value × List Char) :=
  match fuel with
  | 0 => none
  | fuel + 1 => do
    let (path, cs) ← readKey? nestingLimit cs
    let (v, cs) ← readValue? fuel depth (skipBlanks (← readMark? '=' cs))
    let entries ← insertKey? path v entries
    match skipBlanks cs with
    | ',' :: rest => readMembers? fuel depth entries rest
    | '\x7d' :: rest => some (.table (entryValues entries), rest)
    | _ => none

end

/-! ## Lines -/

/-- A document while it is read, and the table that keys are added to. -/
structure Progress where
  root : Entries
  current : List String

def readAssignment? (p : Progress) (cs : List Char) : Option (Progress × List Char) := do
  let (path, cs) ← readKey? nestingLimit cs
  let cs := skipBlanks (← readMark? '=' cs)
  let (v, cs) ← readValue? (2 * cs.length + 2) nestingLimit cs
  let root ← changeAt? (insertKey? path v) p.current p.root
  some ({ p with root := root }, cs)

def readHeader? (p : Progress) (cs : List Char) : Option (Progress × List Char) := do
  match cs with
  | '[' :: '[' :: rest =>
    let (path, rest) ← readKey? nestingLimit rest
    let rest ← readMark? ']' (← readMark? ']' rest)
    some (⟨← openItem? path p.root, path⟩, rest)
  | '[' :: rest =>
    let (path, rest) ← readKey? nestingLimit rest
    let rest ← readMark? ']' rest
    some (⟨← openTable? path p.root, path⟩, rest)
  | _ => none

/-- What stands on one line before its comment. -/
def readStatement? (p : Progress) (cs : List Char) : Option (Progress × List Char) :=
  match cs with
  | [] => some (p, cs)
  | '\n' :: _ | '\r' :: _ | '#' :: _ => some (p, cs)
  | '[' :: _ => readHeader? p cs
  | _ => readAssignment? p cs

/-- The lines of a document, at most as many as given. -/
def readLines? : Nat → Progress → List Char → Option Progress
  | 0, _, _ => none
  | lines + 1, p, cs => do
    let (p, cs) ← readStatement? p (skipBlanks cs)
    match skipComment (skipBlanks cs) with
    | [] => some p
    | cs => readLines? lines p (← readLineEnd? cs)

def skipEncodingMark : List Char → List Char
  | '\ufeff' :: rest => rest
  | cs => cs

def readDocument? (text : String) : Option Value := do
  let cs := skipEncodingMark text.toList
  let p ← readLines? (cs.length + 1) ⟨[], []⟩ cs
  some (.table (entryValues p.root))

end EntityStore.Toml
