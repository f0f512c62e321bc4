import EntityStore.Catalog.Schema
import EntityStore.Catalog.Violation

/-! # Checks of declarations

* `checkDeclaration` — the rules that one declaration has to keep, in order.
* `checkUniqueTables` — no two entities of one database share a table.
-/

namespace EntityStore

def firstRepeated? {α : Type} [DecidableEq α] (seen : List α) : List α → Option α
  | [] => none
  | a :: rest => if a ∈ seen then some a else firstRepeated? (a :: seen) rest

namespace Model

variable (m : Model)

def memberNames : List String := m.fields.map (·.name) ++ m.relations.map (·.name)

def publicNames : List String :=
  (m.fields.filter (·.isPublic)).map (·.name) ++ (m.relations.filter (·.isPublic)).map (·.name)

def checkVisibility : Except Violation Unit :=
  match m.publicNames with
  | [] => .ok ()
  | name :: _ => .error (.nonPrivateField m.qualifiedName name)

def checkNames : Except Violation Unit :=
  match firstRepeated? [] m.memberNames with
  | none => .ok ()
  | some name => .error (.duplicateField m.qualifiedName name)

def checkColumns : Except Violation Unit :=
  match firstRepeated? [] (m.fields.map (·.columnName)) with
  | none => .ok ()
  | some column => .error (.duplicateColumn m.qualifiedName column)

def checkNonEmpty : Except Violation Unit :=
  if m.fields.isEmpty then .error (.emptyEntity m.qualifiedName) else .ok ()

/-- Exactly one field is the primary key, and it has the key type of the entity. -/
def checkPrimaryKey : Except Violation Unit :=
  match m.fields.filter (·.primaryKey) with
  | [] => .error (.missingPrimaryKey m.qualifiedName)
  | [key] =>
    if !key.semantic.isKey then
      .error (.invalidPrimaryKeyType m.qualifiedName key.name key.semantic.name)
    else if key.semantic ≠ m.keyType.semantic then
      .error (.primaryKeyTypeMismatch m.qualifiedName key.name key.semantic.name
        m.keyType.semantic.name)
    else .ok ()
  | keys => .error (.multiplePrimaryKeys m.qualifiedName (keys.map (·.name)))

def checkConstructor : Except Violation Unit :=
  match m.initial with
  | some _ => .ok ()
  | none => .error (.missingDefaultConstructor m.qualifiedName)

def checkLink (r : RelationDeclaration) : Except Violation Unit :=
  match m.fields.find? (·.name = r.on) with
  | none => .error (.unresolvedLinkField m.qualifiedName r.name r.on)
  | some field =>
    if field.semantic.isLink then .ok ()
    else .error (.invalidLinkFieldType m.qualifiedName r.name r.on field.semantic.name)

/-- The rules of one declaration, the first broken one first. -/
def checkDeclaration : Except Violation Unit := do
  m.checkVisibility
  m.checkNames
  m.checkColumns
  m.checkNonEmpty
  m.checkPrimaryKey
  m.checkConstructor
  m.relations.forM m.checkLink

end Model

/-- The schema before a given one that is on the same table of the same database. -/
def tableOwner? (seen : List EntitySchema) (s : EntitySchema) : Option EntitySchema :=
  seen.find? fun t => t.tag = s.tag ∧ t.table = s.table

/-- Walks schemas with those already seen, the latest first. -/
def checkTablesAfter (seen : List EntitySchema) : List EntitySchema → Except Violation Unit
  | [] => .ok ()
  | s :: rest =>
    match tableOwner? seen s with
    | some owner => .error (.duplicateTable s.table s.tag owner.qualifiedName s.qualifiedName)
    | none => checkTablesAfter (s :: seen) rest

/-- No two schemas are on the same table of the same database. -/
def checkUniqueTables (schemas : List EntitySchema) : Except Violation Unit :=
  checkTablesAfter [] schemas

end EntityStore
