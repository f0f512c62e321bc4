import EntityStore.Failure
import EntityStore.Text.Quoted

/-! # Violations of the declaration rules

* `Violation` — a broken rule, with what breaks it.
* `Violation.message` — its wording.
* `Violation.toFailure` — the failure of the build that it aborts.
-/

namespace EntityStore

/-- A broken rule of declarations. -/
inductive Violation where
  | nonPrivateField (entity field : String)
  | emptyEntity (entity : String)
  | missingPrimaryKey (entity : String)
  | multiplePrimaryKeys (entity : String) (fields : List String)
  | invalidPrimaryKeyType (entity field found : String)
  | primaryKeyTypeMismatch (entity field fieldType keyType : String)
  | missingDefaultConstructor (entity : String)
  | missingAccessor (entity : String) (fields : List String)
  | missingMutator (entity : String) (fields : List String)
  | accessorTypeMismatch (entity field method reason : String)
  | duplicateField (entity field : String)
  | duplicateColumn (entity column : String)
  | unresolvedLinkField (entity relation on : String)
  | invalidLinkFieldType (entity relation on found : String)
  | unresolvedRelationTarget (entity relation target : String)
  | duplicateEntity (entity : String)
  | duplicateTable (table tag first second : String)
  deriving DecidableEq

namespace Violation

def kind : Violation → FailureKind
  | nonPrivateField .. => .nonPrivateField
  | emptyEntity .. => .emptyEntity
  | missingPrimaryKey .. => .missingPrimaryKey
  | multiplePrimaryKeys .. => .multiplePrimaryKeys
  | invalidPrimaryKeyType .. => .invalidPrimaryKeyType
  | primaryKeyTypeMismatch .. => .primaryKeyTypeMismatch
  | missingDefaultConstructor .. => .missingDefaultConstructor
  | missingAccessor .. => .missingAccessor
  | missingMutator .. => .missingMutator
  | accessorTypeMismatch .. => .accessorTypeMismatch
  | duplicateField .. => .duplicateField
  | duplicateColumn .. => .duplicateColumn
  | unresolvedLinkField .. => .unresolvedLinkField
  | invalidLinkFieldType .. => .invalidLinkFieldType
  | unresolvedRelationTarget .. => .unresolvedRelationTarget
  | duplicateEntity .. => .duplicateEntity
  | duplicateTable .. => .duplicateTable

/-- The entity at fault; of two that share a table, the second. -/
def entity : Violation → String
  | nonPrivateField entity _ => entity
  | emptyEntity entity => entity
  | missingPrimaryKey entity => entity
  | multiplePrimaryKeys entity _ => entity
  | invalidPrimaryKeyType entity _ _ => entity
  | primaryKeyTypeMismatch entity _ _ _ => entity
  | missingDefaultConstructor entity => entity
  | missingAccessor entity _ => entity
  | missingMutator entity _ => entity
  | accessorTypeMismatch entity _ _ _ => entity
  | duplicateField entity _ => entity
  | duplicateColumn entity _ => entity
  | unresolvedLinkField entity _ _ => entity
  | invalidLinkFieldType entity _ _ _ => entity
  | unresolvedRelationTarget entity _ _ => entity
  | duplicateEntity entity => entity
  | duplicateTable _ _ _ second => second

def message : Violation → String
  | nonPrivateField entity field =>
    entity ++ ": the fields of the model must be private (field " ++ field ++ ")"
  | emptyEntity entity => entity ++ " must contain at least 1 persistable field"
  | missingPrimaryKey entity => entity ++ " declares no primary key"
  | multiplePrimaryKeys entity fields =>
    entity ++ " declares more than one primary key: " ++ Text.quotedList fields
  | invalidPrimaryKeyType entity field found =>
    entity ++ ": primary key " ++ field ++ " must be a 16/32/64-bit integer, found " ++ found
  | primaryKeyTypeMismatch entity field fieldType keyType =>
    entity ++ ": primary key " ++ field ++ " is " ++ fieldType
      ++ " but the entity key type is " ++ keyType
  | missingDefaultConstructor entity =>
    entity ++ ": a default constructor with no argument must be declared"
  | missingAccessor entity fields =>
    entity ++ ": no getter found for fields " ++ Text.quotedList fields
  | missingMutator entity fields =>
    entity ++ ": no setter found for fields " ++ Text.quotedList fields
  | accessorTypeMismatch entity field method reason =>
    entity ++ ": method " ++ method ++ " does not match the type of field " ++ field ++ ": "
      ++ reason
  | duplicateField entity field => entity ++ ": field " ++ field ++ " is declared more than once"
  | duplicateColumn entity column =>
    entity ++ ": column " ++ column ++ " is mapped by more than one field"
  | unresolvedLinkField entity relation on =>
    entity ++ ": relation " ++ relation ++ " links on unknown field '" ++ on ++ "'"
  | invalidLinkFieldType entity relation on found =>
    entity ++ ": relation " ++ relation ++ " links on " ++ on ++ " of type " ++ found
      ++ "; expected an integer or text field"
  | unresolvedRelationTarget entity relation target =>
    entity ++ ": relation " ++ relation ++ " targets " ++ target ++ ", which is not registered"
  | duplicateEntity entity => entity ++ " is registered more than once"
  | duplicateTable table tag first second =>
    "table " ++ table ++ " in database '" ++ tag ++ "' is mapped by both " ++ first ++ " and "
      ++ second

/-- The failure of a build that breaks the rule. -/
def toFailure (v : Violation) : Failure :=
  { kind := v.kind, op := some "catalog", entity := some v.entity, message := v.message }

end Violation

end EntityStore
