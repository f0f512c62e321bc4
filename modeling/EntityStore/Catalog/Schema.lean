import EntityStore.Model.Declaration

/-! # Schemas

The persistent shape of an entity, after its declaration has been checked:

* `FieldSpec`, `RelationSpec`, `EntitySchema` — columns, relations and the whole.
* `EntitySchema.keyField?` — the primary key.
-/

namespace EntityStore

/-- One column of an entity. -/
structure FieldSpec where
  name : String
  column : String
  semantic : SemanticType
  primaryKey : Bool
  index : Bool
  accessor : String
  mutator : String
  deriving DecidableEq

/-- One relation of an entity. -/
structure RelationSpec where
  name : String
  cardinality : Cardinality
  target : String
  targetTable : String
  targetPrimaryKey : String
  linkField : String
  linkType : SemanticType
  accessor : String
  mutator : String
  deriving DecidableEq

/-- The persistent shape of an entity. -/
structure EntitySchema where
  qualifiedName : String
  table : String
  tag : String
  fields : List FieldSpec
  primaryKey : String
  relations : List RelationSpec
  deriving DecidableEq

namespace EntitySchema

/-- The position of the primary key among the fields; the first position if there is none. -/
def primaryKeyIndex (s : EntitySchema) : Nat := (s.fields.findIdx? (·.primaryKey)).getD 0

/-- The primary key field, by default the first. -/
def keyField? (s : EntitySchema) : Option FieldSpec := s.fields[s.primaryKeyIndex]?

def field? (s : EntitySchema) (name : String) : Option FieldSpec :=
  s.fields.find? (·.name = name)

def relation? (s : EntitySchema) (name : String) : Option RelationSpec :=
  s.relations.find? (·.name = name)

end EntitySchema

end EntityStore
