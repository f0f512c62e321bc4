import EntityStore.Catalog.Basic
import EntityStore.Description

/-! # Manifests

Descriptions of schemas and plans, and of a whole compiled catalog:

* `EntitySchema.describe`, `MappingPlan.describe` — a schema and a plan by their parts.
* `CompiledCatalog.manifest` — every schema with the statements made from it.
-/

namespace EntityStore

open Description (texts)

def SemanticType.label (t : SemanticType) : String :=
  match t.name.toList with
  | [] => ""
  | c :: rest => String.ofList (c.toUpper :: rest)

def SemanticType.all : List SemanticType :=
  [.int8, .int16, .int32, .int64, .float32, .float64, .bool, .text, .timestamp, .blob]

def SemanticType.ofLabel? (label : String) : Option SemanticType :=
  SemanticType.all.find? (·.label = label)

def Affinity.label : Affinity → String
  | integer => "Integer"
  | real => "Real"
  | text => "Text"
  | blob => "Blob"

def FieldSpec.describe (f : FieldSpec) : Description :=
  .parts [
    ("name", .text f.name), ("column", .text f.column), ("semantic", .text f.semantic.label),
    ("primary_key", .truth f.primaryKey), ("index", .truth f.index),
    ("accessor", .text f.accessor), ("mutator", .text f.mutator)]

def RelationSpec.describe (r : RelationSpec) : Description :=
  .parts [
    ("name", .text r.name), ("cardinality", .text r.cardinality.name), ("target", .text r.target),
    ("target_table", .text r.targetTable), ("target_primary_key", .text r.targetPrimaryKey),
    ("link_field", .text r.linkField), ("link_type", .text r.linkType.label),
    ("accessor", .text r.accessor), ("mutator", .text r.mutator)]

def EntitySchema.describe (s : EntitySchema) : Description :=
  .parts [
    ("qualified_name", .text s.qualifiedName), ("table", .text s.table), ("tag", .text s.tag),
    ("fields", .list (s.fields.map FieldSpec.describe)), ("primary_key", .text s.primaryKey),
    ("relations", .list (s.relations.map RelationSpec.describe))]

def ColumnPlan.describe (c : ColumnPlan) : Description :=
  .parts [
    ("field", .text c.field), ("column", .text c.column), ("semantic", .text c.semantic.label),
    ("affinity", .text c.affinity.label), ("bind", .text c.bind.name),
    ("decode", .text c.decode.name), ("primary_key", .truth c.primaryKey),
    ("index", .truth c.index)]

def RelationPlan.describe (r : RelationPlan) : Description :=
  .parts [
    ("name", .text r.name), ("cardinality", .text r.cardinality.name),
    ("strategy", .text r.strategy.name), ("link_field", .text r.linkField),
    ("target", .text r.target)]

/-- The parts of a plan, with the statements that do not depend on a request. -/
def MappingPlan.describe (p : MappingPlan) : Description :=
  .parts [
    ("entity", .text p.entity), ("table", .text p.table), ("tag", .text p.tag),
    ("columns", .list (p.columns.map ColumnPlan.describe)), ("primary_key", .number p.primaryKey),
    ("relations", .list (p.relations.map RelationPlan.describe)),
    ("create_table_sql", .text p.createTable), ("create_index_sql", texts p.createIndexes),
    ("insert_sql", .text p.insert), ("delete_sql", .text p.delete), ("get_sql", .text p.get),
    ("select_fields", .text p.selectFields)]

def CompiledEntity.manifest (e : CompiledEntity) : Description :=
  .parts [
    ("schema", e.schema.describe),
    ("ddl", .parts [
      ("create_table", .text e.plan.createTable), ("create_index", texts e.plan.createIndexes)]),
    ("statements", .parts [
      ("insert", .text e.plan.insert), ("get", .text e.plan.get), ("delete", .text e.plan.delete)])]

namespace CompiledCatalog

def manifest (c : CompiledCatalog) : Description :=
  .parts [("entities", .list (c.entities.map CompiledEntity.manifest))]

def summary (c : CompiledCatalog) : Description :=
  .parts [
    ("len", .number c.entities.length), ("is_empty", .truth c.entities.isEmpty),
    ("tags", texts c.tags), ("types", .number c.entities.length)]

end CompiledCatalog

end EntityStore
