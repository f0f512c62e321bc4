import EntityStore.Catalog.Check
import EntityStore.Catalog.Relation
import EntityStore.Model.Convention

/-! # Compiled entities

A checked declaration with its accessors in place:

* `Model.analyze` — checks a declaration and finds the accessors of its fields and relations.
* `CompiledEntity` — schema, plan and accessors.
* `CompiledEntity.bindRow`, `CompiledEntity.decodeRow`, `CompiledEntity.keyOf` — rows as stored
  values and back.
-/

namespace EntityStore

/-- Access to one column: its semantic type and the two accessors. -/
structure Column where
  semantic : SemanticType
  getter : ColumnGetter
  setter : ColumnSetter

/-- A declaration that has passed the checks, before its relations know their targets. -/
structure AnalyzedEntity where
  schema : EntitySchema
  keyType : KeyType
  initial : Record
  columns : List Column
  relations : List Relation

def FieldDeclaration.spec (f : FieldDeclaration) (accessor mutator : String) : FieldSpec :=
  { name := f.name, column := f.columnName, semantic := f.semantic, primaryKey := f.primaryKey
    index := f.index, accessor := accessor, mutator := mutator }

namespace Model

variable (m : Model)

def unboundNames : List String :=
  (m.fields.filter (·.binding.isNone)).map (·.name)
    ++ (m.relations.filter (·.binding.isNone)).map (·.name)

/-- The methods that the convention finds for the unbound fields and relations. -/
def accessorMatch : AccessorMatch :=
  matchAccessors (m.methods.map fun d => (d.name, d.isStatic)) m.unboundNames m.unboundNames

def getterOf? (found : AccessorMatch) (field : String) : Option MethodDeclaration :=
  (found.getters.lookup field).bind fun i => m.methods[i]?

def setterOf? (found : AccessorMatch) (field : String) : Option MethodDeclaration :=
  (found.setters.lookup field).bind fun i => m.methods[i]?

def mismatch (field method reason : String) : Violation :=
  .accessorTypeMismatch m.qualifiedName field method reason

def columnGetter (f : FieldDeclaration) (d : MethodDeclaration) : Except Violation ColumnGetter :=
  match d.body with
  | .get getter =>
    if getter.type.semantic = f.semantic then .ok getter
    else .error (m.mismatch f.name d.name
      ("returns " ++ getter.type.semantic.name ++ ", field is " ++ f.semantic.name))
  | _ => .error (m.mismatch f.name d.name "is not a column getter")

def columnSetter (f : FieldDeclaration) (d : MethodDeclaration) : Except Violation ColumnSetter :=
  match d.body with
  | .set setter =>
    if setter.type.semantic = f.semantic then .ok setter
    else .error (m.mismatch f.name d.name
      ("takes " ++ setter.type.semantic.name ++ ", field is " ++ f.semantic.name))
  | _ => .error (m.mismatch f.name d.name "is not a column setter")

/-- A field with its accessors: the explicit ones, or those that the convention has found. -/
def bindField (found : AccessorMatch) (f : FieldDeclaration) :
    Except Violation (FieldSpec × Column) :=
  match f.binding with
  | some binding =>
    if binding.type.semantic = f.semantic then
      .ok (f.spec (accessorName f.name) (mutatorName f.name),
        ⟨f.semantic, binding.getter, binding.setter⟩)
    else .error (m.mismatch f.name (accessorName f.name)
      ("bound as " ++ binding.type.semantic.name ++ ", declared as " ++ f.semantic.name))
  | none =>
    match m.getterOf? found f.name, m.setterOf? found f.name with
    | some g, some s => do
      let getter ← m.columnGetter f g
      let setter ← m.columnSetter f s
      return (f.spec g.name s.name, ⟨f.semantic, getter, setter⟩)
    | none, _ => .error (.missingAccessor m.qualifiedName [f.name])
    | _, none => .error (.missingMutator m.qualifiedName [f.name])

def relationGetter (r : RelationDeclaration) (d : MethodDeclaration) :
    Except Violation RelationGetter :=
  match d.body with
  | .getRelation getter => .ok getter
  | _ => .error (m.mismatch r.name d.name "is not a relation getter")

def relationSetter (r : RelationDeclaration) (d : MethodDeclaration) :
    Except Violation RelationSetter :=
  match d.body with
  | .setRelation setter => .ok setter
  | _ => .error (m.mismatch r.name d.name "is not a relation setter")

def relationAccessors (found : AccessorMatch) (r : RelationDeclaration) :
    Except Violation (RelationGetter × String × RelationSetter × String) :=
  match r.binding with
  | some binding => .ok (binding.getter, accessorName r.name, binding.setter, mutatorName r.name)
  | none =>
    match m.getterOf? found r.name, m.setterOf? found r.name with
    | some g, some s => do
      let getter ← m.relationGetter r g
      let setter ← m.relationSetter r s
      return (getter, g.name, setter, s.name)
    | none, _ => .error (.missingAccessor m.qualifiedName [r.name])
    | _, none => .error (.missingMutator m.qualifiedName [r.name])

/-- The accessors of a relation handle records of its target, in the shape of its cardinality. -/
def checkRelationAccessors (r : RelationDeclaration) (getter : RelationGetter)
    (accessor : String) (setter : RelationSetter) (mutator : String) : Except Violation Unit :=
  let expected := r.cardinality.shape
  if getter.shape ≠ expected then
    .error (m.mismatch r.name accessor
      ("returns " ++ getter.shape.name ++ ", relation holds " ++ expected.name))
  else if setter.shape ≠ expected then
    .error (m.mismatch r.name mutator
      ("takes " ++ setter.shape.name ++ ", relation holds " ++ expected.name))
  else if getter.target ≠ r.target then
    .error (m.mismatch r.name accessor ("does not return " ++ r.target))
  else if setter.target ≠ r.target then
    .error (m.mismatch r.name mutator ("does not take " ++ r.target))
  else .ok ()

def bindRelation (found : AccessorMatch) (columns : List (FieldSpec × Column))
    (r : RelationDeclaration) : Except Violation (RelationSpec × Relation) :=
  match columns.find? (·.1.name = r.on) with
  | none => .error (.unresolvedLinkField m.qualifiedName r.name r.on)
  | some (link, column) => do
    let (getter, accessor, setter, mutator) ← m.relationAccessors found r
    m.checkRelationAccessors r getter accessor setter mutator
    let spec : RelationSpec :=
      { name := r.name, cardinality := r.cardinality, target := r.target, targetTable := ""
        targetPrimaryKey := "", linkField := r.on, linkType := link.semantic
        accessor := accessor, mutator := mutator }
    return (spec, ⟨.ofSpec spec, column.getter, getter, setter⟩)

def analyze : Except Violation AnalyzedEntity := do
  m.checkDeclaration
  let found := m.accessorMatch
  if !found.missingGetters.isEmpty then
    throw (.missingAccessor m.qualifiedName found.missingGetters)
  if !found.missingSetters.isEmpty then
    throw (.missingMutator m.qualifiedName found.missingSetters)
  let columns ← m.fields.mapM (m.bindField found)
  let relations ← m.relations.mapM (m.bindRelation found columns)
  let fields := columns.map (·.1)
  match m.initial with
  | none => throw (.missingDefaultConstructor m.qualifiedName)
  | some initial =>
    return {
      schema := {
        qualifiedName := m.qualifiedName
        table := m.tableName
        tag := m.context
        fields := fields
        primaryKey := ((fields.find? (·.primaryKey)).map (·.name)).getD ""
        relations := relations.map (·.1) }
      keyType := m.keyType
      initial := initial
      columns := columns.map (·.2)
      relations := relations.map (·.2) }

end Model

/-- The executable form of an entity: columns in the order of the plan, relations in the order of
    their declaration. -/
structure CompiledEntity where
  schema : EntitySchema
  plan : MappingPlan
  keyType : KeyType
  initial : Record
  columns : List Column
  relations : List Relation

namespace CompiledEntity

variable (e : CompiledEntity)

def relation? (name : String) : Option Relation := e.relations.find? (·.plan.name = name)

/-- The primary key of a row; zero if it has none. -/
def keyOf (row : Record) : Int64 :=
  match e.columns[e.plan.primaryKey]? with
  | some column => (column.getter.field row).toInt64?.getD 0
  | none => 0

/-- The primary key of a row, if it fits the key type of the entity. -/
def typedKeyOf (row : Record) : Except Failure Int64 :=
  match e.keyType.ofInt64? (e.keyOf row) with
  | some key => .ok key
  | none => .error
    { kind := .internal, entity := some e.schema.qualifiedName
      message := "key " ++ toString (e.keyOf row).toInt ++ " does not fit the declared key type" }

def inColumn (column : ColumnPlan) (failure : Failure) : Failure :=
  { failure with table := some e.plan.table, field := some column.field }

def bindRow (row : Record) : Except Failure (List StoredValue) :=
  (e.plan.columns.zip e.columns).mapM fun (column, access) =>
    (Codec.bind column.bind (access.getter.field row)).mapError (e.inColumn column)

def storeColumn (row : Record) (column : ColumnPlan) (access : Column) (stored : StoredValue) :
    Except Failure Record := do
  let value ← (Codec.decode column.decode stored).mapError (e.inColumn column)
  match access.setter.store? row value with
  | some row => return row
  | none =>
    let failure : Failure :=
      { kind := .decode, op := some "decode_row", message := "mutator rejected the decoded value" }
    throw (e.inColumn column failure)

def decodeRow (values : List StoredValue) : Except Failure Record :=
  if values.length ≠ e.columns.length then
    .error
      { kind := .decode, op := some "decode_row", table := some e.plan.table
        message := "expected " ++ toString e.columns.length ++ " columns, got "
          ++ toString values.length }
  else
    ((e.plan.columns.zip e.columns).zip values).foldlM
      (fun row ((column, access), stored) => e.storeColumn row column access stored) e.initial

end CompiledEntity

end EntityStore
