import EntityStore.Model.Record
import EntityStore.Text.Case
import EntityStore.Value.Key

/-! # Declarations of entities

What a model says about an entity type:

* `ColumnGetter`, `ColumnSetter` — access to one column of an instance, with its type.
* `RelationGetter`, `RelationSetter` — access to the records of one relation, with its shape.
* `FieldDeclaration`, `RelationDeclaration`, `MethodDeclaration`, `Model` — the declaration.
* `Model.tableName` — the table, by default the last part of the name in lower case.
-/

namespace EntityStore

/-- Reads one column of an instance. -/
structure ColumnGetter where
  type : ColumnType
  read : Record → type.Carrier

/-- Writes one column of an instance. -/
structure ColumnSetter where
  type : ColumnType
  write : Record → type.Carrier → Record

structure ColumnBinding where
  type : ColumnType
  read : Record → type.Carrier
  write : Record → type.Carrier → Record

namespace ColumnGetter

def field (g : ColumnGetter) (r : Record) : FieldValue := g.type.toField (g.read r)

/-- Reads a property of a record; what is unset or of another type reads as the type's zero. -/
def property (type : ColumnType) (name : String) : ColumnGetter :=
  ⟨type, fun r => ((r.value? name).bind type.ofField?).getD type.zero⟩

end ColumnGetter

namespace ColumnSetter

def store? (s : ColumnSetter) (r : Record) (value : FieldValue) : Option Record :=
  (s.type.ofField? value).map (s.write r)

def property (type : ColumnType) (name : String) : ColumnSetter :=
  ⟨type, fun r v => r.setValue name (type.toField v)⟩

end ColumnSetter

namespace ColumnBinding

def getter (b : ColumnBinding) : ColumnGetter := ⟨b.type, b.read⟩

def setter (b : ColumnBinding) : ColumnSetter := ⟨b.type, b.write⟩

def property (type : ColumnType) (name : String) : ColumnBinding :=
  ⟨type, (ColumnGetter.property type name).read, (ColumnSetter.property type name).write⟩

end ColumnBinding

/-! ## Relations -/

/-- How many records a relation holds. -/
inductive Cardinality where
  | single
  | list
  /-- No two records with the same key. -/
  | set
  deriving DecidableEq

def Cardinality.name : Cardinality → String
  | single => "Single"
  | list => "List"
  | set => "Set"

/-- What a relation accessor handles: at most one record, or a list. -/
inductive Shape where
  | one
  | many
  deriving DecidableEq

def Shape.name : Shape → String
  | one => "One"
  | many => "Many"

def Cardinality.shape : Cardinality → Shape
  | single => .one
  | list | set => .many

inductive RelationRead where
  | one (read : Record → Option Record)
  | many (read : Record → List Record)

inductive RelationWrite where
  | one (write : Record → Option Record → Record)
  | many (write : Record → List Record → Record)

/-- Reads the records of a relation to the entity type `target`. -/
structure RelationGetter where
  target : String
  access : RelationRead

/-- Writes the records of a relation to the entity type `target`. -/
structure RelationSetter where
  target : String
  access : RelationWrite

namespace RelationGetter

def shape (g : RelationGetter) : Shape :=
  match g.access with
  | .one _ => .one
  | .many _ => .many

def targets (g : RelationGetter) (r : Record) : List Record :=
  match g.access with
  | .one read => (read r).toList
  | .many read => read r

def property (target : String) (shape : Shape) (name : String) : RelationGetter :=
  match shape with
  | .one => ⟨target, .one fun r => (r.related name).head?⟩
  | .many => ⟨target, .many fun r => r.related name⟩

end RelationGetter

namespace RelationSetter

def shape (s : RelationSetter) : Shape :=
  match s.access with
  | .one _ => .one
  | .many _ => .many

/-- The instance with the records written; the first of them where one is held. -/
def store (s : RelationSetter) (r : Record) (targets : List Record) : Record :=
  match s.access with
  | .one write => write r targets.head?
  | .many write => write r targets

def property (target : String) (shape : Shape) (name : String) : RelationSetter :=
  match shape with
  | .one =>
    ⟨target, .one fun r found =>
      match found with
      | some t => r.setRelated name [t]
      | none => r.clearRelated name⟩
  | .many => ⟨target, .many fun r found => r.setRelated name found⟩

end RelationSetter

inductive RelationBinding where
  | one (target : String) (read : Record → Option Record)
      (write : Record → Option Record → Record)
  | many (target : String) (read : Record → List Record)
      (write : Record → List Record → Record)

namespace RelationBinding

def getter : RelationBinding → RelationGetter
  | one target read _ => ⟨target, .one read⟩
  | many target read _ => ⟨target, .many read⟩

def setter : RelationBinding → RelationSetter
  | one target _ write => ⟨target, .one write⟩
  | many target _ write => ⟨target, .many write⟩

def property (target : String) (shape : Shape) (name : String) : RelationBinding :=
  match shape with
  | .one =>
    one target (fun r => (r.related name).head?) fun r found =>
      match found with
      | some t => r.setRelated name [t]
      | none => r.clearRelated name
  | .many => many target (fun r => r.related name) fun r found => r.setRelated name found

end RelationBinding

/-! ## Models -/

/-- One persistable column of an entity.  Without a binding, the naming convention finds the
    accessors among the methods. -/
structure FieldDeclaration where
  name : String
  semantic : SemanticType
  primaryKey : Bool := false
  index : Bool := false
  column : Option String := none
  isPublic : Bool := false
  binding : Option ColumnBinding := none

/-- The column name, by default the field's. -/
def FieldDeclaration.columnName (f : FieldDeclaration) : String := f.column.getD f.name

/-- A field that holds records of the entity type `target`, found through the field `on`. -/
structure RelationDeclaration where
  name : String
  cardinality : Cardinality
  target : String
  on : String
  isPublic : Bool := false
  binding : Option RelationBinding := none

/-- What a method of an entity does. -/
inductive MethodBody where
  | get (getter : ColumnGetter)
  | set (setter : ColumnSetter)
  | getRelation (getter : RelationGetter)
  | setRelation (setter : RelationSetter)

/-- A method of an entity; a static one is never an accessor. -/
structure MethodDeclaration where
  name : String
  isStatic : Bool := false
  body : MethodBody

/-- The declaration of an entity type. -/
structure Model where
  qualifiedName : String
  keyType : KeyType
  table : Option String := none
  context : String := "default"
  /-- The instance that the constructor gives, if there is a constructor. -/
  initial : Option Record := none
  fields : List FieldDeclaration := []
  relations : List RelationDeclaration := []
  transient : List String := []
  methods : List MethodDeclaration := []

def beforePair : List Char → List Char
  | [] => []
  | ':' :: ':' :: _ => []
  | c :: rest => c :: beforePair rest

def afterPath (cs : List Char) : List Char := (beforePair cs.reverse).reverse

/-- The last part of a qualified name in lower case, without type arguments. -/
def defaultTableName (qualifiedName : String) : String :=
  let base := qualifiedName.toList.takeWhile (· ≠ '<')
  Text.lowercase (String.ofList (afterPath base))

def Model.tableName (m : Model) : String := m.table.getD (defaultTableName m.qualifiedName)

end EntityStore
