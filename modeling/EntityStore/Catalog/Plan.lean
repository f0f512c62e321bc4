import EntityStore.Catalog.Schema
import EntityStore.Value.Codec

/-! # Mapping plans

The columns and statements of an entity, derived from its schema:

* `ColumnPlan`, `RelationPlan`, `MappingPlan` — the plan; `MappingPlan.ofSchema?` makes it.
* `RelationStrategy` — how a relation is resolved.
* `MappingPlan.createTable` and the texts after it — the statements.
-/

namespace EntityStore

/-- One column: where its values come from and how they are written and read. -/
structure ColumnPlan where
  field : String
  column : String
  semantic : SemanticType
  affinity : Affinity
  bind : BindOp
  decode : DecodeOp
  primaryKey : Bool
  index : Bool
  deriving DecidableEq

namespace ColumnPlan

def ofField (f : FieldSpec) : ColumnPlan :=
  { field := f.name, column := f.column, semantic := f.semantic
    affinity := f.semantic.affinity, bind := f.semantic.bindOp, decode := f.semantic.decodeOp
    primaryKey := f.primaryKey, index := f.index }

def definition (c : ColumnPlan) : String := c.column ++ " " ++ c.affinity.keyword

def indexName (c : ColumnPlan) (table : String) : String := table ++ "_" ++ c.column ++ "_idx"

end ColumnPlan

/-- How a relation is resolved. -/
inductive RelationStrategy where
  /-- One fetch for all rows; the first target of each is attached. -/
  | batchedSingle
  /-- One fetch for all rows; every target of each is attached. -/
  | batchedCollection
  /-- A fetch for each row by the keys in its text. -/
  | commaJoined
  deriving DecidableEq

def RelationStrategy.name : RelationStrategy → String
  | batchedSingle => "BatchedSingle"
  | batchedCollection => "BatchedCollection"
  | commaJoined => "CommaJoined"

def RelationStrategy.select (cardinality : Cardinality) (linkType : SemanticType) :
    RelationStrategy :=
  match linkType, cardinality with
  | .text, _ => commaJoined
  | _, .single => batchedSingle
  | _, _ => batchedCollection

structure RelationPlan where
  name : String
  cardinality : Cardinality
  strategy : RelationStrategy
  linkField : String
  target : String
  deriving DecidableEq

def RelationPlan.ofSpec (r : RelationSpec) : RelationPlan :=
  { name := r.name, cardinality := r.cardinality
    strategy := .select r.cardinality r.linkType
    linkField := r.linkField, target := r.target }

/-- What running statements for an entity takes. -/
structure MappingPlan where
  entity : String
  table : String
  tag : String
  columns : List ColumnPlan
  primaryKey : Nat
  keyColumn : String
  relations : List RelationPlan
  deriving DecidableEq

namespace MappingPlan

/-- The plan of a schema; a schema without fields has none. -/
def ofSchema? (s : EntitySchema) : Option MappingPlan :=
  s.keyField?.map fun key =>
    { entity := s.qualifiedName, table := s.table, tag := s.tag
      columns := s.fields.map .ofField
      primaryKey := s.primaryKeyIndex
      keyColumn := key.column
      relations := s.relations.map .ofSpec }

def key? (p : MappingPlan) : Option ColumnPlan := p.columns[p.primaryKey]?

def columnNames (p : MappingPlan) : List String := p.columns.map (·.column)

def indexedColumns (p : MappingPlan) : List ColumnPlan := p.columns.filter (·.index)

def columnOf? (p : MappingPlan) (field : String) : Option ColumnPlan :=
  p.columns.find? (·.field = field)

/-! ## Statements -/

def commaList (items : List String) : String := ", ".intercalate items

def marks (n : Nat) : String := commaList (List.replicate n "?")

def columnDefinition (c : ColumnPlan) : String :=
  if c.primaryKey then c.definition ++ " PRIMARY KEY" else c.definition

def createTable (p : MappingPlan) : String :=
  "create table if not exists " ++ p.table ++ "( "
    ++ commaList (p.columns.map columnDefinition) ++ " ) WITHOUT ROWID ;"

def createIndex (p : MappingPlan) (c : ColumnPlan) : String :=
  "create index if not exists " ++ c.indexName p.table ++ " on " ++ p.table ++ "("
    ++ c.column ++ ")"

def createIndexes (p : MappingPlan) : List String := p.indexedColumns.map p.createIndex

def addColumn (p : MappingPlan) (c : ColumnPlan) : String :=
  "alter table " ++ p.table ++ " add column " ++ c.definition

def selectFields (p : MappingPlan) : String := commaList p.columnNames

/-- Writes one row, replacing the one with the same key. -/
def insert (p : MappingPlan) : String :=
  "REPLACE into " ++ p.table ++ "(" ++ p.selectFields ++ ")values(" ++ marks p.columns.length
    ++ ")"

def delete (p : MappingPlan) : String :=
  "delete from " ++ p.table ++ " where " ++ p.keyColumn ++ " = ?"

def selectFrom (p : MappingPlan) : String := "select " ++ p.selectFields ++ " from " ++ p.table

def get (p : MappingPlan) : String := p.selectFrom ++ " where " ++ p.keyColumn ++ " = ?"

def gets (p : MappingPlan) (n : Nat) : String :=
  p.selectFrom ++ " where " ++ p.keyColumn ++ " in (" ++ marks n ++ ")"

def selectOrdered (p : MappingPlan) (order : String) : String :=
  p.selectFrom ++ " order by " ++ order

def select (p : MappingPlan) : String := p.selectOrdered p.keyColumn

/-- Part of the rows in an order; two last parameters, limit and offset. -/
def selectLimit (p : MappingPlan) (order : String) : String :=
  p.selectOrdered order ++ " limit ? offset ?"

def selectWhereOrdered (p : MappingPlan) (predicate order : String) : String :=
  p.selectFrom ++ " where " ++ predicate ++ " order by " ++ order

/-- The rows that a predicate holds for, the greatest key first. -/
def selectWhere (p : MappingPlan) (predicate : String) : String :=
  p.selectWhereOrdered predicate (p.keyColumn ++ " desc")

/-- Part of the rows that a predicate holds for; two last parameters, limit and offset. -/
def selectWhereLimit (p : MappingPlan) (predicate order : String) : String :=
  p.selectWhereOrdered predicate order ++ " limit ? offset ?"

/-- An aggregate over the rows, perhaps restricted, perhaps by group. -/
def aggregate (p : MappingPlan) (expression : String) (predicate group : Option String) :
    String :=
  "select " ++ expression ++ " from " ++ p.table
    ++ (match predicate with
        | none => ""
        | some predicate => " where " ++ predicate)
    ++ (match group with
        | none => ""
        | some group => " group by " ++ group)

def count (p : MappingPlan) (predicate group : Option String) : String :=
  p.aggregate "count (1)" predicate group

def sum (p : MappingPlan) (column predicate : String) (group : Option String) : String :=
  p.aggregate ("sum (" ++ column ++ ")") (some predicate) group

def deleteWhere (p : MappingPlan) (predicate : String) : String :=
  "delete from " ++ p.table ++ " where " ++ predicate

def updateWhere (p : MappingPlan) (assignments predicate : String) : String :=
  "update " ++ p.table ++ " set " ++ assignments ++ " where " ++ predicate

end MappingPlan

end EntityStore
