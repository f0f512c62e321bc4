import EntityStore.Catalog.Plan
import EntityStore.Failure

/-! # Relations

Attaching related records to rows, and saving the ones that rows hold:

* `RelatedStore` — what a relation needs of the store of its target.
* `Relation` — a relation of an entity with its accessors.
* `Relation.resolve`, `Relation.save` — the two directions.
-/

namespace EntityStore

/-- What a relation needs of the store of its target entity. -/
structure RelatedStore (m : Type → Type) where
  /-- The key of a record. -/
  keyOf : Record → Int64
  fetchByKeys : List Int64 → m (List Record)
  /-- The records whose keys a text lists. -/
  fetchByText : String → m (List Record)
  /-- Saves records; whether there were any. -/
  saveRelated : List Record → m Bool

/-- The first occurrences of each element. -/
def distinct {α : Type} [DecidableEq α] : List α → List α
  | [] => []
  | a :: rest => a :: (distinct rest).filter (· ≠ a)

def distinctBy (keyOf : Record → Int64) : List Record → List Record
  | [] => []
  | r :: rest => r :: (distinctBy keyOf rest).filter fun t => keyOf t ≠ keyOf r

/-- A relation of an entity: its plan, its link column, and access to the related records. -/
structure Relation where
  plan : RelationPlan
  link : ColumnGetter
  getter : RelationGetter
  setter : RelationSetter

namespace Relation

variable {m : Type → Type}

def linkKey? (rel : Relation) (row : Record) : Option Int64 := (rel.link.field row).toInt64?

/-- The text link of a row, unless it is absent or empty. -/
def linkText? (rel : Relation) (row : Record) : Option String := (rel.link.field row).toText?

def collection (rel : Relation) (keyOf : Record → Int64) (found : List Record) : List Record :=
  if rel.plan.cardinality = .set then distinctBy keyOf found else found

/-- One row with its records among the fetched ones.  A single relation without a match keeps
    what the row holds. -/
def attach (rel : Relation) (keyOf : Record → Int64) (targets : List Record) (row : Record) :
    Record :=
  match rel.linkKey? row with
  | none => row
  | some key =>
    let found := targets.filter fun t => keyOf t = key
    match rel.plan.strategy with
    | .batchedSingle =>
      match found with
      | [] => row
      | first :: _ => rel.setter.store row [first]
    | _ => rel.setter.store row (rel.collection keyOf found)

/-- The distinct links of rows, in order of first occurrence. -/
def linkKeys (rel : Relation) (rows : List Record) : List Int64 :=
  distinct (rows.filterMap rel.linkKey?)

def resolveBatched [Monad m] (rel : Relation) (store : RelatedStore m) (rows : List Record) :
    m (List Record) := do
  match rel.linkKeys rows with
  | [] => return rows
  | keys =>
    let targets ← store.fetchByKeys keys
    return rows.map (rel.attach store.keyOf targets)

/-- One row with the records that were found for its text.  A single relation takes the first,
    and without one keeps what the row holds. -/
def attachFound (rel : Relation) (keyOf : Record → Int64) (row : Record) (found : List Record) :
    Record :=
  if rel.plan.cardinality = .single then
    match found with
    | [] => row
    | first :: _ => rel.setter.store row [first]
  else rel.setter.store row (rel.collection keyOf found)

/-- A fetch for each row that lists keys; a collection without keys becomes empty. -/
def resolveText [Monad m] (rel : Relation) (store : RelatedStore m) (row : Record) :
    m Record := do
  match rel.linkText? row with
  | none =>
    return if rel.plan.cardinality = .single then row else rel.setter.store row []
  | some text => return rel.attachFound store.keyOf row (← store.fetchByText text)

def unknownTarget (rel : Relation) : Failure :=
  { kind := .unknownMapper, op := some "resolve_relation", entity := some rel.plan.target
    field := some rel.plan.name, message := "no mapper registered for relation target" }

def storeIn [Monad m] [MonadExceptOf Failure m] (rel : Relation)
    (stores : String → Option (RelatedStore m)) : m (RelatedStore m) :=
  match stores rel.plan.target with
  | some store => pure store
  | none => throw rel.unknownTarget

def resolve [Monad m] [MonadExceptOf Failure m] (rel : Relation)
    (stores : String → Option (RelatedStore m)) (rows : List Record) : m (List Record) := do
  if rows.isEmpty then return rows
  else
    let store ← rel.storeIn stores
    match rel.plan.strategy with
    | .commaJoined => rows.mapM (rel.resolveText store)
    | _ => rel.resolveBatched store rows

/-- Saves the related records that rows hold, as one batch. -/
def save [Monad m] [MonadExceptOf Failure m] (rel : Relation)
    (stores : String → Option (RelatedStore m)) (rows : List Record) : m Unit := do
  let related := rows.flatMap rel.getter.targets
  if related.isEmpty then return ()
  else
    let store ← rel.storeIn stores
    let _ ← store.saveRelated related
    return ()

end Relation

end EntityStore
