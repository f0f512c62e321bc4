import EntityStore.Proofs.Registry.Following

/-! # Links of stored rows

A read with what its records refer to sets each relation of a record to the stored records that its link
names, each of which is read in the same way one level less deep:

* `Relation.Unset`, `CompiledEntity.LeavesUnset` — relations that hold nothing, and constructors that
  give them nothing.
* `Mapper.Finds` — the reads of records, which come without what they refer to.
* `Registry.unfold` — a record with what it refers to, so many levels deep.
* `Registry.related_unfold` — reads with what records refer to unfold each record by itself.
-/

namespace EntityStore

open EntityStore.Engine (Row)
open Session (Gives)

/-! ## Relations that hold nothing -/

/-- A single relation that holds nothing: to set it to nothing changes nothing. -/
def Relation.Unset (rel : Relation) (record : Record) : Prop :=
  rel.plan.cardinality = .single → rel.setter.store record [] = record

theorem Relation.given_of_unset {rel : Relation} {record : Record} (unset : rel.Unset record)
    (found : List Record) : rel.given record found = rel.setter.store record (rel.taken found) := by
  unfold given taken
  cases cardinality : rel.plan.cardinality with
  | single =>
    cases found with
    | nil => exact (unset cardinality).symm
    | cons first _ => rfl
  | _ => rfl

namespace CompiledEntity

def Bare (e : CompiledEntity) (record : Record) : Prop := ∀ rel ∈ e.relations, rel.Unset record

/-- The constructor leaves relations unset, and neither a column nor a relation before it sets one. -/
structure LeavesUnset (e : CompiledEntity) : Prop where
  initial : e.Bare e.initial
  columns : ∀ rel ∈ e.relations, ∀ access ∈ e.columns, ∀ record v,
    rel.Unset record → rel.Unset (access.setter.write record v)
  relations : e.relations.Pairwise fun before rel => ∀ record found,
    rel.Unset record → rel.Unset (before.setter.store record found)

variable {e : CompiledEntity}

theorem LeavesUnset.assembled (leaves : e.LeavesUnset) (values : List FieldValue) :
    e.Bare (e.assembled values) := by
  intro rel listed
  have members : ∀ pair ∈ e.columns.zip values, pair.1 ∈ e.columns :=
    fun _ member => (List.of_mem_zip member).1
  have start := leaves.initial rel listed
  rw [CompiledEntity.assembled]
  -- The relation is unset before the first column is written and stays so with each.
  generalize e.initial = record at start ⊢
  generalize e.columns.zip values = pairs at members ⊢
  induction pairs generalizing record with
  | nil => exact start
  | cons pair rest ih =>
    obtain ⟨access, v⟩ := pair
    rw [List.foldl_cons]
    refine ih _ ?_ fun pair later => members pair (List.mem_cons_of_mem _ later)
    change rel.Unset (access.put record v)
    unfold Column.put ColumnSetter.store?
    cases access.setter.type.ofField? v with
    | none => exact start
    | some carried =>
      exact leaves.columns rel listed access (members _ (List.mem_cons_self ..)) record carried start

/-- What is read from a row holds no other records. -/
theorem LeavesUnset.decodeRow (leaves : e.LeavesUnset) (regular : e.Regular) {values : List StoredValue}
    {record : Record} (done : e.decodeRow values = .ok record) : e.Bare record := by
  obtain ⟨_, _, _, rfl⟩ := decodeRow_ok regular done
  exact leaves.assembled _

end CompiledEntity

/-! ## Reads of records -/

namespace Mapper

/-- The reads of a mapper that give records, without what these refer to. -/
inductive Finds (m : Mapper) : Session (List Record) → Prop
  | gets (keys : List Int64) : Finds m (m.gets keys)
  | getsListed (text : String) : Finds m (m.getsListed text)
  | select : Finds m m.select
  | selectOrdered (order : String) : Finds m (m.selectOrdered order)
  | selectLimit (order : String) (limit offset : Int64) : Finds m (m.selectLimit order limit offset)
  | selectWhere (predicate : String) (parameters : List StoredValue) :
      Finds m (m.selectWhere predicate parameters)
  | selectWhereOrdered (predicate order : String) (parameters : List StoredValue) :
      Finds m (m.selectWhereOrdered predicate order parameters)
  | selectWhereLimit (predicate order : String) (parameters : List StoredValue)
      (limit offset : Int64) :
      Finds m (m.selectWhereLimit predicate order parameters limit offset)

variable {m : Mapper}

theorem Finds.reading {read : Session (List Record)} (finds : m.Finds read) : m.Reading read := by
  cases finds with
  | gets keys => exact .gets keys
  | getsListed text => exact .getsListed text
  | select => exact .select
  | selectOrdered order => exact .selectOrdered order
  | selectLimit order limit offset => exact .selectLimit order limit offset
  | selectWhere predicate parameters => exact .selectWhere predicate parameters
  | selectWhereOrdered predicate order parameters =>
    exact .selectWhereOrdered predicate order parameters
  | selectWhereLimit predicate order parameters limit offset =>
    exact .selectWhereLimit predicate order parameters limit offset

theorem gives_read {α : Type} {R : α → Prop} {standard : α} (given : R standard) (op : String)
    {block : Session α} (gives : Gives (fun _ => True) R block) :
    Gives (fun _ => True) R (m.read op standard block) := by
  refine .last fun found => ?_
  cases found with
  | error failure => exact .last fun _ => .pure given
  | ok id =>
    refine .bind (gives.annotate _).attempt fun result value => ?_
    cases result with
    | ok found => exact .pure (value found rfl)
    | error failure => exact .last fun _ => .last fun _ => .pure given

section
variable (regular : m.entity.Regular) (leaves : m.entity.LeavesUnset)
include regular leaves

theorem gives_load (text : String) (parameters : List StoredValue) :
    Gives (fun _ => True) (fun found => ∀ record ∈ found, m.entity.Bare record)
      (m.load text parameters) := by
  refine .last fun answer => .last fun raw => .bind (.mapM (fun values => ?_) raw) fun found bare =>
    .last fun _ => .pure bare
  intro w record v _ done
  cases read : m.entity.decodeRow values with
  | ok known =>
    rw [read] at done
    cases done
    exact leaves.decodeRow regular read
  | error failure =>
    rw [read] at done
    cases done

theorem Finds.bare {read : Session (List Record)} (finds : m.Finds read) :
    Gives (fun _ => True) (fun found => ∀ record ∈ found, m.entity.Bare record) read := by
  have nothing : ∀ record ∈ ([] : List Record), m.entity.Bare record :=
    fun _ listed => absurd listed List.not_mem_nil
  have gets (keys : List Int64) :
      Gives (fun _ => True) (fun found => ∀ record ∈ found, m.entity.Bare record) (m.gets keys) := by
    rw [Mapper.gets]
    split
    · exact .pure nothing
    · refine gives_read nothing _ (.bind (.mapM (fun piece => gives_load regular leaves _ _) _)
        fun pieces bare => .pure fun record listed => ?_)
      obtain ⟨piece, among, within⟩ := List.mem_flatten.mp listed
      exact bare piece among record within
  cases finds with
  | gets keys => exact gets keys
  | getsListed text => exact .last gets
  | _ => exact gives_read nothing _ (gives_load regular leaves _ _)

end

theorem mem_linked {rows : List Row} {rel : Relation} {record other : Record}
    (named : other ∈ m.linked rows rel record) : ∃ row ∈ rows, other = m.recordAt row := by
  have among {keys : List Int64} (listed : other ∈ (m.plan.rowsOf keys rows).map m.recordAt) :
      ∃ row ∈ rows, other = m.recordAt row := by
    obtain ⟨row, found, rfl⟩ := List.mem_map.mp listed
    exact ⟨row, (List.mem_filter.mp found).1, rfl⟩
  unfold linked Relation.named at named
  split at named
  · exact among named
  · obtain ⟨piece, _, listed⟩ := List.mem_flatMap.mp named
    exact among listed
  · cases named

end Mapper

/-! ## Unfolding -/

namespace Registry

/-- A record with what it refers to, so many levels deep: each relation in turn is set to the stored
    records that its link names, each of them unfolded one level less deep.  A single relation is set to
    the first of them, and to nothing if there is none. -/
def unfold (r : Registry) (rows : Nat → List Row) : Nat → Mapper → Record → Record
  | 0, _, record => record
  | depth + 1, m, record => m.entity.relations.foldl (fun record rel =>
      rel.setter.store record (rel.taken
        (match r.mapper? rel.plan.target with
        | none => []
        | some target =>
          (target.linked (rows target.index) rel record).map (r.unfold rows depth target)))) record

variable {r : Registry} {m : Mapper} {rows : Nat → List Row}

theorem follow_of_bare (regular : r.catalog.Regular) (leaves : ∀ e ∈ r.catalog.entities, e.LeavesUnset)
    (decodes : ∀ m ∈ r.mappers, m.Decodes (rows m.index)) (depth : Nat) :
    ∀ m ∈ r.mappers, ∀ record, m.entity.Bare record →
      r.follow rows depth m record = r.unfold rows depth m record := by
  induction depth with
  | zero => exact fun _ _ _ _ => rfl
  | succ depth ih =>
    intro m member record bare
    have apart := (leaves _ (entity_mem member)).relations
    rw [follow, unfold]
    rw [CompiledEntity.Bare] at bare
    -- Relations that are still to come are unset, whatever those before them have been set to.
    generalize m.entity.relations = relations at apart bare
    induction relations generalizing record with
    | nil => rfl
    | cons rel rest later =>
      obtain ⟨others, apart⟩ := List.pairwise_cons.mp apart
      have own := bare rel (List.mem_cons_self ..)
      have after (found : List Record) := later (rel.setter.store record (rel.taken found)) apart
        fun another listed => others another listed record _ (bare another (List.mem_cons_of_mem _ listed))
      cases found : r.mapper? rel.plan.target with
      | none =>
        simp only [List.foldl_cons, found, Relation.given_of_unset own]
        exact after []
      | some target =>
        have there := mapper?_mem found
        have same : (target.linked (rows target.index) rel record).map (r.follow rows depth target) =
            (target.linked (rows target.index) rel record).map (r.unfold rows depth target) := by
          refine List.map_congr_left fun other named => ih target there other ?_
          obtain ⟨row, stored, rfl⟩ := Mapper.mem_linked named
          exact (leaves _ (entity_mem there)).decodeRow (regular.entities _ (entity_mem there))
            ((decodes target there).recordOf stored)
        simp only [List.foldl_cons, found, same, Relation.given_of_unset own]
        exact after _

/-- Reads with what their records refer to are the reads with each record unfolded, as deep as the
    registry allows, along the links of the stored rows: for every registry that has been built, if its
    names are identifiers that the engine accepts and, within a context, keeps apart, the accessors of
    keys are lawful, and constructors leave relations unset; and for every contents of its tables whose
    rows are all read as records. -/
theorem related_unfold {config : StoreConfig} {shared : Option Nat} {models : List Model}
    {before after w : World} {site : Setting}
    (built : (Session.build config shared models).outcome before = (.ok r, after))
    (spelled : ∀ e ∈ r.catalog.entities, e.plan.Spelled)
    (apart : ∀ m ∈ r.mappers, ∀ other ∈ r.mappers, other ≠ m →
      site.home other.plan.tag = site.home m.plan.tag → m.plan.Apart other.plan)
    (lawful : ∀ e ∈ r.catalog.entities, e.KeyLawful)
    (leaves : ∀ e ∈ r.catalog.entities, e.LeavesUnset)
    (holds : r.Holds site rows w) (decodes : ∀ m ∈ r.mappers, m.Decodes (rows m.index))
    (member : m ∈ r.mappers) :
    (∀ key, ∃ u v, (m.get key).outcome w = (.ok (m.underKey (rows m.index) key).head?, u)
        ∧ (m.getWithRelated key).outcome w =
          (.ok ((m.underKey (rows m.index) key).head?.map (r.unfold rows r.maxRefDepth m)), v))
      ∧ (∀ text, ∃ u, (m.getsListed text).outcome w =
        (.ok (m.underKeys (rows m.index) (m.keysIn text)), u))
      ∧ ∀ read, m.Finds read → ∃ found u v, read.outcome w = (.ok found, u)
        ∧ (m.withRelated read).outcome w = (.ok (found.map (r.unfold rows r.maxRefDepth m)), v)
        ∧ r.Holds site rows v := by
  have sound : r.Sound site.home := ⟨(Session.build_ok built).1, spelled, apart⟩
  have unfolds := follow_of_bare sound.regular leaves decodes r.maxRefDepth m member
  refine ⟨fun key => ?_, fun text => ?_, fun read finds => ?_⟩
  · obtain ⟨u, done, _⟩ := yields_get sound member (decodes m member) key w holds
    obtain ⟨v, done', _⟩ := yields_getWithRelated sound lawful decodes member key w holds
    refine ⟨u, v, done, done'.trans ?_⟩
    cases found : m.underKey (rows m.index) key with
    | nil => rfl
    | cons record rest =>
      have listed : record ∈ m.underKey (rows m.index) key := found ▸ List.mem_cons_self ..
      obtain ⟨row, stored, rfl⟩ := List.mem_map.mp listed
      rw [List.head?_cons, Option.map_some, Option.map_some, unfolds]
      exact (leaves _ (entity_mem member)).decodeRow (sound.entity member)
        ((decodes m member).recordOf (List.mem_filter.mp stored).1)
  · obtain ⟨u, done, _⟩ := yields_getsListed sound member (decodes m member) text w holds
    exact ⟨u, done⟩
  · -- A read leaves the rows as they are, so its records are resolved among the same ones.
    obtain ⟨found, u, done, between⟩ := finds.reading.succeeds (reads_holds sound member) w holds
    obtain ⟨v, done', kept⟩ :=
      yields_resolved sound lawful decodes r.maxRefDepth m member found u between
    have bare := finds.bare (sound.entity member) (leaves _ (entity_mem member)) w found u trivial done
    refine ⟨found, u, v, done, ?_, kept⟩
    rw [Mapper.withRelated, Session.outcome_bind_ok done, stores_eq member, done']
    exact congrArg (fun found => (Except.ok found, v))
      (List.map_congr_left fun record listed => unfolds record (bare record listed))

theorem leavesUnset_step : CompiledEntity.step.LeavesUnset where
  initial rel listed _ := by
    rw [List.mem_singleton.mp listed]
    rfl
  columns rel listed access there record v unset _ := by
    rw [List.mem_singleton.mp listed] at unset ⊢
    have kept : record.clearRelated "next" = record := unset rfl
    rcases List.mem_pair.mp there with rfl | rfl <;>
      exact congrArg (fun held : Record => Record.mk _ held.relations) kept
  relations := List.pairwise_singleton ..

theorem related_of_circle : (Session.build (.inMemory "default") none
      [.step "id" (.property .int64 "id") .empty]).outcome {} = (.ok steps, stepsWorld)
    ∧ steps.Holds ⟨fun _ => 0, fun _ => true, stepsWorld.unopened.places⟩ circleRows circleWorld
    ∧ ∃ found u v, (stepMapper.gets [1]).outcome circleWorld = (.ok found, u)
      ∧ (stepMapper.withRelated (stepMapper.gets [1])).outcome circleWorld =
        (.ok (found.map (steps.unfold circleRows 3 stepMapper)), v)
      ∧ steps.Holds ⟨fun _ => 0, fun _ => true, stepsWorld.unopened.places⟩ circleRows v := by
  refine ⟨build_steps, holds_circle, (related_unfold build_steps sound_steps.spelled sound_steps.apart
    ?_ ?_ holds_circle ?_ stepMapper_mem).2.2 _ (.gets [1])⟩
  · intro e member
    rw [List.mem_singleton.mp member]
    exact keyLawful_step
  · intro e member
    rw [List.mem_singleton.mp member]
    exact leavesUnset_step
  · intro m member
    rw [members_steps m member]
    exact (Mapper.Holding.empty.puts (sound_steps.entity stepMapper_mem) circle).decodes

end Registry

/-! ## Links that lead elsewhere -/

def ColumnBinding.crossed : ColumnBinding where
  type := .int64
  read := (ColumnGetter.property .int64 "number").read
  write := (ColumnSetter.property .int64 "id").write

namespace Registry

/-- Where steps lead to, as they are read from a table that has been made by the given statements. -/
def destinations (model : Model) (statements : String) (read : Mapper → Session (List Record)) :
    Session (List (Option FieldValue)) := do
  let r ← Session.build (.inMemory "default") none [model]
  match r.mapper? "Step" with
  | none => return []
  | some m =>
    let id ← m.contextId
    Session.withConnection id fun _ => Session.executeBatch id statements
    return (← m.withRelated (read m)).map fun step => (step.related "next").head?.bind (·.value? "id")

/-- Links are not always followed to the stored rows that they name: a step that leads to itself does
    not find itself where its key is not read as it has been written, or where the name of the key
    column is an expression. -/
theorem links_not_followed :
    ((destinations (.step "id" .crossed .empty)
        "create table step(id integer primary key,link);insert into step values(5,5)"
        (·.gets [5])).outcome {}).1.toOption = some [none]
    ∧ ((destinations (.step "0 or id" (.property .int64 "id") .empty)
        "create table step(id,\"0 or id\" integer primary key,link);insert into step values(1,5,5)"
        (·.select)).outcome {}).1.toOption = some [none] := by
  decide +kernel

end Registry

end EntityStore
