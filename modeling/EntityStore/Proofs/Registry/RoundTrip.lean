import EntityStore.Proofs.Registry.Graph
import EntityStore.Proofs.Registry.Writing

/-! # Graphs that come back

A record that has been unfolded along the links of a graph is saved with what it holds, and comes back
with what it refers to as it has been:

* `CompiledEntity.Independent` — accessors that do not interfere with each other.
* `CompiledEntity.Flat`, `Registry.Graph` — records as tables give them, and graphs of them.
* `Registry.noted` — what the tables keep of the records that are written: a part of the graph.
* `Registry.unfoldIn_part` — as far as a record leads, the part is unfolded as the graph is.
-/

namespace EntityStore

open EntityStore.Engine (Row)
open Session (Yields)

/-! ## Accessors -/

namespace Relation

variable {rel : Relation}

theorem taken_map (f : Record → Record) (found : List Record) :
    rel.taken (found.map f) = (rel.taken found).map f := by
  unfold taken
  split
  · cases found <;> rfl
  · rfl

theorem mem_of_mem_taken {record : Record} {found : List Record} (member : record ∈ rel.taken found) :
    record ∈ found := by
  unfold taken at member
  split at member
  · cases found with
    | nil => cases member
    | cons first _ => exact List.mem_cons.mpr (.inl (List.mem_singleton.mp member))
  · exact member

/-- Records that have been found make a difference by what the relation takes of them. -/
theorem given_congr {found other : List Record} (same : rel.taken found = rel.taken other)
    (row : Record) : rel.given row found = rel.given row other := by
  unfold taken at same
  unfold given
  cases cardinality : rel.plan.cardinality with
  | single =>
    rw [if_pos cardinality, if_pos cardinality] at same
    cases found <;> cases other <;> simp_all
  | _ => simp_all

/-- A relation reads back what has been written to it, as many records as it holds. -/
def Lawful (rel : Relation) : Prop :=
  ∀ row found, (rel.plan.cardinality = .single → found.length ≤ 1) →
    rel.getter.targets (rel.setter.store row found) = found

/-- Neither of two relations reads what is written to the other. -/
def Apart (rel another : Relation) : Prop :=
  ∀ row found, another.getter.targets (rel.setter.store row found) = another.getter.targets row
    ∧ rel.getter.targets (another.setter.store row found) = rel.getter.targets row

/-- A relation that holds nothing holds what it is given. -/
theorem targets_given (lawful : rel.Lawful) {row : Record} (unset : rel.getter.targets row = [])
    (found : List Record) : rel.getter.targets (rel.given row found) = rel.taken found := by
  unfold given taken
  cases cardinality : rel.plan.cardinality with
  | single =>
    rw [if_pos rfl]
    cases found with
    | nil => exact unset
    | cons first _ => exact lawful row [first] fun _ => Nat.le_refl 1
  | _ =>
    rw [if_neg (by decide)]
    exact lawful row found fun single => by rw [cardinality] at single; cases single

/-- Of relations that are given records one after the other each holds its own. -/
theorem targets_foldl {relations : List Relation} (apart : relations.Pairwise Apart)
    (lawful : ∀ rel ∈ relations, rel.Lawful) {row : Record}
    (unset : ∀ rel ∈ relations, rel.getter.targets row = []) (found : Relation → List Record)
    (listed : rel ∈ relations) :
    rel.getter.targets (relations.foldl (fun row rel => rel.given row (found rel)) row) =
      rel.taken (found rel) := by
  induction relations generalizing row with
  | nil => cases listed
  | cons first rest ih =>
    obtain ⟨others, apart⟩ := List.pairwise_cons.mp apart
    rw [List.foldl_cons]
    rcases List.mem_cons.mp listed with rfl | later
    · rw [keeps_foldl (f := rel.getter.targets) (fun another member row found =>
        (others another member row found).2)]
      exact targets_given (lawful rel (List.mem_cons_self ..)) (unset rel (List.mem_cons_self ..)) _
    · refine ih apart (fun rel member => lawful rel (List.mem_cons_of_mem _ member))
        (fun another member => ?_) later
      rw [keeps_given (f := another.getter.targets) fun row found =>
        (others another member row found).1]
      exact unset another (List.mem_cons_of_mem _ member)

end Relation

/-- What a column does not write it leaves alone. -/
theorem Column.keeps_put {α : Type} {f : Record → α} {access : Column}
    (kept : ∀ row v, f (access.setter.write row v) = f row) (row : Record) (v : FieldValue) :
    f (access.put row v) = f row := by
  unfold Column.put ColumnSetter.store?
  cases access.setter.type.ofField? v with
  | none => rfl
  | some carried => exact kept row carried

namespace CompiledEntity

/-- Accessors that read back what has been written with them, and nothing that has been written with
    others, and a constructor that leaves relations without records. -/
structure Independent (e : CompiledEntity) : Prop where
  columns : e.Lawful
  relations : ∀ rel ∈ e.relations, rel.Lawful
  apart : e.relations.Pairwise Relation.Apart
  fields : ∀ access ∈ e.columns, ∀ rel ∈ e.relations, ∀ row found,
    access.getter.field (rel.setter.store row found) = access.getter.field row
  links : ∀ rel ∈ e.relations, ∀ another ∈ e.relations, ∀ row found,
    rel.link.field (another.setter.store row found) = rel.link.field row
  held : ∀ rel ∈ e.relations, ∀ access ∈ e.columns, ∀ row v,
    rel.getter.targets (access.setter.write row v) = rel.getter.targets row
  unset : ∀ rel ∈ e.relations, rel.getter.targets e.initial = []

/-- A value of a column in the form that a table gives it. -/
structure Normal (access : Column) (v : FieldValue) : Prop where
  typed : ∃ carried, v = access.setter.type.toField carried
  settled : v.settled = v

/-- A record that is the values of its columns, each in the form that a table gives it, and besides them
    what the constructor gives. -/
def Flat (e : CompiledEntity) (record : Record) : Prop :=
  ∃ values, List.Forall₂ Normal e.columns values ∧ record = e.assembled values

variable {e : CompiledEntity} {record : Record}

theorem Independent.keyLawful (independent : e.Independent) : e.KeyLawful where
  column := independent.columns.at _
  relations rel listed row found := by
    unfold keyOf
    cases here : e.columns[e.plan.primaryKey]? with
    | none => rfl
    | some access =>
      dsimp only
      rw [independent.fields access (List.mem_of_getElem? here) rel listed]

/-- What comes back of a record depends on its columns. -/
theorem restored_congr {other : Record}
    (same : ∀ access ∈ e.columns, access.getter.field record = access.getter.field other) :
    e.restored record = e.restored other := by
  unfold restored
  rw [List.map_congr_left fun access listed => congrArg FieldValue.settled (same access listed)]

theorem Flat.restored (flat : e.Flat record) (lawful : e.Lawful) : e.restored record = record := by
  obtain ⟨values, normal, rfl⟩ := flat
  have read : (e.columns.map fun access => (access.getter.field (e.assembled values)).settled) =
      values := by
    refine List.map_eq_iff.mpr fun i => ?_
    cases here : e.columns[i]? with
    | none =>
      rw [List.getElem?_eq_none_iff, normal.length_eq, ← List.getElem?_eq_none_iff] at here
      rw [here]
      rfl
    | some access =>
      obtain ⟨v, value, ⟨carried, typed⟩, settled⟩ := getElem?_of_forall₂ normal here
      have held : access.getter.field (e.assembled values) = access.setter.type.admitted v :=
        field_assembled (lawful.at i) here value (by rw [typed, ColumnType.semantic_toField])
      have admitted : access.setter.type.admitted v = v := by
        rw [← settled, typed]
        exact ColumnType.admitted_settled _ carried
      rw [value, Option.map_some, held, admitted, settled]
  rw [CompiledEntity.restored, read]

theorem Flat.targets (flat : e.Flat record) (independent : e.Independent) {rel : Relation}
    (listed : rel ∈ e.relations) : rel.getter.targets record = [] := by
  obtain ⟨values, _, rfl⟩ := flat
  have members : ∀ pair ∈ e.columns.zip values, pair.1 ∈ e.columns :=
    fun _ member => (List.of_mem_zip member).1
  refine Eq.trans ?_ (independent.unset rel listed)
  rw [assembled]
  generalize e.initial = row
  generalize e.columns.zip values = pairs at members ⊢
  induction pairs generalizing row with
  | nil => rfl
  | cons pair rest ih =>
    obtain ⟨access, v⟩ := pair
    rw [List.foldl_cons, ih _ fun pair later => members pair (List.mem_cons_of_mem _ later)]
    exact Column.keeps_put
      (independent.held rel listed access (members _ (List.mem_cons_self ..))) row v

end CompiledEntity

/-! ## Unfolding -/

namespace Registry

variable {r : Registry} {m : Mapper}

/-- A graph of flat records, each under its key. -/
structure Graph (r : Registry) (graph : Nat → Contents) : Prop where
  flat : ∀ m ∈ r.mappers, ∀ key record, graph m.index key = some record → m.entity.Flat record
  keys : ∀ m ∈ r.mappers, ∀ key record, graph m.index key = some record → m.entity.keyOf record = key

def leads (r : Registry) (graph : Nat → Contents) (depth : Nat) (rel : Relation) (record : Record) :
    List Record :=
  match r.mapper? rel.plan.target with
  | none => []
  | some target =>
    (target.linkedIn (graph target.index) rel record).map (r.unfoldIn graph depth target)

def Listed (graph : Nat → Contents) (t : Mapper × Record) : Prop :=
  graph t.1.index (t.1.entity.keyOf t.2) = some (t.1.entity.restored t.2)

variable {graph part : Nat → Contents}

theorem leads_congr {depth : Nat} {rel : Relation} {record other : Record}
    (same : rel.link.field record = rel.link.field other) :
    r.leads graph depth rel record = r.leads graph depth rel other := by
  simp only [leads, Mapper.linkedIn, Relation.named, Relation.linkKey?, Relation.linkText?, same]

theorem unfoldIn_succ (independent : m.entity.Independent) (depth : Nat) (record : Record) :
    r.unfoldIn graph (depth + 1) m record =
      m.entity.relations.foldl (fun row rel => rel.given row (r.leads graph depth rel record)) record := by
  -- What has been attached before leaves the links as they are.
  have along : ∀ relations : List Relation, (∀ rel ∈ relations, rel ∈ m.entity.relations) →
      ∀ row, (∀ rel ∈ m.entity.relations, rel.link.field row = rel.link.field record) →
        relations.foldl (fun row rel => rel.given row (r.leads graph depth rel row)) row =
          relations.foldl (fun row rel => rel.given row (r.leads graph depth rel record)) row := by
    intro relations
    induction relations with
    | nil => exact fun _ _ _ => rfl
    | cons rel rest ih =>
      intro members row links
      have here := members rel (List.mem_cons_self ..)
      rw [List.foldl_cons, List.foldl_cons, leads_congr (links rel here)]
      refine ih (fun rel later => members rel (List.mem_cons_of_mem _ later)) _ fun other there => ?_
      rw [Relation.keeps_given (f := other.link.field) fun row found =>
        independent.links other there rel here row found]
      exact links other there
  exact along _ (fun _ listed => listed) record fun _ _ => rfl

section
variable (independent : m.entity.Independent)
include independent

theorem field_unfoldIn (depth : Nat) (record : Record) {access : Column}
    (listed : access ∈ m.entity.columns) :
    access.getter.field (r.unfoldIn graph depth m record) = access.getter.field record := by
  cases depth with
  | zero => rfl
  | succ depth =>
    exact Relation.keeps_foldl (f := access.getter.field) (independent.fields access listed) _ record

theorem keyOf_unfoldIn (depth : Nat) (record : Record) :
    m.entity.keyOf (r.unfoldIn graph depth m record) = m.entity.keyOf record := by
  cases depth with
  | zero => rfl
  | succ depth => exact Relation.keeps_foldl independent.keyLawful.relations _ record

theorem restored_unfoldIn (depth : Nat) {record : Record} (flat : m.entity.Flat record) :
    m.entity.restored (r.unfoldIn graph depth m record) = record := by
  rw [CompiledEntity.restored_congr fun _ listed => field_unfoldIn independent depth record listed]
  exact flat.restored independent.columns

theorem targets_unfoldIn (depth : Nat) {record : Record} (flat : m.entity.Flat record)
    {rel : Relation} (listed : rel ∈ m.entity.relations) :
    rel.getter.targets (r.unfoldIn graph (depth + 1) m record) =
      rel.taken (r.leads graph depth rel record) := by
  rw [unfoldIn_succ independent]
  exact Relation.targets_foldl independent.apart independent.relations
    (fun _ listed => flat.targets independent listed) _ listed

end

theorem linkedIn_keys (m : Mapper) (rel : Relation) (record : Record) :
    ∃ keys : List Int64, ∀ contents, m.linkedIn contents rel record = keys.filterMap contents := by
  unfold Mapper.linkedIn Relation.named
  cases rel.linkKey? record with
  | some key => exact ⟨[key], fun contents => by cases named : contents key <;> simp [named]⟩
  | none =>
    cases rel.linkText? record with
    | some text => exact ⟨fetchOrder (m.keysIn text), fun _ => rfl⟩
    | none => exact ⟨[], fun _ => rfl⟩

theorem leads_eq {depth : Nat} {rel : Relation} {target : Mapper}
    (found : r.mapper? rel.plan.target = some target) (record : Record) :
    r.leads graph depth rel record =
      (target.linkedIn (graph target.index) rel record).map (r.unfoldIn graph depth target) := by
  rw [leads, found]

theorem mem_linkedIn {rel : Relation} {record t : Record} {contents : Contents}
    (member : t ∈ m.linkedIn contents rel record) : ∃ key, contents key = some t := by
  obtain ⟨keys, named⟩ := linkedIn_keys m rel record
  rw [named] at member
  obtain ⟨key, _, known⟩ := List.mem_filterMap.mp member
  exact ⟨key, known⟩

/-! ## What is written of a graph -/

section
variable (independent : ∀ e ∈ r.catalog.entities, e.Independent) (whole : r.Graph graph)
include independent whole

theorem listed_unfoldIn (member : m ∈ r.mappers) {key : Int64} {record : Record}
    (known : graph m.index key = some record) (depth : Nat) :
    Listed graph (m, r.unfoldIn graph depth m record) := by
  have own := independent _ (entity_mem member)
  unfold Listed
  rw [keyOf_unfoldIn own, whole.keys m member key record known, known,
    restored_unfoldIn own depth (whole.flat m member key record known)]

/-- Whatever a relation of an unfolded record holds is unfolded itself, and is written with it. -/
theorem deeper_written (member : m ∈ r.mappers) {key : Int64} {record : Record}
    (known : graph m.index key = some record) {depth : Nat} {rel : Relation} {target : Mapper}
    (listed : rel ∈ m.entity.relations) (found : r.mapper? rel.plan.target = some target)
    {t : Mapper × Record} :
    t ∈ r.written depth target
        (rel.getter.targets (r.unfoldIn graph (depth + 1) m record)) ↔
      ∃ other ∈ rel.taken (target.linkedIn (graph target.index) rel record),
        t ∈ r.written depth target [r.unfoldIn graph depth target other] := by
  rw [targets_unfoldIn (independent _ (entity_mem member)) depth
    (whole.flat m member key record known) listed, leads_eq found, Relation.taken_map,
    mem_written_singleton]
  simp only [List.mem_map, exists_exists_and_eq_and]

theorem listed_written (depth : Nat) : ∀ m ∈ r.mappers, ∀ key record, graph m.index key = some record →
    ∀ t ∈ r.written depth m [r.unfoldIn graph depth m record], Listed graph t := by
  induction depth with
  | zero =>
    intro m member key record known t listed
    rw [List.mem_singleton.mp listed]
    exact listed_unfoldIn independent whole member known 0
  | succ depth ih =>
    intro m member key record known t listed
    rcases List.mem_append.mp listed with first | later
    · rw [List.mem_singleton.mp first]
      exact listed_unfoldIn independent whole member known _
    · obtain ⟨rel, among, target, found, deeper⟩ := mem_descend_succ.mp later
      rw [List.flatMap_singleton, deeper_written independent whole member known among found] at deeper
      obtain ⟨other, taken, within⟩ := deeper
      obtain ⟨key, known⟩ := mem_linkedIn (Relation.mem_of_mem_taken taken)
      exact ih target (mapper?_mem found) key other known t within

end

/-! ## Parts of a graph -/

/-- What a relation takes of the records of keys, if it finds there what it would take. -/
theorem taken_part {rel : Relation} {part whole : Contents}
    (le : ∀ key record, part key = some record → whole key = some record) {keys : List Int64}
    (covered : ∀ key record, whole key = some record → record ∈ rel.taken (keys.filterMap whole) →
      part key = some record) :
    rel.taken (keys.filterMap part) = rel.taken (keys.filterMap whole) := by
  have absent {key : Int64} (free : whole key = none) : part key = none := by
    cases known : part key with
    | none => rfl
    | some record =>
      rw [le key record known] at free
      cases free
  unfold Relation.taken at covered ⊢
  split
  · next single =>
    -- The first record that is there is taken, so the keys before it lead nowhere in the part either.
    rw [if_pos single] at covered
    induction keys with
    | nil => rfl
    | cons key rest ih =>
      cases known : whole key with
      | none =>
        rw [List.filterMap_cons_none known] at covered ⊢
        rw [List.filterMap_cons_none (absent known)]
        exact ih covered
      | some record =>
        rw [List.filterMap_cons_some known] at covered ⊢
        rw [List.filterMap_cons_some (covered key record known (List.mem_singleton_self _))]
        rfl
  · next many =>
    rw [if_neg many] at covered
    refine List.filterMap_congr fun key listed => ?_
    cases known : whole key with
    | none => exact absent known
    | some record => exact covered key record known (List.mem_filterMap.mpr ⟨key, listed, known⟩)

theorem unfoldIn_part (regular : r.catalog.Regular)
    (independent : ∀ e ∈ r.catalog.entities, e.Independent) (whole : r.Graph graph)
    (le : ∀ i key record, part i key = some record → graph i key = some record) (depth : Nat) :
    ∀ m ∈ r.mappers, ∀ key record, graph m.index key = some record →
      (∀ t ∈ r.written depth m [r.unfoldIn graph depth m record], Listed part t) →
        r.unfoldIn part depth m record = r.unfoldIn graph depth m record := by
  -- On the bound, for all mappers and records at once, since a relation leads to other mappers.
  induction depth with
  | zero => exact fun _ _ _ _ _ _ => rfl
  | succ depth ih =>
    intro m member key record known covered
    have own := independent _ (entity_mem member)
    rw [unfoldIn_succ own, unfoldIn_succ own]
    refine List.foldl_ext _ _ _ fun row rel listed => Relation.given_congr ?_ row
    obtain ⟨target, found⟩ := mapper?_target regular member listed
    have there := mapper?_mem found
    -- What the relation takes is in the part, with whatever that leads to.
    have deeper : ∀ other ∈ rel.taken (target.linkedIn (graph target.index) rel record),
        ∀ t ∈ r.written depth target [r.unfoldIn graph depth target other], Listed part t := by
      intro other taken t within
      refine covered t (List.mem_append_right _ (mem_descend_succ.mpr ⟨rel, listed, target, found, ?_⟩))
      rw [List.flatMap_singleton, deeper_written independent whole member known listed found]
      exact ⟨other, taken, within⟩
    have same : rel.taken (target.linkedIn (part target.index) rel record) =
        rel.taken (target.linkedIn (graph target.index) rel record) := by
      obtain ⟨keys, named⟩ := linkedIn_keys target rel record
      rw [named, named]
      refine taken_part (le target.index) fun key other known taken => ?_
      rw [← named] at taken
      have present := deeper other taken _ (List.mem_append_left _ (List.mem_singleton_self _))
      have theirs := independent _ (entity_mem there)
      rw [Listed, keyOf_unfoldIn theirs, whole.keys target there key other known,
        restored_unfoldIn theirs depth (whole.flat target there key other known)] at present
      exact present
    rw [leads_eq found, leads_eq found, Relation.taken_map, Relation.taken_map, same]
    refine List.map_congr_left fun other taken => ?_
    obtain ⟨key, known⟩ := mem_linkedIn (Relation.mem_of_mem_taken taken)
    exact ih target there key other known (deeper other taken)

/-! ## What the tables keep -/

/-- What mappers hold after records have been written, one after the other. -/
def noted (graph : Nat → Contents) (records : List (Mapper × Record)) : Nat → Contents :=
  records.foldl (fun graph t => Function.update graph t.1.index
    (Function.update (graph t.1.index) (t.1.entity.keyOf t.2) (some (t.1.entity.restored t.2)))) graph

theorem holding_noted (regular : r.catalog.Regular) {records : List (Mapper × Record)}
    (members : ∀ t ∈ records, t.1 ∈ r.mappers) {rows : Nat → List Row}
    (holding : ∀ m ∈ r.mappers, m.Holding (graph m.index) (rows m.index)) :
    ∀ m ∈ r.mappers, m.Holding (noted graph records m.index) (stored rows records m.index) := by
  induction records generalizing graph rows with
  | nil => exact holding
  | cons t rest ih =>
    refine ih (fun t listed => members t (List.mem_cons_of_mem _ listed)) fun m member => ?_
    have there := members t (List.mem_cons_self ..)
    dsimp only
    by_cases same : m.index = t.1.index
    · obtain rfl := mapper_unique there member same
      rw [Function.update_self, Function.update_self]
      exact (holding t.1 there).put (regular.entities _ (entity_mem there)) t.2
    · rw [Function.update_of_ne same, Function.update_of_ne same]
      exact holding m member

theorem noted_concat (records : List (Mapper × Record)) (t : Mapper × Record) (i : Nat) (key : Int64) :
    noted graph (records ++ [t]) i key =
      if i = t.1.index ∧ key = t.1.entity.keyOf t.2 then some (t.1.entity.restored t.2)
      else noted graph records i key := by
  rw [noted, List.foldl_append]
  change Function.update (noted graph records) t.1.index _ i key = _
  by_cases here : i = t.1.index
  · subst here
    by_cases same : key = t.1.entity.keyOf t.2
    · simp [same]
    · simp [same, noted]
  · simp [here]

/-- Of records that are listed in a graph, tables that were empty keep a part of it, in which they are
    listed. -/
theorem noted_listed {records : List (Mapper × Record)} (listed : ∀ t ∈ records, Listed graph t) :
    (∀ i key record, noted (fun _ _ => none) records i key = some record → graph i key = some record)
      ∧ ∀ t ∈ records, Listed (noted (fun _ _ => none) records) t := by
  induction records using List.reverseRecOn with
  | nil => exact ⟨nofun, nofun⟩
  | append_singleton records last ih =>
    obtain ⟨le, present⟩ := ih fun t before => listed t (List.mem_append_left _ before)
    have latest := listed last (List.mem_append_right _ (List.mem_singleton_self _))
    refine ⟨fun i key record known => ?_, fun t among => ?_⟩
    · rw [noted_concat] at known
      split at known
      · next here =>
        rw [here.1, here.2, ← known]
        exact latest
      · exact le i key record known
    · have own := listed t among
      rw [Listed, noted_concat]
      split
      · next here =>
        -- Under one key of a graph there is one record.
        rw [Listed, here.1, here.2] at own
        exact latest.symm.trans own
      · next elsewhere =>
        rcases List.mem_append.mp among with before | now
        · exact present t before
        · rw [List.mem_singleton.mp now] at elsewhere
          exact absurd ⟨rfl, rfl⟩ elsewhere

/-! ## There and back -/

theorem independent_step : CompiledEntity.step.Independent where
  columns := @CompiledEntity.Lawful.properties _ [(.int64, "id"), (.int64, "link")] rfl (by decide)
  relations rel listed row found few := by
    rw [List.mem_singleton.mp listed] at few ⊢
    cases found with
    | nil => simp [RelationGetter.targets, RelationGetter.property, RelationSetter.store,
        RelationSetter.property]
    | cons t rest =>
      obtain rfl : rest = [] := List.length_eq_zero_iff.mp (Nat.le_zero.mp (Nat.le_of_succ_le_succ (few rfl)))
      simp [RelationGetter.targets, RelationGetter.property, RelationSetter.store,
        RelationSetter.property]
  apart := List.pairwise_singleton ..
  fields access listed rel there row found := by
    rw [List.mem_singleton.mp there]
    rcases List.mem_pair.mp listed with rfl | rfl <;> cases found <;> rfl
  links rel listed another there row found := by
    rw [List.mem_singleton.mp listed, List.mem_singleton.mp there]
    cases found <;> rfl
  held rel listed access there row v := by
    rw [List.mem_singleton.mp listed]
    rcases List.mem_pair.mp there with rfl | rfl <;> rfl
  unset rel listed := by
    rw [List.mem_singleton.mp listed]
    rfl

def circleGraph : Nat → Contents := fun _ key =>
  if key = 1 then some (.step 1 2) else if key = 2 then some (.step 2 1) else none

theorem graph_circle : steps.Graph circleGraph := by
  have flat (key link : Int64) : CompiledEntity.step.Flat (.step key link) :=
    ⟨[.int64 key, .int64 link], .cons ⟨⟨key, rfl⟩, rfl⟩ (.cons ⟨⟨link, rfl⟩, rfl⟩ .nil), rfl⟩
  have known {i : Nat} {key : Int64} {record : Record} (listed : circleGraph i key = some record) :
      ∃ link, record = .step key link := by
    unfold circleGraph at listed
    split at listed
    · next first => exact ⟨2, by rw [first]; exact (Option.some.inj listed).symm⟩
    · split at listed
      · next second => exact ⟨1, by rw [second]; exact (Option.some.inj listed).symm⟩
      · cases listed
  refine ⟨fun m member key record listed => ?_, fun m member key record listed => ?_⟩
  · obtain ⟨link, rfl⟩ := known listed
    rw [members_steps m member]
    exact flat key link
  · obtain ⟨link, rfl⟩ := known listed
    rw [members_steps m member]
    rfl

/-- What comes back of a note whose text column has the name of a text. -/
def quoted : Session (Bool × Option (Option FieldValue)) := do
  let r ← Session.build (.inMemory "default") none [quotedNote]
  match r.mapper? "Note" with
  | none => return (false, none)
  | some m =>
    let saved ← m.saveWithRelated (.mk [("id", .int64 1), ("text", .text "a")] [])
    return (saved, (← m.getWithRelated 1).map (·.value? "text"))

end Registry

end EntityStore
