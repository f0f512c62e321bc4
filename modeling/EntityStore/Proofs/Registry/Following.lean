import EntityStore.Proofs.Catalog.Decoding
import EntityStore.Proofs.Catalog.Relation
import EntityStore.Proofs.Registry.Contents

/-! # Records with what they refer to

What a read gives with what its records refer to is each record for itself, with its links followed in
the stored rows:

* `Mapper.Decodes` — a table whose rows are records.
* `Mapper.underKey`, `Mapper.underKeys` — the records of keys.
* `Registry.follow` — a record with what it refers to, so many levels deep.
* `Registry.yields_resolved` — resolving records all together is following the links of each.
-/

namespace EntityStore

open EntityStore.Engine (Row Database)
open EntityStore.Sql (Datum)
open Session (Yields Succeeds)

/-! ## Records of keys -/

/-- The key of a record is what its column reads, and neither another column nor a relation writes
    it. -/
structure CompiledEntity.KeyLawful (e : CompiledEntity) : Prop where
  column : e.LawfulAt e.plan.primaryKey
  relations : ∀ rel ∈ e.relations, ∀ row found, e.keyOf (rel.setter.store row found) = e.keyOf row

namespace Mapper

def recordAt (m : Mapper) (row : Row) : Record := (m.recordOf row).toOption.getD m.entity.initial

/-- A table whose rows are all read as records. -/
structure Decodes (m : Mapper) (rows : List Row) : Prop where
  fits : m.plan.Fits rows
  ordered : m.plan.Ordered rows
  reads : ∀ row ∈ rows, ∃ record, m.recordOf row = .ok record

/-- The record of a key, if there is one. -/
def underKey (m : Mapper) (rows : List Row) (key : Int64) : List Record :=
  (m.plan.rowsOf [key] rows).map m.recordAt

/-- The records of keys, piece by piece and in the order of the table within each. -/
def underKeys (m : Mapper) (rows : List Row) (keys : List Int64) : List Record :=
  (chunks maxKeysPerQuery (distinct keys)).flatMap fun chunk =>
    (m.plan.rowsOf chunk rows).map m.recordAt

def linked (m : Mapper) (rows : List Row) (rel : Relation) (row : Record) : List Record :=
  rel.named (m.underKey rows) (fun text => m.underKeys rows (m.keysIn text)) row

variable {m : Mapper} {rows : List Row}

theorem Decodes.recordOf (decodes : m.Decodes rows) {row : Row} (member : row ∈ rows) :
    m.recordOf row = .ok (m.recordAt row) := by
  obtain ⟨record, read⟩ := decodes.reads row member
  rw [recordAt, read]
  rfl

theorem Holding.decodes {contents : Contents} (holding : m.Holding contents rows) : m.Decodes rows where
  fits := holding.fits
  ordered := holding.ordered
  reads _ member := by
    obtain ⟨record, _, read⟩ := holding.reads member
    exact ⟨record, read⟩

section
variable (regular : m.entity.Regular) (lawful : m.entity.KeyLawful) (decodes : m.Decodes rows)
include regular lawful decodes

theorem keyOf_recordAt {row : Row} (member : row ∈ rows) {key : Int64}
    (number : (m.plan.keyAt row).isNumber key = true) : m.entity.keyOf (m.recordAt row) = key :=
  keyOf_recordOf regular lawful.column (decodes.fits.keys row member) number
    (decodes.recordOf member)

/-- Among the records of keys those with one key are what is stored under it. -/
theorem filter_underKeys (keys : List Int64) (key : Int64) :
    ((m.underKeys rows keys).filter fun t => m.entity.keyOf t = key) =
      if key ∈ keys then m.underKey rows key else [] := by
  -- Keys are read in chunks, and a key that is asked for is in exactly one of them.
  have piece (chunk : List Int64) :
      (((m.plan.rowsOf chunk rows).map m.recordAt).filter fun t => m.entity.keyOf t = key) =
        if key ∈ chunk then m.underKey rows key else [] := by
    have same : ∀ row ∈ m.plan.rowsOf chunk rows,
        decide (m.entity.keyOf (m.recordAt row) = key) =
          (decide (key ∈ chunk) && (m.plan.keyAt row).isNumber key) := by
      intro row listed
      obtain ⟨member, found⟩ := List.mem_filter.mp listed
      obtain ⟨k, asked, number⟩ := List.any_eq_true.mp found
      rw [keyOf_recordAt regular lawful decodes member number]
      by_cases equal : k = key
      · subst equal
        simp [asked, number]
      · simp [equal, Datum.isNumber_unique number equal]
    rw [List.filter_map]
    simp only [Function.comp_def]
    rw [List.filter_congr same]
    by_cases asked : key ∈ chunk
    · rw [if_pos asked, underKey, MappingPlan.rowsOf, MappingPlan.rowsOf, List.filter_filter]
      refine congrArg _ (List.filter_congr fun row _ => ?_)
      cases number : (m.plan.keyAt row).isNumber key with
      | true =>
        have any : (chunk.any fun k => (m.plan.keyAt row).isNumber k) = true :=
          List.any_eq_true.mpr ⟨key, asked, number⟩
        simp [asked, number, any]
      | false => simp [number]
    · simp [asked]
  rw [underKeys, List.filter_flatMap]
  simp only [piece]
  rw [flatMap_of_nodup _ (by rw [flatten_chunks]; exact nodup_distinct keys), flatten_chunks]
  simp only [mem_distinct]

omit regular lawful in
theorem length_underKey (key : Int64) : (m.underKey rows key).length ≤ 1 := by
  rw [underKey, List.length_map]
  rcases MappingPlan.rowsOf_single decodes.ordered key with none | ⟨row, _, single, _⟩
  · simp [none]
  · simp [single]

/-- No two of the records of keys have the same key. -/
theorem nodup_underKeys (keys : List Int64) : ((m.underKeys rows keys).map m.entity.keyOf).Nodup := by
  refine List.nodup_iff_count_le_one.mpr fun key => ?_
  have count : ((m.underKeys rows keys).map m.entity.keyOf).count key =
      ((m.underKeys rows keys).filter fun t => m.entity.keyOf t = key).length := by
    rw [List.count, List.countP_map, List.countP_eq_length_filter]
    rfl
  rw [count, filter_underKeys regular lawful decodes]
  split
  · exact length_underKey decodes key
  · exact Nat.zero_le 1

end

end Mapper

/-! ## Following links -/

namespace Registry

/-- A record with what it refers to, so many levels deep: each relation in turn is given the stored
    records that its link names, with the links of each of them followed one level less deep. -/
def follow (r : Registry) (rows : Nat → List Row) : Nat → Mapper → Record → Record
  | 0, _, record => record
  | depth + 1, m, record => m.entity.relations.foldl (fun record rel =>
      rel.given record
        (match r.mapper? rel.plan.target with
        | none => []
        | some target =>
          (target.linked (rows target.index) rel record).map (r.follow rows depth target))) record

variable {r : Registry} {m : Mapper} {rows : Nat → List Row}

theorem keyOf_follow (lawful : m.entity.KeyLawful) (depth : Nat) (record : Record) :
    m.entity.keyOf (r.follow rows depth m record) = m.entity.keyOf record := by
  cases depth with
  | zero => rfl
  | succ depth => exact Relation.keeps_foldl lawful.relations _ record

theorem mapper?_target (regular : r.catalog.Regular) (member : m ∈ r.mappers) {rel : Relation}
    (listed : rel ∈ m.entity.relations) : ∃ target, r.mapper? rel.plan.target = some target := by
  obtain ⟨e, known, name⟩ := regular.targets _ (entity_mem member) rel listed
  have present : (r.catalog.entities.findIdx? fun e => e.schema.qualifiedName = rel.plan.target).isSome := by
    rw [List.findIdx?_isSome, List.any_eq_true]
    exact ⟨e, known, decide_eq_true name⟩
  obtain ⟨i, found⟩ := Option.isSome_iff_exists.mp present
  have bound := (List.findIdx?_eq_some_iff_getElem.mp found).1
  exact ⟨_, by rw [mapper?, found]; dsimp only; rw [List.getElem?_eq_getElem bound]; rfl⟩

/-! ## Rows by keys -/

section
variable {site : Setting} (sound : r.Sound site.home) (member : m ∈ r.mappers)
  (decodes : m.Decodes (rows m.index))
include sound member decodes

theorem yields_gets (keys : List Int64) :
    Yields (r.Holds site rows) (m.gets keys) (m.underKeys (rows m.index) keys) (r.Holds site rows) :=
  yields_kept sound member fun _ _ _ => Mapper.yields_gets (sound.accepted member) decodes.fits
    (fun _ listed => decodes.recordOf listed) keys

theorem yields_getsListed (text : String) :
    Yields (r.Holds site rows) (m.getsListed text) (m.underKeys (rows m.index) (m.keysIn text))
      (r.Holds site rows) :=
  yields_kept sound member fun _ _ _ => Mapper.yields_getsListed (sound.accepted member) decodes.fits
    (fun _ listed => decodes.recordOf listed) text

theorem yields_get (key : Int64) :
    Yields (r.Holds site rows) (m.get key) (m.underKey (rows m.index) key).head?
      (r.Holds site rows) := by
  have found : (m.plan.rowsOf [key] (rows m.index)).mapM m.recordOf =
      .ok (m.underKey (rows m.index) key) :=
    mapM_eq_ok fun row listed => decodes.recordOf (List.mem_filter.mp listed).1
  exact yields_kept sound member fun _ _ _ =>
    Mapper.yields_get (sound.accepted member) decodes.fits found

end

/-! ## Resolving -/

section
variable {site : Setting} (sound : r.Sound site.home)
  (lawful : ∀ e ∈ r.catalog.entities, e.KeyLawful)
  (decodes : ∀ m ∈ r.mappers, m.Decodes (rows m.index))
include sound decodes

omit sound decodes in
theorem yields_requireRegistry (member : m ∈ r.mappers) :
    Yields (r.Holds site rows) m.requireRegistry () (r.Holds site rows) := by
  rintro w ⟨s, shows, stands⟩
  have alive : (w.registries.getD m.registry.id default).alive = true := by
    rw [(mem_mappers.mp member).1, shows.registries]
    exact stands.alive
  refine ⟨w, ?_, s, shows, stands⟩
  rw [Mapper.requireRegistry, Session.outcome_bind_ok (show (Session.isAlive m.registry.id).outcome w =
    (.ok true, w) by rw [← alive]; rfl)]
  rfl

include lawful

def Resolves (r : Registry) (site : Setting) (rows : Nat → List Row) (depth : Nat) (m : Mapper) : Prop :=
  ∀ records, Yields (r.Holds site rows) (m.resolved (r.stores depth) records)
    (records.map (r.follow rows depth m)) (r.Holds site rows)

variable {depth : Nat} {target : Mapper} (there : target ∈ r.mappers)
  (deeper : r.Resolves site rows depth target)
include there

omit sound in
theorem nodup_followed (regular : target.entity.Regular) (keys : List Int64) :
    (((target.underKeys (rows target.index) keys).map (r.follow rows depth target)).map
      target.entity.keyOf).Nodup := by
  have keyLawful := lawful _ (entity_mem there)
  have same : target.entity.keyOf ∘ r.follow rows depth target = target.entity.keyOf :=
    funext (keyOf_follow keyLawful depth)
  rw [List.map_map, same]
  exact Mapper.nodup_underKeys regular keyLawful (decodes target there) keys

include deeper

theorem yields_resolveText {rel : Relation} {record : Record} (text : rel.linkKey? record = none) :
    Yields (r.Holds site rows) (rel.resolveText (target.store (r.stores depth)) record)
      (rel.given record
        ((target.linked (rows target.index) rel record).map (r.follow rows depth target)))
      (r.Holds site rows) := by
  unfold Relation.resolveText Mapper.linked Relation.named
  rw [text]
  cases rel.linkText? record with
  | none =>
    have nothing : (if rel.plan.cardinality = .single then record else rel.setter.store record []) =
        rel.given record [] := by
      unfold Relation.given
      cases rel.plan.cardinality <;> rfl
    dsimp only
    rw [nothing]
    exact .pure _
  | some text =>
    refine .bind (.bind (yields_getsListed sound there (decodes _ there) text) (deeper _)) ?_
    have attached : rel.attachFound target.entity.keyOf record
        ((target.underKeys (rows target.index) (target.keysIn text)).map (r.follow rows depth target)) =
          rel.given record ((target.underKeys (rows target.index) (target.keysIn text)).map
            (r.follow rows depth target)) :=
      Relation.attachFound_eq (nodup_followed lawful decodes there (sound.entity there) _) record
    exact attached ▸ .pure _

theorem yields_resolveBatched {rel : Relation}
    (single : rel.plan.strategy = .batchedSingle ↔ rel.plan.cardinality = .single)
    (links : ∀ record, ∃ key, rel.linkKey? record = some key) (records : List Record) :
    Yields (r.Holds site rows) (rel.resolveBatched (target.store (r.stores depth)) records)
      (records.map fun record => rel.given record
        ((target.linked (rows target.index) rel record).map (r.follow rows depth target)))
      (r.Holds site rows) := by
  have keyLawful := lawful _ (entity_mem there)
  -- Of the targets of the whole batch, a record gets those that it names itself.
  have attached : ∀ record ∈ records,
      rel.attach target.entity.keyOf
        ((target.underKeys (rows target.index) (rel.linkKeys records)).map
          (r.follow rows depth target)) record =
      rel.given record
        ((target.linked (rows target.index) rel record).map (r.follow rows depth target)) := by
    intro record member
    obtain ⟨key, link⟩ := links record
    have asked : key ∈ rel.linkKeys records :=
      mem_distinct.mpr (List.mem_filterMap.mpr ⟨record, member, link⟩)
    have own := Mapper.filter_underKeys (sound.entity there) keyLawful (decodes target there)
      (rel.linkKeys records) key
    rw [if_pos asked] at own
    have linked : target.linked (rows target.index) rel record =
        target.underKey (rows target.index) key := by
      unfold Mapper.linked Relation.named
      rw [link]
    rw [linked]
    refine Relation.attach_eq single link ?_
      (nodup_followed lawful decodes there (sound.entity there) _)
    rw [List.filter_map, ← own]
    simp only [Function.comp_def, keyOf_follow keyLawful]
  unfold Relation.resolveBatched
  split
  · next none =>
    cases records with
    | nil => exact .pure []
    | cons first rest =>
      obtain ⟨key, link⟩ := links first
      have asked : key ∈ rel.linkKeys (first :: rest) :=
        mem_distinct.mpr (List.mem_filterMap.mpr ⟨first, List.mem_cons_self .., link⟩)
      rw [none] at asked
      cases asked
  · refine .bind (.bind (yields_gets sound there (decodes _ there) _) (deeper _)) ?_
    rw [← List.map_congr_left attached]
    exact .pure _

theorem yields_resolve {m : Mapper} (member : m ∈ r.mappers) {rel : Relation}
    (listed : rel ∈ m.entity.relations) (found : r.mapper? rel.plan.target = some target)
    (records : List Record) :
    Yields (r.Holds site rows)
      (rel.resolve (fun name => (r.mapper? name).map fun m => m.store (r.stores depth)) records)
      (records.map fun record => rel.given record
        ((target.linked (rows target.index) rel record).map (r.follow rows depth target)))
      (r.Holds site rows) := by
  have fits := (sound.entity member).relations rel listed
  unfold Relation.resolve Relation.storeIn
  dsimp only
  rw [found]
  split
  · next empty =>
    rw [List.isEmpty_iff] at empty
    subst empty
    exact .pure []
  · refine .bind (.pure (target.store (r.stores depth))) ?_
    -- A link of text is resolved row by row, and keys for all rows at once.
    rcases fits.cases with ⟨strategy, links⟩ | ⟨single, batched, links⟩
    · rw [strategy]
      exact .mapM fun record _ =>
        yields_resolveText sound lawful decodes there deeper (links record)
    · split
      · next strategy => exact absurd strategy batched
      · exact yields_resolveBatched sound lawful decodes there deeper single links records

end

section
variable {site : Setting} (sound : r.Sound site.home)
  (lawful : ∀ e ∈ r.catalog.entities, e.KeyLawful)
  (decodes : ∀ m ∈ r.mappers, m.Decodes (rows m.index))
include sound decodes lawful

theorem yields_resolveAll {depth : Nat} (deeper : ∀ target ∈ r.mappers, r.Resolves site rows depth target)
    (member : m ∈ r.mappers) {relations : List Relation} (listed : ∀ rel ∈ relations, rel ∈ m.entity.relations)
    (records : List Record) :
    Yields (r.Holds site rows)
      (relations.foldlM (fun records rel =>
        rel.resolve (fun name => (r.mapper? name).map fun m => m.store (r.stores depth)) records) records)
      (records.map fun record => relations.foldl (fun record rel => rel.given record
        (match r.mapper? rel.plan.target with
        | none => []
        | some target =>
          (target.linked (rows target.index) rel record).map (r.follow rows depth target))) record)
      (r.Holds site rows) := by
  -- Each relation works on the records that those before it have been written to.
  induction relations generalizing records with
  | nil =>
    rw [show (records.map fun record => [].foldl _ record) = records from List.map_id records]
    exact .pure records
  | cons rel rest ih =>
    obtain ⟨target, found⟩ := mapper?_target sound.regular member (listed rel (List.mem_cons_self ..))
    have there := mapper?_mem found
    have first := yields_resolve sound lawful decodes there (deeper target there) member
      (listed rel (List.mem_cons_self ..)) found records
    have others := ih (fun rel member => listed rel (List.mem_cons_of_mem _ member))
      (records.map fun record => rel.given record
        ((target.linked (rows target.index) rel record).map (r.follow rows depth target)))
    rw [List.map_map] at others
    simp only [List.foldlM_cons, List.foldl_cons, found]
    exact .bind first others

/-- Records of a mapper are resolved as their links are followed, to any depth. -/
theorem yields_resolved (depth : Nat) : ∀ m ∈ r.mappers, r.Resolves site rows depth m := by
  induction depth with
  | zero =>
    intro m _ records
    rw [show records.map (r.follow rows 0 m) = records from List.map_id records]
    exact .bind (.attempt (.pure records)) (.pure records)
  | succ depth ih =>
    intro m member records
    refine .bind (.attempt ?_) (.pure _)
    unfold Mapper.attachRelated Registry.stores
    dsimp only
    split
    · next idle =>
        -- Without records or relations there is nothing to resolve, and the depth does not count.
      have nothing : records.map (r.follow rows (depth + 1) m) = records := by
        rcases Bool.or_eq_true_iff.mp idle with empty | empty
        · rw [List.isEmpty_iff.mp empty]
          rfl
        · refine (List.map_congr_left fun record _ => ?_).trans (List.map_id records)
          rw [follow, List.isEmpty_iff.mp empty]
          rfl
      rw [nothing]
      exact .pure records
    · exact .bind (yields_requireRegistry member)
        (yields_resolveAll sound lawful decodes ih member (fun _ listed => listed) records)

theorem yields_getWithRelated (member : m ∈ r.mappers) (key : Int64) :
    Yields (r.Holds site rows) (m.getWithRelated key)
      ((m.underKey (rows m.index) key).head?.map (r.follow rows r.maxRefDepth m))
      (r.Holds site rows) := by
  -- What is read is resolved as a batch of one.
  refine .bind (yields_get sound member (decodes m member) key) ?_
  cases (m.underKey (rows m.index) key).head? with
  | none => exact .pure none
  | some record =>
    dsimp only
    rw [stores_eq member]
    exact .bind (yields_resolved sound lawful decodes r.maxRefDepth m member [record]) (.pure _)

end

end Registry

/-! ## A circle of steps -/

def Model.step (column : String) (key : ColumnBinding) (initial : Record) : Model where
  qualifiedName := "Step"
  keyType := .int64
  table := some "step"
  initial := some initial
  fields := [
    { name := "id", semantic := .int64, primaryKey := true, column := some column
      binding := some key },
    { name := "link", semantic := .int64, binding := some (.property .int64 "link") }]
  relations := [{
    name := "next", cardinality := .single, target := "Step", on := "link"
    binding := some (.property "Step" .one "next") }]

def Record.step (key link : Int64) : Record := .mk [("id", .int64 key), ("link", .int64 link)] []

def CompiledEntity.step : CompiledEntity where
  schema := {
    qualifiedName := "Step", table := "step", tag := "default"
    fields := [⟨"id", "id", .int64, true, false, "getId", "setId"⟩,
      ⟨"link", "link", .int64, false, false, "getLink", "setLink"⟩]
    primaryKey := "id"
    relations := [⟨"next", .single, "Step", "step", "id", "link", .int64, "getNext", "setNext"⟩] }
  plan := {
    entity := "Step", table := "step", tag := "default"
    columns := [⟨"id", "id", .int64, .integer, .integer, .int64, true, false⟩,
      ⟨"link", "link", .int64, .integer, .integer, .int64, false, false⟩]
    primaryKey := 0, keyColumn := "id"
    relations := [⟨"next", .single, .batchedSingle, "link", "Step"⟩] }
  keyType := .int64
  initial := .empty
  columns := [⟨.int64, .property .int64 "id", .property .int64 "id"⟩,
    ⟨.int64, .property .int64 "link", .property .int64 "link"⟩]
  relations := [⟨⟨"next", .single, .batchedSingle, "link", "Step"⟩, .property .int64 "link",
    .property "Step" .one "next", .property "Step" .one "next"⟩]

namespace Registry

def steps : Registry := { id := 0, group := 0, catalog := ⟨[.step]⟩, maxRefDepth := 3 }

def stepsWorld : World := ((Session.build (.inMemory "default") none
  [.step "id" (.property .int64 "id") .empty]).outcome {}).2

theorem build_steps : (Session.build (.inMemory "default") none
    [.step "id" (.property .int64 "id") .empty]).outcome {} = (.ok steps, stepsWorld) := by
  refine Prod.ext ?_ rfl
  rfl

theorem spelled_step : CompiledEntity.step.plan.Spelled :=
  ⟨by decide, by decide, by decide, by decide, by decide⟩

theorem shows_steps : stepsWorld.Shows stepsWorld.unopened := by
  refine World.shows_unopened rfl rfl fun c member => ?_
  have contexts : stepsWorld.contexts = [.ofConfig {}] := rfl
  rw [contexts, List.mem_singleton] at member
  subst member
  exact ⟨rfl, rfl⟩

theorem keyLawful_step : CompiledEntity.step.KeyLawful where
  column := (@CompiledEntity.Lawful.properties _ [(.int64, "id"), (.int64, "link")] rfl (by decide)).at 0
  relations rel member row found := by
    rw [List.mem_singleton.mp member]
    cases found <;> cases row <;> rfl

def stepMapper : Mapper := ⟨steps, 0, .step⟩

theorem members_steps : ∀ m ∈ steps.mappers, m = stepMapper :=
  fun _ member => List.mem_singleton.mp member

theorem stepMapper_mem : stepMapper ∈ steps.mappers := List.mem_singleton_self _

theorem sound_steps : steps.Sound fun _ => 0 where
  regular := (Session.build_ok build_steps).1
  spelled e member := by
    rw [List.mem_singleton.mp member]
    exact spelled_step
  apart m member other listed different :=
    absurd ((members_steps other listed).trans (members_steps m member).symm) different

def circle : List Record := [.step 1 2, .step 2 1]

def circleWorld : World := ((stepMapper.saveAll circle).outcome stepsWorld).2

def circleRows : Nat → List Row := fun _ => stepMapper.saved CompiledEntity.step.image circle []

theorem holds_steps : steps.Holds ⟨fun _ => 0, fun _ => true, stepsWorld.unopened.places⟩ (fun _ => [])
    stepsWorld := by
  refine ⟨_, shows_steps, .fresh rfl fun m member => ?_⟩
  rw [members_steps m member]
  exact ⟨rfl, nofun, rfl⟩

theorem holds_circle : steps.Holds ⟨fun _ => 0, fun _ => true, stepsWorld.unopened.places⟩ circleRows
    circleWorld := by
  have regular := sound_steps.entity stepMapper_mem
  obtain ⟨v, done, s, shows, stands⟩ := yields_holds sound_steps stepMapper_mem
    (fun _ _ _ => Mapper.yields_saveAll (sound_steps.accepted stepMapper_mem) fun record _ =>
      Mapper.stores_image regular record) stepsWorld holds_steps
  rw [circleWorld, done]
  refine ⟨s, shows, stands.alive, stands.places, stands.found, fun m member => ?_⟩
  obtain ⟨db, now⟩ := stands.mappers m member
  rw [members_steps m member] at now ⊢
  exact ⟨db, now⟩

end Registry

end EntityStore
