import EntityStore.Proofs.Registry.Holding

/-! # Mappers as maps

The mappers of a registry behave as maps from keys to records that are independent of each other:

* `Contents`, `Contents.Live` — what a mapper holds, and its keys in their order.
* `Mapper.Holding` — the rows that the table keeps of it.
* `Mapper.Call` — the calls of a mapper: what they do to the map, and how they answer.
* `Mapper.answers_call`, `Registry.answers_call`, `Registry.answers_calls` — one call, and any number
  of them.
-/

namespace EntityStore

open EntityStore.Engine (Database Row)
open EntityStore.Sql (Datum)
open Session (Yields Succeeds)

/-- What a mapper holds: the record that is read under a key. -/
abbrev Contents := Int64 → Option Record

/-- The keys of records that are held, in their order. -/
structure Contents.Live (contents : Contents) (keys : List Int64) : Prop where
  ordered : keys.Pairwise (· < ·)
  member : ∀ key, key ∈ keys ↔ (contents key).isSome

/-- The rows of a table that are read as what a mapper holds. -/
structure Mapper.Holding (m : Mapper) (contents : Contents) (rows : List Row) : Prop where
  fits : m.plan.Fits rows
  ordered : m.plan.Ordered rows
  numbered : m.plan.Numbered rows
  found : ∀ key, (m.plan.rowsOf [key] rows).mapM m.recordOf = .ok (contents key).toList

namespace Mapper

variable {m : Mapper} {contents : Contents} {rows : List Row}

/-! ## Rows -/

theorem Holding.empty : m.Holding (fun _ => none) [] where
  fits := ⟨nofun, nofun⟩
  ordered := .nil
  numbered := nofun
  found _ := rfl

theorem Holding.put (regular : m.entity.Regular) (holding : m.Holding contents rows)
    (record : Record) :
    m.Holding
      (Function.update contents (m.entity.keyOf record) (some (m.entity.restored record)))
      (m.plan.replacing (m.entity.keyOf record) (m.entity.image record) rows) where
  fits := holding.fits.replacing (CompiledEntity.keyAt_image regular record)
    (stores_image regular record).wide
  ordered := holding.ordered.replacing (CompiledEntity.keyAt_image regular record) holding.numbered
  numbered := holding.numbered.replacing (CompiledEntity.keyAt_image regular record)
  found key := by
    rw [MappingPlan.rowsOf_replacing (p := m.plan) (CompiledEntity.keyAt_image regular record)]
    by_cases same : key = m.entity.keyOf record
    · rw [if_pos same, same, Function.update_self, List.mapM_cons, recordOf_image regular]
      rfl
    · rw [if_neg same, Function.update_of_ne same]
      exact holding.found key

theorem Holding.puts (regular : m.entity.Regular) (holding : m.Holding contents rows)
    (records : List Record) :
    m.Holding
      (records.foldl (fun contents record =>
        Function.update contents (m.entity.keyOf record) (some (m.entity.restored record))) contents)
      (m.saved m.entity.image records rows) := by
  induction records generalizing contents rows with
  | nil => exact holding
  | cons record rest ih => exact ih (holding.put regular record)

theorem Holding.remove (holding : m.Holding contents rows) (key : Int64) :
    m.Holding (Function.update contents key none) (m.plan.without key rows) where
  fits := holding.fits.without key
  ordered := holding.ordered.without key
  numbered := holding.numbered.without key
  found other := by
    rw [MappingPlan.rowsOf_without]
    by_cases same : other = key
    · rw [if_pos same, same, Function.update_self]
      rfl
    · rw [if_neg same, Function.update_of_ne same]
      exact holding.found other

/-- There is a row of a key exactly if a record is held under it. -/
theorem Holding.present (holding : m.Holding contents rows) (key : Int64) :
    decide (m.plan.rowsOf [key] rows ≠ []) = (contents key).isSome := by
  have length := (forall₂_of_mapM (holding.found key)).length_eq
  cases rowsOf : m.plan.rowsOf [key] rows <;> cases known : contents key <;>
    simp_all

def numberAt (m : Mapper) (row : Row) : Int64 :=
  match m.plan.keyAt row with
  | .integer n => n
  | _ => 0

theorem Holding.keyAt (holding : m.Holding contents rows) {row : Row} (member : row ∈ rows) :
    m.plan.keyAt row = .integer (m.numberAt row) := by
  obtain ⟨n, key⟩ := holding.numbered row member
  rw [numberAt, key]

theorem Holding.reads (holding : m.Holding contents rows) {row : Row} (member : row ∈ rows) :
    ∃ record, contents (m.numberAt row) = some record ∧ m.recordOf row = .ok record := by
  have listed : row ∈ m.plan.rowsOf [m.numberAt row] rows := by
    simp [MappingPlan.rowsOf, member, holding.keyAt member]
  have found := holding.found (m.numberAt row)
  rcases MappingPlan.rowsOf_single holding.ordered (m.numberAt row) with none | ⟨_, _, single, _⟩
  · rw [none] at listed
    cases listed
  · rw [single] at listed found
    rw [← List.mem_singleton.mp listed] at found
    cases known : contents (m.numberAt row) with
    | none =>
      rw [known] at found
      cases forall₂_of_mapM found
    | some record =>
      rw [known] at found
      cases forall₂_of_mapM found with
      | cons read _ => exact ⟨record, rfl, read⟩

theorem Holding.live (holding : m.Holding contents rows) : contents.Live (rows.map m.numberAt) := by
  refine ⟨?_, fun key => ?_⟩
  · rw [List.pairwise_map]
    refine holding.ordered.imp_of_mem fun {a b} first second before => ?_
    rw [holding.keyAt first, holding.keyAt second] at before
    exact Int64.lt_iff_toInt_lt.mpr (Int.compare_eq_lt.mp before)
  · rw [List.mem_map, ← holding.present key, decide_eq_true_eq]
    constructor
    · rintro ⟨row, member, rfl⟩ none
      have listed : row ∈ m.plan.rowsOf [m.numberAt row] rows := by
        simp [MappingPlan.rowsOf, member, holding.keyAt member]
      rw [none] at listed
      cases listed
    · intro some_row
      obtain ⟨row, listed⟩ := List.exists_mem_of_ne_nil _ some_row
      obtain ⟨member, number⟩ := List.mem_filter.mp listed
      refine ⟨row, member, ?_⟩
      rw [List.any_cons, List.any_nil, Bool.or_false, holding.keyAt member] at number
      simpa using number

/-- All that is held is read, in the order of the keys. -/
theorem Holding.readAll (holding : m.Holding contents rows) :
    rows.mapM m.recordOf = .ok ((rows.map m.numberAt).filterMap contents) := by
  have reads : ∀ row ∈ rows, ∃ record, contents (m.numberAt row) = some record
      ∧ m.recordOf row = .ok record := fun row member => holding.reads member
  clear holding
  induction rows with
  | nil => rfl
  | cons row rest ih =>
    obtain ⟨record, known, read⟩ := reads _ (List.mem_cons_self ..)
    rw [List.mapM_cons, read, ih fun row member => reads row (List.mem_cons_of_mem _ member),
      List.map_cons, List.filterMap_cons_some known]
    rfl

/-! ## Calls -/

/-- The calls of a mapper by what they answer with. -/
inductive Call (m : Mapper) : Type → Type 1
  | save (row : Record) : Call m Bool
  | saveAll (rows : List Record) : Call m Bool
  | delete (row : Record) : Call m Bool
  | deleteBy (key : Int64) : Call m Bool
  | prepare : Call m MigrationReport
  | reset : Call m Unit
  | get (key : Int64) : Call m (Option Record)
  | count : Call m Int64
  | select : Call m (List Record)
  | read {α : Type} {op : Session α} (reading : m.Reading op) : Call m α
  /-- The context of the mapper is closed, to be opened again on next use. -/
  | close : Call m Unit

namespace Call

variable {α : Type}

def run : m.Call α → Session α
  | save row => m.save row
  | saveAll rows => m.saveAll rows
  | delete row => m.delete row
  | deleteBy key => m.deleteBy key
  | prepare => m.prepare
  | reset => m.reset
  | get key => m.get key
  | count => m.count
  | select => m.select
  | @read _ _ op _ => op
  | close => do Session.closeContext (← m.registry.context m.plan.tag)

def after : m.Call α → Contents → Contents
  | save row, contents =>
    Function.update contents (m.entity.keyOf row) (some (m.entity.restored row))
  | saveAll rows, contents => rows.foldl (fun contents row =>
      Function.update contents (m.entity.keyOf row) (some (m.entity.restored row))) contents
  | delete row, contents => Function.update contents (m.entity.keyOf row) none
  | deleteBy key, contents => Function.update contents key none
  | _, contents => contents

def Answers : m.Call α → Contents → α → Prop
  | save _, _, answer => answer = true
  | saveAll rows, _, answer => answer = !rows.isEmpty
  | delete row, contents, answer => answer = (contents (m.entity.keyOf row)).isSome
  | deleteBy key, contents, answer => answer = (contents key).isSome
  | get key, contents, answer => answer = contents key
  | count, contents, answer => ∃ keys, contents.Live keys ∧ answer = Int64.ofNat keys.length
  | select, contents, answer => ∃ keys, contents.Live keys ∧ answer = keys.filterMap contents
  | _, _, _ => True

/-- Whether a call closes the context. -/
def Closes : m.Call α → Prop
  | close => True
  | _ => False

end Call

end Mapper

namespace Mapper

variable {m : Mapper} {s : Scene} {id : Nat} {alone : Bool} {start : Database} {rows : List Row}
  {contents : Contents} {w : World} {α : Type}

/-- A call answers as the map of its mapper does. -/
theorem answers_call (accepted : m.plan.Accepted) (regular : m.entity.Regular)
    (found : (s.groups.getD m.registry.group []).lookup m.plan.tag = some id) (call : m.Call α)
    (stays : ¬call.Closes) (holding : m.Holding contents rows)
    (works : m.Works s id alone start rows w) :
    ∃ answer v after, call.run.outcome w = (.ok answer, v) ∧ call.Answers contents answer
      ∧ m.Holding (call.after contents) after ∧ m.Works s id alone start after v := by
  have done {answer : α} {after : List Row}
      (yields : Yields (m.Works s id alone start rows) call.run answer
        (m.Works s id alone start after))
      (answers : call.Answers contents answer) (now : m.Holding (call.after contents) after) :
      ∃ answer v after, call.run.outcome w = (.ok answer, v) ∧ call.Answers contents answer
        ∧ m.Holding (call.after contents) after ∧ m.Works s id alone start after v := by
    obtain ⟨v, ran, works⟩ := yields w works
    exact ⟨answer, v, after, ran, answers, now, works⟩
  cases call with
  | save row =>
    exact done (yields_save accepted (stores_image regular row)) rfl (holding.put regular row)
  | saveAll records =>
    exact done (yields_saveAll accepted fun record _ => stores_image regular record) rfl
      (holding.puts regular records)
  | delete row =>
    exact done (yields_delete accepted holding.fits holding.ordered holding.numbered row)
      (holding.present _) (holding.remove _)
  | deleteBy key =>
    exact done (yields_deleteBy accepted holding.fits holding.ordered holding.numbered key)
      (holding.present key) (holding.remove key)
  | get key =>
    exact done (yields_get accepted holding.fits (holding.found key)) Option.head?_toList holding
  | count =>
    exact done (yields_count accepted) ⟨_, holding.live, by rw [List.length_map]⟩ holding
  | select =>
    exact done (yields_select accepted holding.fits holding.ordered holding.readAll)
      ⟨_, holding.live, rfl⟩ holding
  | reset => exact done (yields_reset found) trivial holding
  | prepare =>
    obtain ⟨report, v, ran, layout, attends⟩ := succeeds_prepare accepted w works
    exact ⟨report, v, rows, ran, trivial, holding, attends.works⟩
  | read reading =>
    have reads : m.Reads (m.Works s id alone start rows) :=
      ⟨fun e => (yields_report_works e).keeps, yields_contextId.keeps, keeps_query_works accepted⟩
    obtain ⟨answer, v, ran, works⟩ := reading.succeeds reads w works
    exact ⟨answer, v, rows, ran, trivial, holding, works⟩
  | close => exact absurd trivial stays

end Mapper

/-! ## Registries -/

namespace Registry

variable {r : Registry} {m : Mapper} {site : Setting} {contents : Nat → Contents} {w : World} {α : Type}

def Contains (r : Registry) (site : Setting) (contents : Nat → Contents) (w : World) : Prop :=
  ∃ rows, r.Holds site rows w ∧ ∀ m ∈ r.mappers, m.Holding (contents m.index) (rows m.index)

/-- A call answers as the map of its mapper does, and no other map changes. -/
theorem answers_call (sound : r.Sound site.home) (outside : ∀ id, site.alone id = true)
    (member : m ∈ r.mappers) (call : m.Call α)
    (closable : call.Closes → ∃ path, site.places (site.home m.plan.tag) = some path)
    (contains : r.Contains site contents w) :
    ∃ answer v, call.run.outcome w = (.ok answer, v) ∧ call.Answers (contents m.index) answer
      ∧ r.Contains site (Function.update contents m.index (call.after (contents m.index))) v := by
  obtain ⟨rows, holds, holding⟩ := contains
  have registry := (mem_mappers.mp member).1
  -- Closing a context concerns the databases of all its mappers, every other call the rows of one.
  by_cases closes : call.Closes
  · cases call with
    | close =>
      obtain ⟨path, kept⟩ := closable trivial
      obtain ⟨v, done, holds⟩ := yields_close member (outside _) kept w holds
      refine ⟨(), v, ?_, trivial, rows, holds, by
        simpa [Mapper.Call.after, Function.update_eq_self] using holding⟩
      rw [← done, Mapper.Call.run, registry]
    | _ => cases closes
  · obtain ⟨s, shows, stands⟩ := holds
    obtain ⟨db, mine⟩ := stands.mappers m member
    have found := stands.found m member
    rw [← registry] at found
    obtain ⟨answer, v, after, done, answers, now, works⟩ :=
      Mapper.answers_call (sound.accepted member) (sound.entity member) found call closes
        (holding m member) ⟨s, db, .refl m _ s, .refl, mine, shows⟩
    refine ⟨answer, v, done, answers, _, stands.after sound member mine works, fun other listed => ?_⟩
    by_cases same : other.index = m.index
    · have equal := mapper_unique member listed same
      subst equal
      rw [Function.update_self, Function.update_self]
      exact now
    · rw [Function.update_of_ne same, Function.update_of_ne same]
      exact holding other listed

/-- Calls of the mappers of a registry, one after the other, answer as their maps do. -/
def Answered : List ((m : Mapper) × (α : Type) × m.Call α) → (Nat → Contents) → World → Prop
  | [], _, _ => True
  | ⟨m, _, call⟩ :: rest, contents, w => ∃ answer v, call.run.outcome w = (.ok answer, v)
      ∧ call.Answers (contents m.index) answer
      ∧ Answered rest (Function.update contents m.index (call.after (contents m.index))) v

/-- The same of one mapper wherever it stands, as long as the context is not closed. -/
theorem answers_alone {s : Scene} {id : Nat} {alone : Bool} {start : Database} {rows : List Row}
    (accepted : m.plan.Accepted) (regular : m.entity.Regular)
    (found : (s.groups.getD m.registry.group []).lookup m.plan.tag = some id)
    (calls : List ((α : Type) × m.Call α)) (stay : ∀ call ∈ calls, ¬call.2.Closes)
    (holding : m.Holding (contents m.index) rows) (works : m.Works s id alone start rows w) :
    Answered (calls.map fun call => ⟨m, call⟩) contents w := by
  induction calls generalizing contents rows w with
  | nil => trivial
  | cons call rest ih =>
    obtain ⟨answer, v, after, done, answers, now, works⟩ := Mapper.answers_call accepted regular found
      call.2 (stay call (List.mem_cons_self ..)) holding works
    refine ⟨answer, v, done, answers, ih (fun call member => stay call (List.mem_cons_of_mem _ member))
      ?_ works⟩
    rw [Function.update_self]
    exact now

theorem answers_calls (sound : r.Sound site.home) (outside : ∀ id, site.alone id = true)
    {calls : List ((m : Mapper) × (α : Type) × m.Call α)} (members : ∀ call ∈ calls, call.1 ∈ r.mappers)
    (closable : ∀ call ∈ calls, call.2.2.Closes →
      ∃ path, site.places (site.home call.1.plan.tag) = some path)
    (contains : r.Contains site contents w) : Answered calls contents w := by
  induction calls generalizing contents w with
  | nil => trivial
  | cons call rest ih =>
    obtain ⟨answer, v, done, answers, after⟩ := answers_call sound outside
      (members call (List.mem_cons_self ..)) call.2.2 (closable call (List.mem_cons_self ..)) contains
    exact ⟨answer, v, done, answers, ih (fun call member => members call (List.mem_cons_of_mem _ member))
      (fun call member => closable call (List.mem_cons_of_mem _ member)) after⟩

/-- The mappers of a registry that has been built behave as maps, empty at first and independent of
    each other, if their names are identifiers that the engine accepts and, within a context, keeps
    apart, and the databases of their contexts are empty.  What comes back of a record has its columns
    in the form that a table gives them, if the accessors are lawful. -/
theorem mappers_are_maps {config : StoreConfig} {shared : Option Nat} {models : List Model}
    {before : World} {home : String → Nat} {s : Scene}
    (built : (Session.build config shared models).outcome before = (.ok r, w))
    (spelled : ∀ e ∈ r.catalog.entities, e.plan.Spelled)
    (apart : ∀ m ∈ r.mappers, ∀ other ∈ r.mappers, other ≠ m →
      home other.plan.tag = home m.plan.tag → m.plan.Apart other.plan)
    (shows : w.Shows s)
    (empty : ∀ m ∈ r.mappers,
      (s.groups.getD r.group []).lookup m.plan.tag = some (home m.plan.tag)
        ∧ ((s.lives (home m.plan.tag)).2 = true → 0 < (s.lives (home m.plan.tag)).1)
        ∧ s.handles (home m.plan.tag) = some ⟨{}, none⟩)
    {calls : List ((m : Mapper) × (α : Type) × m.Call α)} (members : ∀ call ∈ calls, call.1 ∈ r.mappers)
    (closable : ∀ call ∈ calls, call.2.2.Closes →
      ∃ directory, (w.context (home call.1.plan.tag)).config.storage = .directory directory) :
    Answered calls (fun _ _ => none) w
      ∧ ∀ e ∈ r.catalog.entities, e.Lawful → ∀ record, ∀ access ∈ e.columns,
        access.getter.field (e.restored record) =
          access.setter.type.admitted (access.getter.field record).settled := by
  obtain ⟨regular, id, registries⟩ := Session.build_ok built
  have remembered : s.registries.getD r.id default =
      { mappers := r.catalog.entities.map fun _ => {} } := by
    rw [← shows.registries, registries, id]
    simp
  refine ⟨?_, fun e member lawful record access listed =>
    CompiledEntity.field_restored (regular.entities e member) lawful record listed⟩
  -- At the start every mapper holds nothing, and no table is there.
  have contains : r.Contains ⟨home, fun _ => true, s.places⟩ (fun _ _ => none) w :=
    ⟨fun _ => [], ⟨s, shows, .fresh remembered empty⟩, fun m _ => .empty⟩
  have sound : r.Sound home := ⟨regular, spelled, apart⟩
  refine answers_calls sound (fun _ => rfl) members (fun call member closes => ?_) contains
  obtain ⟨directory, storage⟩ := closable call member closes
  obtain ⟨path, kept, _⟩ :=
    (shows.site (empty call.1 (members call member)).2.2).reachable directory storage
  exact ⟨path, kept⟩

end Registry

/-! ## What a table does not keep -/

def Model.moment : Model where
  qualifiedName := "Moment"
  keyType := .int64
  table := some "moment"
  initial := some .empty
  fields := [
    { name := "id", semantic := .int64, primaryKey := true
      binding := some (.property .int64 "id") },
    { name := "stamp", semantic := .timestamp
      binding := some (.property .optionalTimestamp "stamp") }]

def CompiledEntity.moment : CompiledEntity where
  schema := {
    qualifiedName := "Moment", table := "moment", tag := "default"
    fields := [⟨"id", "id", .int64, true, false, "getId", "setId"⟩,
      ⟨"stamp", "stamp", .timestamp, false, false, "getStamp", "setStamp"⟩]
    primaryKey := "id", relations := [] }
  plan := {
    entity := "Moment", table := "moment", tag := "default"
    columns := [⟨"id", "id", .int64, .integer, .integer, .int64, true, false⟩,
      ⟨"stamp", "stamp", .timestamp, .integer, .epochSeconds, .epochSecondsZeroAbsent, false, false⟩]
    primaryKey := 0, keyColumn := "id", relations := [] }
  keyType := .int64
  initial := .empty
  columns := [⟨.int64, .property .int64 "id", .property .int64 "id"⟩,
    ⟨.timestamp, .property .optionalTimestamp "stamp", .property .optionalTimestamp "stamp"⟩]
  relations := []

namespace Registry

def moments : Registry := { id := 0, group := 0, catalog := ⟨[.moment]⟩, maxRefDepth := 3 }

def momentsWorld : World := ((Session.build (.inMemory "default") none [.moment]).outcome {}).2

theorem build_moments : (Session.build (.inMemory "default") none [.moment]).outcome {} =
    (.ok moments, momentsWorld) := by
  refine Prod.ext ?_ rfl
  rfl

theorem spelled_moment : CompiledEntity.moment.plan.Spelled :=
  ⟨by decide, by decide, by decide, by decide, by decide⟩

theorem shows_moments : momentsWorld.Shows momentsWorld.unopened := by
  refine World.shows_unopened rfl rfl fun c member => ?_
  have contexts : momentsWorld.contexts = [.ofConfig {}] := rfl
  rw [contexts, List.mem_singleton] at member
  subst member
  exact ⟨rfl, rfl⟩

def momentMapper : Mapper := ⟨moments, 0, .moment⟩

/-- A record with the key 1 and the first second that counts from zero. -/
def firstMoment : Record :=
  .mk [("id", .int64 1), ("stamp", .timestamp (some ⟨0, 0, by decide, by decide, by decide⟩))] []

theorem lawful_moment : CompiledEntity.moment.Lawful :=
  @CompiledEntity.Lawful.properties _ [(.int64, "id"), (.optionalTimestamp, "stamp")] rfl (by decide)

theorem members_moments : ∀ m ∈ moments.mappers, m = momentMapper := by
  intro m member
  exact List.mem_singleton.mp member

theorem maps_of_moments : (Session.build (.inMemory "default") none [.moment]).outcome {} =
      (.ok moments, momentsWorld)
    ∧ momentsWorld.Shows momentsWorld.unopened
    ∧ Answered [⟨momentMapper, Bool, .save firstMoment⟩, ⟨momentMapper, _, .get 1⟩] (fun _ _ => none)
        momentsWorld := by
  refine ⟨build_moments, shows_moments, ?_⟩
  refine (@mappers_are_maps _ _ _ _ _ _ (fun _ => 0) _ build_moments ?_ ?_ shows_moments ?_ _ ?_
    ?_).1
  · intro e member
    rw [List.mem_singleton.mp member]
    exact spelled_moment
  · intro m member other listed apart
    exact absurd ((members_moments other listed).trans (members_moments m member).symm) apart
  · intro m member
    rw [members_moments m member]
    exact ⟨rfl, nofun, rfl⟩
  · simp only [List.mem_cons, List.not_mem_nil, or_false]
    rintro call (rfl | rfl) <;> exact List.mem_singleton_self _
  · simp only [List.mem_cons, List.not_mem_nil, or_false]
    rintro call (rfl | rfl) closes <;> cases closes

/-- The first second that counts from zero does not come back: a mapper does not give back what has
    been saved, though the accessors of its columns are lawful and all names are identifiers. -/
theorem first_moment_lost : (Session.build (.inMemory "default") none [.moment]).outcome {} =
      (.ok moments, momentsWorld)
    ∧ momentsWorld.Shows momentsWorld.unopened
    ∧ CompiledEntity.moment.plan.Spelled ∧ CompiledEntity.moment.Lawful
    ∧ (Session.outcome (do
        let _ ← momentMapper.save firstMoment
        return (← momentMapper.get 1).bind (·.value? "stamp")) momentsWorld).1.toOption =
          some (some (.timestamp none))
    ∧ firstMoment.value? "stamp" ≠ some (.timestamp none) :=
  ⟨build_moments, shows_moments, spelled_moment, lawful_moment, by decide +kernel, by decide⟩

end Registry

end EntityStore
