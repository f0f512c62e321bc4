import EntityStore.Proofs.Registry.Contents
import EntityStore.Proofs.Table.Version

/-! # Tables that grow

An entity whose newer version has columns and indexes that the older one does not have:

* `CompiledEntity.Follows` — an entity that has all columns of another, on the same table.
* `CompiledEntity.upgraded`, `Mapper.recordOf_upgraded` — what the newer version reads of a record.
* `Mapper.Holding.upgrade` — what it holds where the older one has saved records.
* `Mapper.evolves` — the migration, and everything after it.
-/

namespace EntityStore

open EntityStore.Engine (Database Handle Row Table)
open EntityStore.Sql (Datum sameName)
open Session (Yields Succeeds)

/-! ## Versions -/

/-- An entity that has all columns of an older version, under the same names and with the same types,
    on the same table and with the same key. -/
structure CompiledEntity.Follows (new old : CompiledEntity) : Prop where
  table : old.plan.table = new.plan.table
  key : old.plan.keyColumn = new.plan.keyColumn
  columns : ∀ c ∈ old.plan.columns, ∃ d ∈ new.plan.columns,
    d.column = c.column ∧ d.semantic = c.semantic
  ascii : ∀ d ∈ new.plan.columns, Text.isAscii d.column = true

namespace CompiledEntity

variable {old new : CompiledEntity}

theorem Follows.grows (follows : new.Follows old) (regular : old.Regular) (regular' : new.Regular)
    (spelled : old.plan.Spelled) (spelled' : new.plan.Spelled) : old.plan.GrowsInto new.plan := by
  refine .ascii (regular.accepted spelled).toSound (regular'.accepted spelled').toSound follows.ascii
    follows.table follows.key fun c member => ?_
  obtain ⟨d, listed, name, type⟩ := follows.columns c member
  obtain ⟨i, here⟩ := List.getElem?_of_mem member
  obtain ⟨j, there⟩ := List.getElem?_of_mem listed
  obtain ⟨access, _, fits⟩ := getElem?_of_forall₂ regular.columns here
  obtain ⟨access', _, fits'⟩ := getElem?_of_forall₂ regular'.columns there
  refine ⟨d, listed, name, ?_⟩
  rw [fits.affinity, fits'.affinity, ← fits.semantic, ← fits'.semantic, type]

/-- What a column of the newer version reads of a record that the older one has saved: the value that
    the older one reads, and where it has no such column, what is read of nothing. -/
def carried (old : CompiledEntity) (record : Record) (c : ColumnPlan) (access : Column) : FieldValue :=
  match old.columns[old.plan.placeOf c.column]? with
  | some before => (before.getter.field record).settled
  | none => access.semantic.absent

/-- What the newer version reads of a record that the older one has saved. -/
def upgraded (new old : CompiledEntity) (record : Record) : Record :=
  new.assembled ((new.plan.columns.zip new.columns).map fun (c, access) => old.carried record c access)

theorem Follows.semantic (follows : new.Follows old) (regular : old.Regular) (regular' : new.Regular)
    (spelled' : new.plan.Spelled) {i : Nat} {c : ColumnPlan} {access before : Column}
    (here : new.plan.columns[i]? = some c) (there : new.columns[i]? = some access)
    (older : old.columns[old.plan.placeOf c.column]? = some before) :
    before.semantic = access.semantic := by
  obtain ⟨d, place, fits⟩ := getElem?_of_forall₂_right regular.columns older
  obtain ⟨other, found, fits'⟩ := getElem?_of_forall₂ regular'.columns here
  rw [there, Option.some.injEq] at found
  subst found
  have named : sameName d.column c.column = true := by
    obtain ⟨bound, same⟩ := List.getElem?_eq_some_iff.mp place
    rw [← same]
    exact List.findIdx_getElem (w := bound)
  obtain ⟨e, listed, name, type⟩ := follows.columns d (List.mem_of_getElem? place)
  have equal := MappingPlan.column_unique spelled'.apart listed (List.mem_of_getElem? here)
    (by rw [name]; exact named)
  rw [← fits.semantic, ← fits'.semantic, ← type, equal]

theorem Follows.semantic_carried (follows : new.Follows old) (regular : old.Regular)
    (regular' : new.Regular) (spelled' : new.plan.Spelled) (record : Record) {i : Nat} {c : ColumnPlan}
    {access : Column} (here : new.plan.columns[i]? = some c) (there : new.columns[i]? = some access) :
    (old.carried record c access).semantic = access.semantic := by
  rw [carried]
  cases older : old.columns[old.plan.placeOf c.column]? with
  | some before =>
    obtain ⟨_, _, fits⟩ := getElem?_of_forall₂_right regular.columns older
    rw [FieldValue.semantic_settled, ColumnGetter.semantic_field, fits.getter]
    exact follows.semantic regular regular' spelled' here there older
  | none => exact SemanticType.semantic_absent _

theorem Follows.decodeRow (follows : new.Follows old) (regular : old.Regular) (regular' : new.Regular)
    (spelled' : new.plan.Spelled) (record : Record) :
    new.decodeRow ((old.plan.picked new.plan.columns (old.image record)).map Datum.toStored) =
      .ok (new.upgraded old record) := by
  -- What a column of the newer version is given, and what it makes of that.
  let cell (pair : ColumnPlan × Column) : StoredValue × FieldValue :=
    (((old.image record).getD (old.plan.placeOf pair.1.column) .null).toStored,
      old.carried record pair.1 pair.2)
  have reads : List.Forall₂ Reads new.columns ((new.plan.columns.zip new.columns).map cell) := by
    have width := regular'.columns.length_eq
    rw [List.forall₂_iff_get]
    refine ⟨by simp [width], fun i bound _ => ?_⟩
    have within : i < new.plan.columns.length := by rw [width]; exact bound
    have here : new.plan.columns[i]? = some new.plan.columns[i] := List.getElem?_eq_getElem within
    have there := List.getElem?_eq_getElem bound
    simp only [List.get_eq_getElem, List.getElem_map, List.getElem_zip]
    refine ⟨?_, follows.semantic_carried regular regular' spelled' record here there⟩
    simp only [cell, image, carried, List.getD_eq_getElem?_getD, List.getElem?_map]
    cases older : old.columns[old.plan.placeOf (new.plan.columns[i]).column]? with
    | some before =>
      obtain ⟨_, _, fits⟩ := getElem?_of_forall₂_right regular.columns older
      have type : (before.getter.field record).semantic = (new.columns[i]).semantic := by
        rw [ColumnGetter.semantic_field, fits.getter]
        exact follows.semantic regular regular' spelled' here there older
      rw [← type]
      exact Codec.decode_cell _
    | none => exact Codec.decode_null _
  have decoded := decodeRow_assembled regular' reads
  have places : (new.plan.columns.zip new.columns).map Prod.fst = new.plan.columns :=
    List.map_fst_zip (Nat.le_of_eq regular'.columns.length_eq)
  simp only [List.map_map, Function.comp_def, cell] at decoded
  rw [MappingPlan.picked, List.map_map]
  conv => lhs; arg 2; rw [← places, List.map_map]
  exact decoded

/-- The columns of what the newer version reads. -/
theorem Follows.field_upgraded (follows : new.Follows old) (regular : old.Regular)
    (regular' : new.Regular) (spelled' : new.plan.Spelled) (lawful : new.Lawful) (record : Record)
    {i : Nat} {c : ColumnPlan} {access : Column} (here : new.plan.columns[i]? = some c)
    (there : new.columns[i]? = some access) : access.getter.field (new.upgraded old record) =
      access.setter.type.admitted (old.carried record c access) := by
  refine field_assembled (lawful.at _) there ?_ ?_
  · rw [List.getElem?_map]
    have both : (new.plan.columns.zip new.columns)[i]? = some (c, access) := by
      rw [List.getElem?_zip_eq_some]
      exact ⟨here, there⟩
    rw [both]
    rfl
  · obtain ⟨_, found, fits⟩ := getElem?_of_forall₂ regular'.columns here
    rw [there, Option.some.injEq] at found
    subst found
    rw [follows.semantic_carried regular regular' spelled' record here there, fits.setter]

def lastUnder (e : CompiledEntity) (records : List Record) (key : Int64) : Option Record :=
  records.reverse.find? fun record => e.keyOf record = key

end CompiledEntity

/-! ## Rows -/

namespace Mapper

variable {old new : Mapper} {rows : List Row}

theorem recordOf_upgraded (follows : new.entity.Follows old.entity) (regular : old.entity.Regular)
    (regular' : new.entity.Regular) (spelled' : new.plan.Spelled) (record : Record) :
    new.recordOf (old.plan.picked new.plan.columns (old.entity.image record)) =
      .ok (new.entity.upgraded old.entity record) := by
  have width : ((old.plan.picked new.plan.columns (old.entity.image record)).map
      Datum.toStored).length = new.plan.columns.length := by simp
  rw [recordOf, ← width, List.take_length]
  exact follows.decodeRow regular regular' spelled' record

theorem rowsOf_saved {m : Mapper} (regular : m.entity.Regular) (records : List Record)
    (rows : List Row) (key : Int64) :
    m.plan.rowsOf [key] (m.saved m.entity.image records rows) =
      match m.entity.lastUnder records key with
      | some record => [m.entity.image record]
      | none => m.plan.rowsOf [key] rows := by
  induction records generalizing rows with
  | nil => rfl
  | cons record rest ih =>
    have step := ih (m.plan.replacing (m.entity.keyOf record) (m.entity.image record) rows)
    rw [show m.saved m.entity.image (record :: rest) rows = m.saved m.entity.image rest
      (m.plan.replacing (m.entity.keyOf record) (m.entity.image record) rows) from rfl, step]
    simp only [CompiledEntity.lastUnder, List.reverse_cons, List.find?_append]
    cases rest.reverse.find? fun record => m.entity.keyOf record = key with
    | some later => rfl
    | none =>
      rw [MappingPlan.rowsOf_replacing (p := m.plan) (CompiledEntity.keyAt_image regular record)]
      by_cases same : key = m.entity.keyOf record
      · simp [same]
      · simp [same, Ne.symm same]

/-- What the newer version holds where the older one has saved records. -/
theorem Holding.upgrade (follows : new.entity.Follows old.entity) (regular : old.entity.Regular)
    (regular' : new.entity.Regular) (spelled : old.plan.Spelled) (spelled' : new.plan.Spelled)
    (records : List Record) :
    new.Holding
      (fun key => (old.entity.lastUnder records key).map (new.entity.upgraded old.entity))
      ((old.saved old.entity.image records []).map (old.plan.picked new.plan.columns)) := by
  have grows : old.plan.GrowsInto new.plan := follows.grows regular regular' spelled spelled'
  have sound : new.plan.Sound := (regular'.accepted spelled').toSound
  have holding := (Holding.empty (m := old)).puts regular records
  refine ⟨grows.fits sound holding.fits, grows.ordered sound holding.ordered,
    grows.numbered sound holding.numbered, fun key => ?_⟩
  rw [grows.rowsOf sound, rowsOf_saved regular]
  cases old.entity.lastUnder records key with
  | none => rfl
  | some record =>
    change [old.plan.picked new.plan.columns (old.entity.image record)].mapM new.recordOf = _
    rw [List.mapM_cons, recordOf_upgraded follows regular regular' spelled']
    rfl

/-! ## Both versions at work -/

variable {s t : Scene} {id : Nat} {alone : Bool} {db next : Database} {w : World} {m : Mapper}

/-- A mapper that has not been used, where the database has no table of its plan. -/
structure Unused (m : Mapper) (s : Scene) (id : Nat) : Prop where
  on : m.On id (s.registries, s.groups)
  found : (s.groups.getD m.registry.group []).lookup m.plan.tag = some id
  migrated : (m.stateIn s.registries).migrated = 0

theorem Unused.stands (unused : m.Unused s id) (counted : (s.lives id).2 = true → 0 < (s.lives id).1)
    (sees : ∃ h, s.handles id = some h ∧ h.Sees alone db) (ready : m.plan.Ready db)
    (serves : m.plan.Serves rows db) : m.Stands s id alone db rows where
  on := unused.on
  late := by rw [unused.migrated]; exact Nat.zero_le _
  counted := counted
  sees := sees
  ready := ready
  serves := serves
  fresh opened same := absurd (unused.migrated.symm.trans same) (counted opened).ne

theorem Unused.after {other : Mapper} (unused : other.Unused s id) (apart : m.Other other)
    (follows : m.Follows id s t) : other.Unused t id where
  on := follows.on apart unused.on
  found := by rw [follows.groups]; exact unused.found
  migrated := by rw [follows.states other apart]; exact unused.migrated

/-- The older version makes the table and saves records. -/
theorem outcome_saved (accepted : m.plan.Accepted) (regular : m.entity.Regular)
    (works : m.Works s id alone db [] w) (records : List Record) :
    ∃ v t next table, Session.outcome (do let _ ← m.prepare; m.saveAll records) w =
        (.ok (!records.isEmpty), v)
      ∧ m.Follows id s t ∧ m.plan.Changes db next ∧ next.table? m.plan.table = some table
      ∧ m.Stands t id alone next (m.saved m.entity.image records []) ∧ v.Shows t := by
  obtain ⟨report, u, prepared, layout, t, between, follows, changes, stands, _, stored, shows⟩ :=
    succeeds_prepare accepted w works
  obtain ⟨v, done, t', next, follows', changes', stands', shows'⟩ :=
    yields_saveAll accepted (fun record _ => stores_image regular record) u
      ⟨t, between, .refl m id t, .refl, stands, shows⟩
  obtain ⟨table, found⟩ := changes'.table stored.found
  exact ⟨v, t', next, table, by rw [Session.outcome_bind_ok prepared, done], follows.trans follows',
    changes.trans changes', found, stands', shows'⟩

theorem Stands.databaseOf (stands : m.Stands s id alone db rows) (shows : w.Shows s) :
    w.databaseOf id = some db := by
  obtain ⟨h, here, sees⟩ := stands.sees
  rw [World.databaseOf, (shows.site here).standing, Option.map_some, sees.current]

/-- A table that the older version of an entity has made and filled is brought up to date by the newer
    one: nothing that is stored goes or changes, the newer version reads the same keys, with what the
    older one reads and with nothing in the columns that are new, and from then on it behaves as on a
    table of its own. -/
theorem evolves {old new : Mapper} {models models' : List Model} {catalog catalog' : CompiledCatalog}
    {s : Scene} {w : World} {id : Nat} {h : Handle} {alone : Bool} {db : Database}
    (compiled : (({} : Catalog).registerAll models).1.compile.1 = .ok catalog)
    (compiled' : (({} : Catalog).registerAll models').1.compile.1 = .ok catalog')
    (member : old.entity ∈ catalog.entities) (member' : new.entity ∈ catalog'.entities)
    (spelled : old.plan.Spelled) (spelled' : new.plan.Spelled)
    (follows : new.entity.Follows old.entity) (apart : old.Other new)
    (unused : old.Unused s id) (unused' : new.Unused s id)
    (counted : (s.lives id).2 = true → 0 < (s.lives id).1)
    (here : s.handles id = some h) (sees : h.Sees alone db)
    (ready : old.plan.Ready db) (ready' : new.plan.Ready db)
    (absent : db.table? old.plan.table = none) (shows : w.Shows s) (records : List Record)
    (calls : List ((α : Type) × new.Call α)) (stay : ∀ call ∈ calls, ¬call.2.Closes) :
    ∃ u report v, Session.outcome (do let _ ← old.prepare; old.saveAll records) w =
        (.ok (!records.isEmpty), u)
      ∧ new.prepare.outcome u = (.ok report, v)
      ∧ (∃ before after T T', u.databaseOf id = some before ∧ v.databaseOf id = some after
        ∧ before.table? new.plan.table = some T ∧ after.table? new.plan.table = some T'
        ∧ T'.Extends T
        ∧ ∀ name, sameName new.plan.table name = false → after.table? name = before.table? name)
      ∧ Registry.Answered (calls.map fun call => ⟨new, call⟩)
        (fun _ key => (old.entity.lastUnder records key).map (new.entity.upgraded old.entity)) v
      ∧ (new.entity.Lawful → ∀ record (i : Nat) c access, new.plan.columns[i]? = some c →
        new.entity.columns[i]? = some access →
          access.getter.field (new.entity.upgraded old.entity record) =
            access.setter.type.admitted (old.entity.carried record c access)) := by
  have regular : old.entity.Regular :=
    ((Catalog.Checked.registerAll (c := {}) ⟨nofun, .nil⟩ models).check
      (Catalog.compile_ok compiled)).entities _ member
  have regular' : new.entity.Regular :=
    ((Catalog.Checked.registerAll (c := {}) ⟨nofun, .nil⟩ models').check
      (Catalog.compile_ok compiled')).entities _ member'
  have accepted := regular.accepted spelled
  have accepted' := regular'.accepted spelled'
  have grows : old.plan.GrowsInto new.plan := follows.grows regular regular' spelled spelled'
  have stands := unused.stands counted ⟨h, here, sees⟩ ready (.absent absent rfl)
  obtain ⟨u, t, between, table, saved, followed, changed, found, kept, shown⟩ :=
    outcome_saved accepted regular ⟨s, db, .refl old id s, .refl, stands, shows⟩ records
  -- The newer version stands where the older one has been at work.
  have spares : old.plan.Spares new.plan := .versions accepted'.toSound grows.table
    (fun c listed => by
      obtain ⟨d, known, name, _⟩ := grows.columns c listed
      exact ⟨d, known, name⟩) fun d listed => ⟨d, listed, rfl⟩
  have now := (unused'.after apart followed).stands kept.counted kept.sees
    (ready'.changes spares changed) (kept.serves.grow accepted'.toSound grows)
  obtain ⟨report, v, prepared, layout, attends⟩ :=
    succeeds_prepare accepted' u ⟨t, between, .refl new id t, .refl, now, shown⟩
  have works := attends.works
  refine ⟨u, report, v, saved, prepared, ?_, ?_, ?_⟩
  · obtain ⟨t', after, _, changes, stands', _, stored, shows'⟩ := attends
    rw [grows.table] at found
    obtain ⟨T', upToDate, extended⟩ := now.serves.extends accepted'.toSound found stored
    exact ⟨between, after, table, T', kept.databaseOf shown, stands'.databaseOf shows', found, upToDate,
      extended, fun name other => changes.table?_other other⟩
  · exact Registry.answers_alone accepted' regular' (unused'.after apart followed).found calls stay
      (.upgrade follows regular regular' spelled spelled' records) works
  · intro lawful record i c access here there
    exact follows.field_upgraded regular regular' spelled' lawful record here there

end Mapper

/-! ## An entity with one more column -/

/-- A point in time with a label, which comes first. -/
def Model.labelled : Model where
  qualifiedName := "Moment"
  keyType := .int64
  table := some "moment"
  initial := some .empty
  fields :=
    { name := "label", semantic := .text, index := true
      binding := some (.property .optionalText "label") } :: Model.moment.fields

def CompiledEntity.labelled : CompiledEntity where
  schema := {
    qualifiedName := "Moment", table := "moment", tag := "default"
    fields := ⟨"label", "label", .text, false, true, "getLabel", "setLabel"⟩
      :: CompiledEntity.moment.schema.fields
    primaryKey := "id", relations := [] }
  plan := {
    entity := "Moment", table := "moment", tag := "default"
    columns := ⟨"label", "label", .text, .text, .textOrEmpty, .textOrAbsent, false, true⟩
      :: CompiledEntity.moment.plan.columns
    primaryKey := 1, keyColumn := "id", relations := [] }
  keyType := .int64
  initial := .empty
  columns := ⟨.text, .property .optionalText "label", .property .optionalText "label"⟩
    :: CompiledEntity.moment.columns
  relations := []

namespace Registry

def labelledMoments : Registry := { id := 1, group := 0, catalog := ⟨[.labelled]⟩, maxRefDepth := 3 }

def labelledMapper : Mapper := ⟨labelledMoments, 0, .labelled⟩

def labelledWorld : World :=
  ((Session.build (.inMemory "default") (some 0) [.labelled]).outcome momentsWorld).2

theorem labelled_follows_moment : CompiledEntity.labelled.Follows .moment where
  table := rfl
  key := rfl
  columns := by decide
  ascii := by decide

theorem moment_evolves : CompiledEntity.labelled.Follows .moment
    ∧ momentMapper.Unused labelledWorld.unopened 0 ∧ labelledMapper.Unused labelledWorld.unopened 0
    ∧ labelledWorld.Shows labelledWorld.unopened
    ∧ ∃ u report v, Session.outcome (do let _ ← momentMapper.prepare; momentMapper.saveAll [firstMoment])
        labelledWorld = (.ok true, u)
      ∧ labelledMapper.prepare.outcome u = (.ok report, v)
      ∧ Answered [⟨labelledMapper, _, .get 1⟩] (fun _ key =>
          (CompiledEntity.moment.lastUnder [firstMoment] key).map
            (CompiledEntity.labelled.upgraded .moment)) v := by
  have unused : momentMapper.Unused labelledWorld.unopened 0 := ⟨.inr ⟨rfl, rfl⟩, rfl, rfl⟩
  have unused' : labelledMapper.Unused labelledWorld.unopened 0 := ⟨.inr ⟨rfl, rfl⟩, rfl, rfl⟩
  have shows : labelledWorld.Shows labelledWorld.unopened := by
    refine World.shows_unopened rfl rfl fun c member => ?_
    have contexts : labelledWorld.contexts = [.ofConfig {}] := rfl
    rw [contexts, List.mem_singleton] at member
    subst member
    exact ⟨rfl, rfl⟩
  have spelled : CompiledEntity.labelled.plan.Spelled :=
    ⟨by decide, by decide, by decide, by decide, by decide⟩
  refine ⟨labelled_follows_moment, unused, unused', shows, ?_⟩
  obtain ⟨u, report, v, saved, prepared, _, answered, _⟩ :=
    @Mapper.evolves momentMapper labelledMapper [.moment] [.labelled] ⟨[.moment]⟩ ⟨[.labelled]⟩ _ _ 0 _
      true _ rfl rfl (List.mem_singleton_self _) (List.mem_singleton_self _) spelled_moment spelled
      labelled_follows_moment (fun same => absurd (congrArg Prod.fst same) (by decide)) unused unused'
      nofun rfl ⟨rfl, rfl⟩ (MappingPlan.ready_empty _) (MappingPlan.ready_empty _) rfl shows
      [firstMoment] [⟨_, .get 1⟩] (by
        simp only [List.mem_singleton]
        rintro call rfl closes
        cases closes)
  exact ⟨u, report, v, saved, prepared, answered⟩

end Registry

end EntityStore
