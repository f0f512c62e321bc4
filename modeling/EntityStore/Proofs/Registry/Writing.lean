import EntityStore.Proofs.Registry.Following

/-! # Records written with what they hold

Records that are saved with what they hold reach the tables batch by batch: first they themselves, and
then, relation by relation, all records that they hold, followed by what those hold in turn:

* `Registry.written` — the records that are written, in order.
* `Registry.Hops`, `Registry.mem_written` — they are those that so many relations lead to.
* `Registry.stored`, `Registry.rowsOf_stored` — what the tables keep of them: the last one of each key.
* `Registry.yields_descend` — saving what records hold writes just that.
-/

namespace EntityStore

open EntityStore.Engine (Row)
open Session (Yields)

namespace Registry

/-! ## What is written -/

/-- The records that are written after records of a mapper, in order: for each relation all that they
    hold, and what is written after those, with one level less to go. -/
def descend (r : Registry) : Nat → Mapper → List Record → List (Mapper × Record)
  | 0, _, _ => []
  | depth + 1, m, records => m.entity.relations.flatMap fun rel =>
      match r.mapper? rel.plan.target with
      | none => []
      | some target =>
        (records.flatMap rel.getter.targets).map (target, ·)
          ++ r.descend depth target (records.flatMap rel.getter.targets)

/-- The records that are written with records of a mapper, in order. -/
def written (r : Registry) (depth : Nat) (m : Mapper) (records : List Record) :
    List (Mapper × Record) :=
  records.map (m, ·) ++ r.descend depth m records

/-- A record that so many relations lead to, one after the other. -/
inductive Hops (r : Registry) : Nat → Mapper × Record → Mapper × Record → Prop where
  | here {holder : Mapper × Record} : Hops r 0 holder holder
  | hop {n : Nat} {m target : Mapper} {record t : Record} {other : Mapper × Record} {rel : Relation}
      (listed : rel ∈ m.entity.relations) (found : r.mapper? rel.plan.target = some target)
      (held : t ∈ rel.getter.targets record) (further : Hops r n (target, t) other) :
      Hops r (n + 1) (m, record) other

variable {r : Registry} {m : Mapper} {other : Mapper × Record}

theorem mem_descend_succ {depth : Nat} {records : List Record} :
    other ∈ r.descend (depth + 1) m records ↔ ∃ rel ∈ m.entity.relations, ∃ target,
      r.mapper? rel.plan.target = some target
        ∧ other ∈ r.written depth target (records.flatMap rel.getter.targets) := by
  rw [descend, List.mem_flatMap]
  refine exists_congr fun rel => and_congr_right fun _ => ?_
  cases r.mapper? rel.plan.target with
  | none => simp
  | some target => simp [written]

/-- No records hold nothing. -/
theorem descend_nil (depth : Nat) (m : Mapper) : r.descend depth m [] = [] := by
  induction depth generalizing m with
  | zero => rfl
  | succ depth ih =>
    refine List.flatMap_eq_nil_iff.mpr fun rel _ => ?_
    cases r.mapper? rel.plan.target with
    | none => rfl
    | some target => exact ih target

theorem mem_written {depth : Nat} {records : List Record} :
    other ∈ r.written depth m records ↔
      ∃ record ∈ records, ∃ n ≤ depth, r.Hops n (m, record) other := by
  -- A batch is as deep as its records are: each relation takes one level of all of them.
  induction depth generalizing m records with
  | zero =>
    simp only [written, descend, List.append_nil, List.mem_map, Nat.le_zero]
    constructor
    · rintro ⟨record, listed, rfl⟩
      exact ⟨record, listed, 0, rfl, .here⟩
    · rintro ⟨record, listed, _, rfl, reached⟩
      cases reached
      exact ⟨record, listed, rfl⟩
  | succ depth ih =>
    rw [written, List.mem_append, mem_descend_succ, List.mem_map]
    constructor
    · rintro (⟨record, listed, rfl⟩ | ⟨rel, listed, target, found, deeper⟩)
      · exact ⟨record, listed, 0, Nat.zero_le _, .here⟩
      · obtain ⟨t, among, n, bound, reached⟩ := ih.mp deeper
        obtain ⟨record, given, held⟩ := List.mem_flatMap.mp among
        exact ⟨record, given, n + 1, Nat.succ_le_succ bound, .hop listed found held reached⟩
    · rintro ⟨record, given, n, bound, reached⟩
      cases reached with
      | here => exact .inl ⟨record, given, rfl⟩
      | hop listed found held further =>
        refine .inr ⟨_, listed, _, found, ih.mpr ⟨_, ?_, _, Nat.le_of_succ_le_succ bound, further⟩⟩
        exact List.mem_flatMap.mpr ⟨record, given, held⟩

theorem mem_written_singleton {depth : Nat} {records : List Record} :
    other ∈ r.written depth m records ↔ ∃ record ∈ records, other ∈ r.written depth m [record] := by
  simp only [mem_written, List.mem_singleton, exists_eq_left]

/-- Whatever is written belongs to a mapper of the registry. -/
theorem written_mappers (member : m ∈ r.mappers) {depth : Nat} {records : List Record}
    (listed : other ∈ r.written depth m records) : other.1 ∈ r.mappers := by
  obtain ⟨record, -, n, -, reached⟩ := mem_written.mp listed
  clear listed
  generalize start : (m, record) = holder at reached
  induction reached generalizing m record with
  | here => rw [← start]; exact member
  | hop _ found _ _ ih => exact ih (mapper?_mem found) _ rfl

/-! ## What the tables keep -/

/-- The rows of all mappers after records have been written, one after the other. -/
def stored (rows : Nat → List Row) (records : List (Mapper × Record)) : Nat → List Row :=
  records.foldl (fun rows t => Function.update rows t.1.index
    (t.1.plan.replacing (t.1.entity.keyOf t.2) (t.1.entity.image t.2) (rows t.1.index))) rows

def lastUnder (m : Mapper) (key : Int64) (records : List (Mapper × Record)) : Option Record :=
  (records.reverse.find? fun t => t.1.index = m.index ∧ m.entity.keyOf t.2 = key).map (·.2)

theorem lastUnder_some {key : Int64} {records : List (Mapper × Record)} {record : Record}
    (last : lastUnder m key records = some record) :
    ∃ t ∈ records, t.1.index = m.index ∧ m.entity.keyOf t.2 = key ∧ t.2 = record := by
  obtain ⟨t, found, same⟩ := Option.map_eq_some_iff.mp last
  have under := List.find?_some found
  rw [decide_eq_true_eq] at under
  exact ⟨t, List.mem_reverse.mp (List.mem_of_find?_eq_some found), under.1, under.2, same⟩

variable {rows : Nat → List Row}

theorem stored_append (records later : List (Mapper × Record)) :
    stored rows (records ++ later) = stored (stored rows records) later := List.foldl_append

theorem stored_map (m : Mapper) (records : List Record) :
    stored rows (records.map (m, ·)) =
      Function.update rows m.index (m.saved m.entity.image records (rows m.index)) := by
  induction records generalizing rows with
  | nil => exact (Function.update_eq_self m.index rows).symm
  | cons record rest ih =>
    rw [List.map_cons, stored, List.foldl_cons]
    refine ih.trans ?_
    rw [Function.update_self, Function.update_idem]
    rfl

section
variable (sound : r.catalog.Regular) {records : List (Mapper × Record)}
  (members : ∀ t ∈ records, t.1 ∈ r.mappers) (member : m ∈ r.mappers)
include sound members member

/-- Of the records that are written a table keeps the last one of each key, and under other keys what it
    has kept before. -/
theorem rowsOf_stored (key : Int64) :
    m.plan.rowsOf [key] (stored rows records m.index) =
      match lastUnder m key records with
      | some record => [m.entity.image record]
      | none => m.plan.rowsOf [key] (rows m.index) := by
  -- What is written last decides, so the records are taken from the end.
  induction records using List.reverseRecOn with
  | nil => rfl
  | append_singleton records last ih =>
    have before := ih fun t listed => members t (List.mem_append_left _ listed)
    have there := members last (List.mem_append_right _ (List.mem_singleton_self _))
    obtain ⟨target, record⟩ := last
    rw [stored_append, lastUnder, List.reverse_concat, List.find?_cons]
    change m.plan.rowsOf [key] (Function.update (stored rows records) target.index _ m.index) = _
    by_cases same : target.index = m.index
    · obtain rfl := mapper_unique member there same
      have own := CompiledEntity.keyAt_image (sound.entities _ (entity_mem there)) record
      rw [Function.update_self, MappingPlan.rowsOf_replacing (p := target.plan) own, before]
      by_cases equal : key = target.entity.keyOf record
      · simp [equal]
      · simp [equal, Ne.symm equal, lastUnder]
    · rw [Function.update_of_ne (Ne.symm same), before]
      simp [same, lastUnder]

theorem fits_stored (fits : m.plan.Fits (rows m.index)) : m.plan.Fits (stored rows records m.index) := by
  induction records using List.reverseRecOn with
  | nil => exact fits
  | append_singleton records last ih =>
    have before := ih fun t listed => members t (List.mem_append_left _ listed)
    have there := members last (List.mem_append_right _ (List.mem_singleton_self _))
    obtain ⟨target, record⟩ := last
    rw [stored_append]
    change m.plan.Fits (Function.update (stored rows records) target.index _ m.index)
    by_cases same : target.index = m.index
    · obtain rfl := mapper_unique member there same
      have regular := sound.entities _ (entity_mem there)
      rw [Function.update_self]
      exact before.replacing (CompiledEntity.keyAt_image regular record)
        (Mapper.stores_image regular record).wide
    · rw [Function.update_of_ne (Ne.symm same)]
      exact before

end

/-! ## Writing -/

section
variable {site : Setting} (sound : r.Sound site.home)
include sound

theorem yields_saveBatch (member : m ∈ r.mappers) (rows : Nat → List Row) (records : List Record) :
    Yields (r.Holds site rows) (m.saveAll records) (!records.isEmpty)
      (r.Holds site (stored rows (records.map (m, ·)))) := by
  rw [stored_map]
  exact yields_holds sound member fun _ _ _ => Mapper.yields_saveAll (sound.accepted member)
    fun record _ => Mapper.stores_image (sound.entity member) record

/-- Saving what records of a mapper hold writes the records that relations lead to, level by level. -/
theorem yields_descend (depth : Nat) : ∀ m ∈ r.mappers, ∀ records rows,
    Yields (r.Holds site rows) (m.saveRelated (r.stores depth) records) ()
      (r.Holds site (stored rows (r.descend depth m records))) := by
  -- On the bound: the batch of a relation is saved with one hop less to go.
  induction depth with
  | zero => exact fun _ _ _ _ => .pure ()
  | succ depth ih =>
    intro m member records rows
    -- One relation writes its batch and what that batch holds.
    have relation : ∀ rel ∈ m.entity.relations, ∀ rows, Yields (r.Holds site rows)
        (rel.save (fun name => (r.mapper? name).map fun m => m.store (r.stores depth)) records) ()
        (r.Holds site (stored rows (match r.mapper? rel.plan.target with
          | none => []
          | some target => r.written depth target (records.flatMap rel.getter.targets)))) := by
      intro rel listed rows
      obtain ⟨target, found⟩ := mapper?_target sound.regular member listed
      have there := mapper?_mem found
      unfold Relation.save Relation.storeIn
      dsimp only
      rw [found]
      dsimp only
      generalize records.flatMap rel.getter.targets = related
      split
      · next empty =>
        rw [List.isEmpty_iff.mp empty, written, descend_nil]
        exact .pure ()
      · next some_related =>
        have saved := yields_saveBatch sound there rows related
        rw [Bool.not_eq_true] at some_related
        rw [some_related] at saved
        refine .bind (.pure (target.store (r.stores depth))) (.bind (b := ()) (a := true) ?_ (.pure ()))
        rw [written, stored_append]
        exact .bind saved (.bind (ih target there related _) (.pure true))
    unfold Mapper.saveRelated Registry.stores
    dsimp only
    split
    · next idle =>
      have nothing : r.descend (depth + 1) m records = [] := by
        rcases Bool.or_eq_true_iff.mp idle with empty | empty
        · rw [List.isEmpty_iff.mp empty, descend_nil]
        · rw [descend, List.isEmpty_iff.mp empty, List.flatMap_nil]
      rw [nothing]
      exact .pure ()
    · refine .bind (yields_requireRegistry member) ?_
      rw [descend]
      generalize m.entity.relations = relations at relation
      induction relations generalizing rows with
      | nil => exact .pure ()
      | cons rel rest others =>
        rw [List.flatMap_cons, stored_append]
        exact .bind (relation rel (List.mem_cons_self ..) rows)
          (others _ fun rel listed => relation rel (List.mem_cons_of_mem _ listed))

theorem yields_saveAllWithRelated (member : m ∈ r.mappers) (records : List Record) :
    Yields (r.Holds site rows) (m.saveAllWithRelated records) (!records.isEmpty)
      (r.Holds site (stored rows (r.written r.maxRefDepth m records))) := by
  refine .bind (yields_saveBatch sound member rows records) ?_
  rw [written, stored_append, stores_eq member]
  cases records with
  | nil =>
    rw [descend_nil]
    exact .pure false
  | cons record rest => exact .bind (yields_descend sound _ m member _ _) (.pure true)

theorem yields_saveWithRelated (member : m ∈ r.mappers) (record : Record) :
    Yields (r.Holds site rows) (m.saveWithRelated record) true
      (r.Holds site (stored rows (r.written r.maxRefDepth m [record]))) := by
  refine .bind (yields_holds sound member fun _ _ _ => Mapper.yields_save (sound.accepted member)
    (Mapper.stores_image (sound.entity member) record)) ?_
  rw [written, stored_append, stores_eq member]
  exact .bind (yields_descend sound _ m member [record] _) (.pure true)

end

/-- A world where records of a mapper have been written with what they hold, as deep as relations are
    followed: under a key a table keeps the last record that has been written to it, which is what is
    read there, and under other keys it keeps what it has kept before. -/
def Wrote (r : Registry) (site : Setting) (rows : Nat → List Row) (m : Mapper) (records : List Record)
    (w : World) : Prop :=
  ∃ after, r.Holds site after w ∧ ∀ other ∈ r.mappers, ∀ key,
    match lastUnder other key (r.written r.maxRefDepth m records) with
    | some record => other.plan.rowsOf [key] (after other.index) = [other.entity.image record]
      ∧ (other.plan.Fits (rows other.index) →
        ∃ v, (other.get key).outcome w = (.ok (some (other.entity.restored record)), v))
    | none => other.plan.rowsOf [key] (after other.index) = other.plan.rowsOf [key] (rows other.index)

variable {site : Setting} {w : World}

theorem Holds.wrote (sound : r.Sound site.home) (member : m ∈ r.mappers) {records : List Record}
    (holds : r.Holds site (stored rows (r.written r.maxRefDepth m records)) w) :
    r.Wrote site rows m records w := by
  have members : ∀ t ∈ r.written r.maxRefDepth m records, t.1 ∈ r.mappers :=
    fun _ listed => written_mappers member listed
  refine ⟨_, holds, fun other there key => ?_⟩
  have kept : other.plan.rowsOf [key]
      (stored rows (r.written r.maxRefDepth m records) other.index) = _ :=
    rowsOf_stored sound.regular members there key
  -- The last record under a key is the one that is stored.
  split
  · next record last =>
    rw [last] at kept
    refine ⟨kept, fun fits => ?_⟩
    have read : (other.plan.rowsOf [key]
        (stored rows (r.written r.maxRefDepth m records) other.index)).mapM other.recordOf =
          .ok [other.entity.restored record] := by
      rw [kept, List.mapM_cons, Mapper.recordOf_image (sound.entity there)]
      rfl
    obtain ⟨v, got, _⟩ := yields_holds sound there (fun _ _ _ => Mapper.yields_get
      (sound.accepted there) (fits_stored sound.regular members there fits) read) w holds
    exact ⟨v, got⟩
  · next none =>
    rw [none] at kept
    exact kept

/-- The keys that two tables have when a step has been saved whose table is called like the beginning
    of a statement that writes to the other one. -/
def misled : Session (Bool × List (List (List StoredValue))) := do
  let model := { Model.step "id" (.property .int64 "id") .empty with
    table := some "u(id,link)values(?,?);" }
  let r ← Session.build (.inMemory "default") none [model]
  match r.mapper? "Step" with
  | none => return (false, [])
  | some m =>
    let id ← m.contextId
    Session.withConnection id fun _ => Session.executeBatch id
      "create table \"u(id,link)values(?,?);\"(id integer primary key,link);create table u(id integer primary key,link)"
    let saved ← m.saveWithRelated (.step 1 2)
    let keys (table : String) : Session (List (List StoredValue)) := do
      Session.rows id (← Session.prepareCached id ("select id from " ++ table)) []
    return (saved, [← keys "\"u(id,link)values(?,?);\"", ← keys "u"])

def quotedNote : Model where
  qualifiedName := "Note"
  keyType := .int64
  table := some "note"
  initial := some .empty
  fields := [
    { name := "id", semantic := .int64, primaryKey := true, binding := some (.property .int64 "id") },
    { name := "text", semantic := .text, column := some "'text'", binding := some (.property .text "text") }]

end Registry

end EntityStore
