import EntityStore.Proofs.Mapper.Keeping
import EntityStore.Proofs.Mapper.Standing
import EntityStore.Proofs.Table.Change

/-! # Operations of mappers in scenes

What the operations of a mapper come to, in terms of the rows that it reads:

* `Mapper.yields_load`, `Mapper.yields_aggregate`, `Mapper.keeps_load` — queries.
* `Mapper.yields_saveRow`, `Mapper.yields_saveRows`, `Mapper.yields_deleteKey` — changes.
* `Mapper.yields_read`, `Mapper.yields_write` — what is around them.
* `Mapper.yields_prepare`, `Mapper.yields_reset` — the table up to date, and forgotten.
-/

namespace EntityStore

open EntityStore.Engine (Database Program Outcome Row)
open EntityStore.Sql (Datum Statement Select)
open Session (Yields Succeeds Keeps)

/-- A computation that succeeds for each item succeeds for all of them. -/
theorem mapM_eq_ok {α β ε : Type} {f : α → Except ε β} {g : α → β} {items : List α}
    (each : ∀ a ∈ items, f a = .ok (g a)) : items.mapM f = .ok (items.map g) := by
  induction items with
  | nil => rfl
  | cons a rest ih =>
    rw [List.mapM_cons, each a (List.mem_cons_self ..),
      ih fun a member => each a (List.mem_cons_of_mem _ member)]
    rfl

theorem chunks_ne_nil {α : Type} {size : Nat} {items piece : List α}
    (member : piece ∈ chunks size items) : piece ≠ [] := by
  induction items using chunks.induct size with
  | case1 => rw [chunks] at member; cases member
  | case2 a rest ih =>
    rw [chunks] at member
    rcases List.mem_cons.mp member with rfl | later
    · simp
    · exact ih later

namespace Mapper

variable {m : Mapper} {s : Scene} {id : Nat} {alone : Bool} {start : Database} {rows after : List Row}
  {layout : List ColumnPlan} {α β : Type} {w : World}

/-! ## Around the table -/

/-- What a mapper reports changes nothing that matters. -/
theorem yields_report_works (e : Event) : Yields (m.Works s id alone start rows) (Session.report e) ()
    (m.Works s id alone start rows) := by
  rintro w ⟨t, db, follows, changes, stands, shows⟩
  obtain ⟨v, done, shown⟩ := Session.yields_report e w shows
  exact ⟨v, done, t, db, follows, changes, stands, shown⟩

theorem yields_withTable {op : Nat → Session α} {a : α} (accepted : m.plan.Accepted)
    (works : ∀ layout, Yields (m.Attends s id alone start layout rows) (op id) a
      (m.Attends s id alone start layout after)) :
    Yields (m.Works s id alone start rows) (m.withTable op) a (m.Works s id alone start after) := by
  intro w before
  obtain ⟨layout, u, attends, same⟩ := before.outcome_withTable accepted op
  obtain ⟨v, done, then_⟩ := works layout u attends
  exact ⟨v, same.trans done, then_.works⟩

theorem keeps_withTable_works {op : Nat → Session α} (accepted : m.plan.Accepted)
    (kept : ∀ layout, Keeps (m.Attends s id alone start layout rows) (op id)) :
    Keeps (m.Works s id alone start rows) (m.withTable op) := by
  intro w before
  obtain ⟨layout, u, attends, same⟩ := before.outcome_withTable accepted op
  rw [same]
  exact (kept layout u attends).works

/-! ## Statements -/

theorem Attends.wide (attends : m.Attends s id alone start layout rows w) :
    ∀ row ∈ rows, row.length = m.plan.columns.length := by
  obtain ⟨_, _, _, _, stands, _⟩ := attends
  exact stands.serves.wide

/-- What is done to the database that a mapper sees, the table at hand. -/
theorem yields_attends {op : Session α} {a : α} (sound : m.plan.Sound)
    (wide : ∀ row ∈ after, row.length = m.plan.columns.length)
    (each : ∀ t db, (t.lives id).2 = true → m.plan.In layout rows db →
      ∃ next, m.plan.Changes db next ∧ m.plan.In layout after next
        ∧ Yields (World.Sees t id alone db) op a (World.Sees t id alone next)) :
    Yields (m.Attends s id alone start layout rows) op a (m.Attends s id alone start layout after) := by
  rintro w ⟨t, db, follows, changes, stands, opened, table, shows⟩
  obtain ⟨h, here, sees⟩ := stands.sees
  obtain ⟨next, step, stored, yields⟩ := each t db opened table
  obtain ⟨v, done, k, seen, shown⟩ := yields w ⟨h, sees, by rw [Scene.put_same here]; exact shows⟩
  refine ⟨v, done, t.put id k, next, follows.trans (.put k), changes.trans step, ?_, opened, stored, shown⟩
  exact stands.put seen (stands.ready.changes sound.spares step) (stored.serves sound wide)
    ⟨layout, stored⟩

theorem yields_query {text : String} {statement : Statement} {parameters : List Datum}
    {found : List Row} (sound : m.plan.Sound) (solid : Text.trim text = text)
    (parsed : Sql.parse (Sql.tokens text.toList) = .ok (some ⟨statement, parameters.length, []⟩))
    (finds : ∀ db, m.plan.In layout rows db → ∃ program, db.prepare statement = .ok (some program)
      ∧ MappingPlan.Finds program parameters db found) (f : List Row → α) :
    Yields (m.Attends s id alone start layout rows)
      (do return f (← Session.runWith id (← Session.prepareCached id text) parameters).rows) (f found)
      (m.Attends s id alone start layout rows) := by
  intro w attends
  refine yields_attends sound attends.wide (fun t db opened stored => ⟨db, .refl, stored, ?_⟩) w attends
  obtain ⟨program, prepared, reads, runs⟩ := finds db stored
  refine .bind (Session.yields_cached opened solid (prepareText_parsed parsed prepared)) ?_
  exact .bind (Session.yields_query opened rfl rfl reads runs) (.pure _)

/-- Whatever a query comes to, the mapper reads what it has read. -/
theorem keeps_selecting {text : String} (starts : StartsWith "select" text) (parameters : List Datum)
    (f : List Row → α) :
    Keeps (m.Attends s id alone start layout rows)
      (do return f (← Session.runWith id (← Session.prepareCached id text) parameters).rows) := by
  rintro w ⟨t, db, follows, changes, stands, opened, table, shows⟩
  obtain ⟨h, here, sees⟩ := stands.sees
  have kept : Keeps (World.Sees t id alone db)
      (do return f (← Session.runWith id (← Session.prepareCached id text) parameters).rows) := by
    refine .bind_gives (Session.keeps_cached opened text) (Session.gives_prepareCached_select starts) ?_
    rintro p ⟨program, prepares, asks⟩
    exact .bind (Session.keeps_query opened prepares asks parameters) fun _ => .pure _
  obtain ⟨k, seen, shown⟩ := kept w ⟨h, sees, by rw [Scene.put_same here]; exact shows⟩
  refine ⟨t.put id k, db, follows.trans (.put k), changes, ?_, opened, table, shown⟩
  exact stands.put seen stands.ready stands.serves ⟨layout, table⟩

theorem keeps_query_works (accepted : m.plan.Accepted) {op : Nat → Session α} (query : m.Query op) :
    Keeps (m.Works s id alone start rows) (m.withTable op) := by
  refine keeps_withTable_works accepted fun layout => ?_
  cases query with
  | select starts parameters f =>
    exact .bind yields_countQuery_attends.keeps fun _ => keeps_selecting starts parameters f

/-! ## Reads -/

theorem yields_read {op : String} {standard a : α} {block : Session α}
    (works : Yields (m.Works s id alone start rows) block a (m.Works s id alone start after)) :
    Yields (m.Works s id alone start rows) (m.read op standard block) a
      (m.Works s id alone start after) := by
  refine .bind yields_contextId.attempt ?_
  exact .bind (works.annotate _).attempt (.pure a)

section
variable (accepted : m.plan.Accepted)
include accepted

omit accepted in
theorem readRow_ok {width : Nat} {row : List StoredValue} (wide : width ≤ row.length) :
    readRow width row = .ok (row.take width) := if_neg (Nat.not_lt.mpr wide)

theorem yields_load {text : String} {statement : Statement} {parameters : List StoredValue}
    {found : List Row} {records : List Record} (solid : Text.trim text = text)
    (parsed : Sql.parse (Sql.tokens text.toList) = .ok (some ⟨statement, parameters.length, []⟩))
    (finds : ∀ layout db, m.plan.In layout rows db → ∃ program,
      db.prepare statement = .ok (some program)
        ∧ MappingPlan.Finds program (parameters.map .ofStored) db found)
    (wide : ∀ row ∈ found, row.length = m.plan.columns.length)
    (decodes : found.mapM (fun row => m.entity.decodeRow
      ((row.map Datum.toStored).take m.plan.columns.length)) = .ok records) :
    Yields (m.Works s id alone start rows) (m.load text parameters) records
      (m.Works s id alone start rows) := by
  have asked : Yields (m.Works s id alone start rows)
      (m.withTable fun id => do
        m.countQuery
        Session.rows id (← Session.prepareCached id text) parameters)
      (found.map fun row => row.map Datum.toStored) (m.Works s id alone start rows) := by
    refine yields_withTable accepted fun layout => .bind yields_countQuery_attends ?_
    have counted : (parameters.map Datum.ofStored).length = parameters.length := List.length_map _
    exact yields_query accepted.toSound solid (counted.symm ▸ parsed) (finds layout)
      fun rows => rows.map fun row => row.map Datum.toStored
  have read : (found.map fun row => row.map Datum.toStored).mapM (readRow m.plan.columns.length) =
      .ok (found.map fun row => (row.map Datum.toStored).take m.plan.columns.length) := by
    rw [List.mapM_map]
    refine mapM_eq_ok fun row member => readRow_ok ?_
    rw [List.length_map, wide row member]
  -- All rows are read before the first of them is decoded.
  refine .bind asked (.bind (.mapM_ofExcept read) (.bind (.mapM_ofExcept ?_)
    (.bind (yields_report_works _) (.pure _))))
  rw [List.mapM_map]
  exact decodes

theorem yields_aggregate {text : String} {statement : Statement} {parameters : List StoredValue}
    {found : List Row} (solid : Text.trim text = text)
    (parsed : Sql.parse (Sql.tokens text.toList) = .ok (some ⟨statement, parameters.length, []⟩))
    (finds : ∀ layout db, m.plan.In layout rows db → ∃ program,
      db.prepare statement = .ok (some program)
        ∧ MappingPlan.Finds program (parameters.map .ofStored) db found) :
    Yields (m.Works s id alone start rows) (m.aggregate text parameters)
      (found.map fun row => aggregateOf (row.headD .null)) (m.Works s id alone start rows) := by
  refine yields_withTable accepted fun layout => .bind yields_countQuery_attends ?_
  have counted : (parameters.map Datum.ofStored).length = parameters.length := List.length_map _
  exact yields_query accepted.toSound solid (counted.symm ▸ parsed) (finds layout)
    fun rows => rows.map fun row => aggregateOf (row.headD .null)

def recordOf (m : Mapper) (row : Row) : Except Failure Record :=
  m.entity.decodeRow ((row.map Datum.toStored).take m.plan.columns.length)

theorem yields_get {key : Int64} {records : List Record} (fits : m.plan.Fits rows)
    (decodes : (m.plan.rowsOf [key] rows).mapM m.recordOf = .ok records) :
    Yields (m.Works s id alone start rows) (m.get key) records.head?
      (m.Works s id alone start rows) := by
  have sound := accepted.toSound
  obtain ⟨outputs, place, column, parsed, columns⟩ := MappingPlan.parse_get sound.toWritten
  refine yields_read (.bind (yields_load accepted m.plan.trim_get parsed (fun layout db stored => ?_)
    (fun row member => fits.wide row (List.mem_filter.mp member).1) decodes) (.pure _))
  obtain ⟨program, prepared, finds⟩ :=
    MappingPlan.prepare_get sound stored fits columns place column m.plan.table
  exact ⟨program, prepared, finds key⟩

theorem yields_select {records : List Record} (fits : m.plan.Fits rows)
    (ordered : m.plan.Ordered rows) (decodes : rows.mapM m.recordOf = .ok records) :
    Yields (m.Works s id alone start rows) m.select records (m.Works s id alone start rows) := by
  have sound := accepted.toSound
  obtain ⟨outputs, place, column, parsed, columns⟩ := MappingPlan.parse_select sound.toWritten
  refine yields_read (yields_load accepted (MappingPlan.trim_select sound.toWritten) parsed
    (fun layout db stored => ?_) fits.wide decodes)
  exact MappingPlan.prepare_select sound stored fits ordered columns place column m.plan.table

theorem yields_count : Yields (m.Works s id alone start rows) m.count (Int64.ofNat rows.length)
    (m.Works s id alone start rows) := by
  have sound := accepted.toSound
  obtain ⟨place, call, parsed⟩ := MappingPlan.parse_count sound.toWritten
  exact yields_read (.bind (yields_aggregate accepted (MappingPlan.trim_count sound.toWritten) parsed
    fun layout db stored => MappingPlan.prepare_count stored place call m.plan.table) (.pure _))

theorem yields_pieces {record : Row → Record} (fits : m.plan.Fits rows)
    (decodes : ∀ row ∈ rows, m.recordOf row = .ok (record row)) {pieces : List (List Int64)}
    (some_key : ∀ piece ∈ pieces, piece ≠ []) :
    Yields (m.Works s id alone start rows)
      (pieces.mapM fun piece => m.load (m.plan.gets piece.length) (piece.map .integer))
      (pieces.map fun piece => (m.plan.rowsOf piece rows).map record)
      (m.Works s id alone start rows) := by
  have sound := accepted.toSound
  refine .mapM fun piece member => ?_
  have positive : 0 < piece.length := List.length_pos_iff.mpr (some_key piece member)
  obtain ⟨outputs, place, column, parsed, columns⟩ := MappingPlan.parse_gets sound.toWritten positive
  have decoded : (m.plan.rowsOf piece rows).mapM m.recordOf =
      .ok ((m.plan.rowsOf piece rows).map record) :=
    mapM_eq_ok fun row listed => decodes row (List.mem_filter.mp listed).1
  refine yields_load accepted (m.plan.trim_gets piece.length)
    (by rw [List.length_map]; exact parsed) (fun layout db stored => ?_)
    (fun row member => fits.wide row (List.mem_filter.mp member).1) decoded
  obtain ⟨program, prepared, finds⟩ :=
    MappingPlan.prepare_gets sound stored fits columns place column piece.length m.plan.table
  refine ⟨program, prepared, ?_⟩
  rw [List.map_map]
  exact finds piece rfl

theorem yields_gets {record : Row → Record} (fits : m.plan.Fits rows)
    (decodes : ∀ row ∈ rows, m.recordOf row = .ok (record row)) (keys : List Int64) :
    Yields (m.Works s id alone start rows) (m.gets keys)
      ((chunks maxKeysPerQuery (distinct keys)).flatMap fun chunk =>
        (m.plan.rowsOf chunk rows).map record)
      (m.Works s id alone start rows) := by
  rw [Mapper.gets]
  split
  · next none =>
    rw [none, chunks]
    exact .pure []
  · rw [List.flatMap_def]
    exact yields_read (.bind (yields_pieces accepted fits decodes fun _ => chunks_ne_nil) (.pure _))

omit accepted in
/-- The keys that a text lists, without the items that are none. -/
def keysIn (m : Mapper) (text : String) : List Int64 :=
  (((Text.splitAt ',' text).map Text.trim).filter fun item => !item.isEmpty).filterMap
    m.entity.keyType.readToken?

omit accepted in
theorem yields_readKeys (text : String) :
    Yields (m.Works s id alone start rows) (m.readKeys text) (m.keysIn text)
      (m.Works s id alone start rows) := by
  have item (item : String) : Yields (m.Works s id alone start rows) (m.readItem item)
      (m.entity.keyType.readToken? item) (m.Works s id alone start rows) := by
    rw [readItem]
    cases m.entity.keyType.readToken? item with
    | some key => exact .pure (some key)
    | none => exact .bind (yields_report_works _) (.pure none)
  have read (items : List String) : Yields (m.Works s id alone start rows)
      (items.mapM m.readItem) (items.map m.entity.keyType.readToken?)
      (m.Works s id alone start rows) := .mapM fun a _ => item a
  have same : m.keysIn text = ((((Text.splitAt ',' text).map Text.trim).filter
      fun item => !item.isEmpty).map m.entity.keyType.readToken?).filterMap fun key => key := by
    rw [keysIn, List.filterMap_map]
    rfl
  rw [same]
  exact .bind (read _) (.pure _)

theorem yields_getsListed {record : Row → Record} (fits : m.plan.Fits rows)
    (decodes : ∀ row ∈ rows, m.recordOf row = .ok (record row)) (text : String) :
    Yields (m.Works s id alone start rows) (m.getsListed text)
      ((chunks maxKeysPerQuery (distinct (m.keysIn text))).flatMap fun chunk =>
        (m.plan.rowsOf chunk rows).map record)
      (m.Works s id alone start rows) :=
  .bind (yields_readKeys text) (yields_gets accepted fits decodes _)

end

/-! ## Writes -/

theorem yields_write {op : String} {block : Nat → Session α} {a : α}
    (works : Yields (m.Works s id alone start rows) (m.withTable block) a
      (m.Works s id alone start after)) :
    Yields (m.Works s id alone start rows) (m.write op block) a (m.Works s id alone start after) :=
  .bind (yields_report_works _) (.bind works.attempt (.bind (yields_report_works _) (.pure a)))

structure Stores (m : Mapper) (record : Record) (row : Row) : Prop where
  binds : ∃ values, m.entity.bindRow record = .ok values
    ∧ values.length = m.plan.columns.length ∧ m.plan.kept (values.map .ofStored) = row
  key : m.plan.keyAt row = .integer (m.entity.keyOf record)

theorem Stores.wide {record : Record} {row : Row} (stores : m.Stores record row) :
    row.length = m.plan.columns.length := by
  obtain ⟨⟨values, _, wide, rfl⟩, _⟩ := stores
  exact MappingPlan.length_kept _ (by rw [List.length_map, wide])

def Inserts (m : Mapper) (layout : List ColumnPlan) (p : Prepared) : Prop :=
  p.parameters = m.plan.columns.length ∧ ∃ program, p.program = some program
    ∧ program.writes = true
    ∧ ∀ {rows : List Row} {db : Database} {values : Row} {n : Int64}, m.plan.In layout rows db →
      values.length = m.plan.columns.length → m.plan.keyAt (m.plan.kept values) = .integer n →
        program.run values db = .ok {
          database := db.setTable ((m.plan.onto layout).shape
            ((m.plan.replacing n (m.plan.kept values) rows).map (m.plan.picked layout)))
          changes := 1 }

theorem Attends.prepareInsert (sound : m.plan.Sound)
    (attends : m.Attends s id alone start layout rows w) :
    ∃ p v, (Session.prepareCached id m.plan.insert).outcome w = (.ok p, v) ∧ m.Inserts layout p
      ∧ m.Attends s id alone start layout rows v := by
  obtain ⟨t, db, follows, changes, stands, opened, table, shows⟩ := attends
  obtain ⟨h, here, sees⟩ := stands.sees
  obtain ⟨place, parsed⟩ := MappingPlan.parse_insert sound.toWritten
  obtain ⟨program, prepared, writes, runs⟩ := MappingPlan.prepare_insert sound table place m.plan.table
  obtain ⟨v, done, k, seen, shown⟩ := Session.yields_cached opened m.plan.trim_insert
    (prepareText_parsed parsed prepared) w ⟨h, sees, by rw [Scene.put_same here]; exact shows⟩
  refine ⟨_, v, done, ⟨rfl, program, rfl, writes, runs⟩, t.put id k, db, follows.trans (.put k), changes, ?_,
    opened, table, shown⟩
  exact stands.put seen stands.ready stands.serves ⟨layout, table⟩

theorem yields_insert {p : Prepared} {record : Record} {row : Row} {f : Nat → α}
    (sound : m.plan.Sound) (inserts : m.Inserts layout p) (stores : m.Stores record row) :
    Yields (m.Attends s id alone start layout rows)
      (do
        let outcome ← Session.runWith id p (← m.bound record)
        m.countWrite
        return f outcome.changes) (f 1)
      (m.Attends s id alone start layout (m.plan.replacing (m.entity.keyOf record) row rows)) := by
  have ⟨⟨values, binds, width, same⟩, number⟩ := stores
  subst same
  have bound : m.bound record = Pure.pure (values.map .ofStored) := by
    rw [bound, binds]
    rfl
  have given : (values.map Datum.ofStored).length = m.plan.columns.length := by
    rw [List.length_map, width]
  -- The program has been prepared for other rows than it may meet, and works on any.
  have ran (rows : List Row) (wide : ∀ row ∈ rows, row.length = m.plan.columns.length) :
      Yields (m.Attends s id alone start layout rows)
        (do return (← Session.runWith id p (values.map .ofStored)).changes) 1
        (m.Attends s id alone start layout (m.plan.replacing (m.entity.keyOf record)
          (m.plan.kept (values.map .ofStored)) rows)) := by
    obtain ⟨counted, program, prepares, writes, runs⟩ := inserts
    refine yields_attends sound (fun row member => ?_) fun t db opened stored => ?_
    · rcases MappingPlan.mem_replacing number member with rfl | old
      · exact stores.wide
      · exact wide row ((MappingPlan.without_sublist _ rows).subset old)
    · refine ⟨_, .single (.replaced _ rfl), stored.set _, ?_⟩
      exact .bind (Session.yields_write opened prepares (counted.trans given.symm) writes
        (runs stored given number)) (.pure _)
  intro w attends
  rw [bound]
  refine Yields.bind_part (ran rows attends.wide) (fun outcome changes => ?_) w attends
  rw [← changes]
  exact .bind yields_countWrite_attends (.pure _)

def saved (m : Mapper) (cells : Record → Row) (records : List Record) (rows : List Row) : List Row :=
  records.foldl (fun rows record => m.plan.replacing (m.entity.keyOf record) (cells record) rows) rows

theorem yields_inserts {p : Prepared} {cells : Record → Row} (sound : m.plan.Sound)
    (inserts : m.Inserts layout p) {records : List Record}
    (stores : ∀ record ∈ records, m.Stores record (cells record)) (rows : List Row) :
    Yields (m.Attends s id alone start layout rows)
      (ForIn.forIn records PUnit.unit fun record _ => do
        let _ ← Session.runWith id p (← m.bound record)
        m.countWrite
        return ForInStep.yield PUnit.unit) PUnit.unit
      (m.Attends s id alone start layout (m.saved cells records rows)) := by
  induction records generalizing rows with
  | nil => exact .pure PUnit.unit
  | cons record rest ih =>
    rw [List.forIn_cons, saved, List.foldl_cons]
    exact .bind (yields_insert (f := fun _ => ForInStep.yield PUnit.unit) sound inserts
      (stores record (List.mem_cons_self ..)))
        (ih (fun record member => stores record (List.mem_cons_of_mem _ member)) _)

section
variable (accepted : m.plan.Accepted)
include accepted

theorem yields_save {record : Record} {row : Row} (stores : m.Stores record row) :
    Yields (m.Works s id alone start rows) (m.save record) true
      (m.Works s id alone start (m.plan.replacing (m.entity.keyOf record) row rows)) := by
  refine yields_write (yields_withTable accepted fun layout w attends => ?_)
  obtain ⟨p, v, prepared, inserts, attends⟩ := attends.prepareInsert accepted.toSound
  obtain ⟨values, binds, _⟩ := stores.binds
  obtain ⟨u, done, after⟩ :=
    yields_insert (f := fun n => decide (n = 1)) accepted.toSound inserts stores v attends
  refine ⟨u, ?_, after⟩
  have bound : m.bound record = Pure.pure (values.map .ofStored) := by
    rw [Mapper.bound, binds]
    rfl
  rw [bound] at done ⊢
  rw [Session.outcome_bind_ok (Session.outcome_pure _ w), Session.outcome_bind_ok prepared]
  exact done

/-- Rows take the places of those with their keys, one after the other. -/
theorem yields_saveAll {records : List Record} {cells : Record → Row}
    (stores : ∀ record ∈ records, m.Stores record (cells record)) :
    Yields (m.Works s id alone start rows) (m.saveAll records) (!records.isEmpty)
      (m.Works s id alone start (m.saved cells records rows)) := by
  rw [saveAll]
  cases records with
  | nil => exact .pure false
  | cons record rest =>
    refine yields_write (yields_withTable accepted fun layout w attends => ?_)
    obtain ⟨p, v, prepared, inserts, attends⟩ := attends.prepareInsert accepted.toSound
    obtain ⟨u, done, after⟩ := yields_inserts accepted.toSound inserts stores rows v attends
    refine ⟨u, ?_, after⟩
    rw [Session.outcome_bind_ok prepared]
    exact Session.outcome_bind_ok done _

theorem yields_deleteKey (fits : m.plan.Fits rows) (ordered : m.plan.Ordered rows)
    (numbered : m.plan.Numbered rows) (key : Int64) :
    Yields (m.Works s id alone start rows) (m.withTable fun id => m.deleteKey id key)
      (decide (m.plan.rowsOf [key] rows ≠ [])) (m.Works s id alone start (m.plan.without key rows)) := by
  refine yields_withTable accepted fun layout w attends => ?_
  have sound := accepted.toSound
  obtain ⟨place, column, parsed⟩ := MappingPlan.parse_delete sound.toWritten
  have ran : Yields (m.Attends s id alone start layout rows)
      (do return decide ((← (Session.prepareCached id m.plan.delete >>= fun p =>
        Session.runWith id p [.integer key])).changes = 1)) (decide (m.plan.rowsOf [key] rows ≠ []))
      (m.Attends s id alone start layout (m.plan.without key rows)) := by
    refine yields_attends sound (fun row member => (fits.without key).wide row member)
      fun t db opened stored => ?_
    obtain ⟨program, prepared, writes, runs⟩ :=
      MappingPlan.prepare_delete sound stored fits ordered numbered place column m.plan.table
    have cached : Yields (World.Sees t id alone db) (Session.prepareCached id m.plan.delete) _
        (World.Sees t id alone db) :=
      Session.yields_cached opened m.plan.trim_delete (prepareText_parsed parsed prepared)
    -- A key that is not there deletes nothing, and then the rows without it are the rows.
    rcases runs key with ⟨free, ran⟩ | ⟨found, ran⟩
    · rw [decide_eq_false (by simp [free]), MappingPlan.without_of_free free]
      exact ⟨db, .refl, stored, .bind (.bind cached (Session.yields_write opened rfl rfl writes ran))
        (.pure false)⟩
    · rw [decide_eq_true found]
      exact ⟨_, .single (.replaced _ rfl), stored.set _, .bind (.bind cached
        (Session.yields_write opened rfl rfl writes ran)) (.pure true)⟩
  have counted : Yields (m.Attends s id alone start layout rows) (m.deleteKey id key)
      (decide (m.plan.rowsOf [key] rows ≠ []))
      (m.Attends s id alone start layout (m.plan.without key rows)) := by
    rw [deleteKey, ← bind_assoc]
    exact .bind_part ran fun outcome changed => .bind yields_countWrite_attends (changed ▸ .pure _)
  exact counted w attends

theorem yields_delete (fits : m.plan.Fits rows) (ordered : m.plan.Ordered rows)
    (numbered : m.plan.Numbered rows) (record : Record) :
    Yields (m.Works s id alone start rows) (m.delete record)
      (decide (m.plan.rowsOf [m.entity.keyOf record] rows ≠ []))
      (m.Works s id alone start (m.plan.without (m.entity.keyOf record) rows)) :=
  yields_write (yields_deleteKey accepted fits ordered numbered _)

theorem yields_deleteBy (fits : m.plan.Fits rows) (ordered : m.plan.Ordered rows)
    (numbered : m.plan.Numbered rows) (key : Int64) :
    Yields (m.Works s id alone start rows) (m.deleteBy key)
      (decide (m.plan.rowsOf [key] rows ≠ []))
      (m.Works s id alone start (m.plan.without key rows)) :=
  yields_write (yields_deleteKey accepted fits ordered numbered key)

end

/-! ## Forgetting -/

/-- A mapper that finds its context again may forget it. -/
theorem yields_reset (found : (s.groups.getD m.registry.group []).lookup m.plan.tag = some id) :
    Yields (m.Works s id alone start rows) m.reset () (m.Works s id alone start rows) := by
  rintro w ⟨t, db, follows, changes, stands, shows⟩
  obtain ⟨h, here, _⟩ := stands.sees
  -- Whether or not its statements are dropped before, the mapper forgets what it remembers.
  have forgotten {v : World} (shows : v.Shows t) : ∃ u, (m.modifyState fun state =>
      { state with migrated := 0, bound := none }).outcome v = (.ok (), u)
        ∧ m.Works s id alone start rows u := by
    let forget (state : MapperState) : MapperState := { state with migrated := 0, bound := none }
    refine ⟨{ v with registries := m.rememberedBy forget v.registries }, rfl,
      { t with registries := m.rememberedBy forget t.registries }, db,
      follows.trans (follows_rememberedBy forget), changes, ?_, ?_⟩
    · exact stands.remembered (fun _ => .inr (.inr ⟨rfl, follows.groups ▸ found⟩))
        fun _ => .inr (.inl rfl)
    · rw [← shows.registries]
      exact shows.congr (v := { v with registries := m.rememberedBy forget v.registries })
        rfl rfl rfl rfl rfl
  have looked : m.state.outcome w = (.ok (m.stateIn w.registries), w) := rfl
  rw [reset, Session.outcome_bind_ok looked]
  cases bound : (m.stateIn w.registries).bound with
  | none => exact forgotten shows
  | some other =>
    have same : other = id := by
      have on := stands.on
      simp only [On, ← shows.registries, bound, Option.some.injEq, reduceCtorEq, false_and,
        or_false] at on
      exact on
    obtain ⟨v, flushed, shown⟩ := Session.yields_modifyKept here (fun _ => []) w shows
    obtain ⟨u, done, works⟩ := forgotten shown
    subst same
    exact ⟨u, (Session.outcome_bind_ok flushed _).trans done, works⟩

end Mapper

end EntityStore
