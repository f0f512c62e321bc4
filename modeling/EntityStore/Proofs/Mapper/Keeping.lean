import EntityStore.Proofs.Mapper.Text
import EntityStore.Proofs.Outcome
import EntityStore.Store.Related

/-! # What the operations of mappers keep

What holds of a world and is not touched by what mappers do to their tables is not touched by any of
their operations:

* `Mapper.Query`, `Mapper.Write` — what a mapper does to its table, as the operations are made of it.
* `Mapper.Reads`, `Mapper.Bears` — a property that the queries, or also the writes, of a mapper keep.
* `Mapper.Reading`, `Mapper.Reading.succeeds` — reads.
* `Mapper.keeps_store` — a mapper as the store of a relation.
-/

namespace EntityStore

open EntityStore.Engine (Row)
open EntityStore.Sql (Datum)
open Session (Keeps Succeeds Yields prepareCached runWith)

variable {P : World → Prop} {α : Type}

theorem Session.keeps_ofExcept (r : Except Failure α) : Keeps P (Session.ofExcept r) := by
  cases r with
  | ok a => exact .pure a
  | error failure => exact .throw failure

theorem Session.Yields.mapM_ofExcept {β : Type} {f : α → Except Failure β} {items : List α}
    {results : List β} (done : items.mapM f = .ok results) :
    Session.Yields P (items.mapM fun a => Session.ofExcept (f a)) results P := by
  induction items generalizing results with
  | nil => cases done; exact .pure []
  | cons a rest ih =>
    rw [List.mapM_cons] at done ⊢
    cases first : f a with
    | error failure => rw [first] at done; cases done
    | ok b =>
      cases others : rest.mapM f with
      | error failure => rw [first, others] at done; cases done
      | ok bs =>
        rw [first, others] at done
        cases done
        exact .bind (.pure b) (.bind (ih others) (.pure _))

namespace Mapper

variable {m : Mapper}

/-! ## What operations are made of -/

/-- A query on the table of a mapper. -/
inductive Query (m : Mapper) : {α : Type} → (Nat → Session α) → Prop
  | select {α : Type} {text : String} (starts : StartsWith "select" text) (parameters : List Datum)
      (f : List Row → α) : Query m fun id => do
        m.countQuery
        return f (← runWith id (← prepareCached id text) parameters).rows

def saving (m : Mapper) (row : Record) (id : Nat) : Session Bool := do
  let parameters ← m.bound row
  let outcome ← runWith id (← prepareCached id m.plan.insert) parameters
  m.countWrite
  return outcome.changes = 1

def savingAll (m : Mapper) (rows : List Record) (id : Nat) : Session Bool := do
  let p ← prepareCached id m.plan.insert
  for row in rows do
    let _ ← runWith id p (← m.bound row)
    m.countWrite
  return true

def changing (m : Mapper) (text : String) (parameters : List StoredValue) (id : Nat) : Session Nat := do
  let changed ← Session.change id text parameters
  m.countWrite
  return changed

/-- A change of the table of a mapper. -/
inductive Write (m : Mapper) : {α : Type} → (Nat → Session α) → Prop
  | save (row : Record) : Write m (m.saving row)
  | saveAll (rows : List Record) : Write m (m.savingAll rows)
  | delete (key : Int64) : Write m fun id => m.deleteKey id key
  | deleteWhere (predicate : String) (parameters : List StoredValue) :
      Write m (m.changing (m.plan.deleteWhere predicate) parameters)
  | updateWhere (assignments predicate : String) (parameters : List StoredValue) :
      Write m (m.changing (m.plan.updateWhere assignments predicate) parameters)

/-- What reports, the way of a mapper to its context, and its queries keep. -/
structure Reads (P : World → Prop) (m : Mapper) : Prop where
  reports : ∀ e, Keeps P (Session.report e)
  context : Keeps P m.contextId
  queries : ∀ {α : Type} {op : Nat → Session α}, m.Query op → Keeps P (m.withTable op)

/-- What everything that a mapper does to its table keeps. -/
structure Bears (P : World → Prop) (m : Mapper) : Prop extends m.Reads P where
  prepare : Keeps P m.prepare
  writes : ∀ {α : Type} {op : Nat → Session α}, m.Write op → Keeps P (m.withTable op)

/-! ## Reads -/

namespace Reads

variable (reads : m.Reads P)
include reads

theorem reporting (e : Event) : Yields P (Session.report e) () P :=
  fun w holds => ⟨_, rfl, reads.reports e w holds⟩

theorem load {text : String} (starts : StartsWith "select" text) (parameters : List StoredValue) :
    Keeps P (m.load text parameters) := by
  have query := Query.select (m := m) starts (parameters.map .ofStored) fun rows =>
    rows.map fun row => row.map (·.toStored)
  exact .bind (reads.queries query) fun _ =>
    .bind (.mapM fun _ _ => Session.keeps_ofExcept _) fun _ =>
      .bind (.mapM fun _ _ => Session.keeps_ofExcept _) fun rows =>
        .bind (reads.reports _) fun _ => .pure rows

theorem aggregate {text : String} (starts : StartsWith "select" text)
    (parameters : List StoredValue) : Keeps P (m.aggregate text parameters) := by
  have query := Query.select (m := m) starts (parameters.map .ofStored) fun rows =>
    rows.map fun row => aggregateOf (row.headD .null)
  exact reads.queries query

/-- No read fails: whatever goes wrong, there is the standard result. -/
theorem read (op : String) (standard : α) {block : Session α} (kept : Keeps P block) :
    Succeeds P (m.read op standard block) P := by
  refine .bind reads.context.succeeds_attempt fun result => ?_
  cases result with
  | ok id =>
    refine .bind (kept.annotate _).succeeds_attempt fun result => ?_
    cases result with
    | ok value => exact (Yields.pure value).succeeds
    | error failure =>
      refine Yields.succeeds (a := standard) (.context fun c => ?_)
      exact .bind (.imp (fun _ both => both.1) (reads.reporting _) fun _ after => after) (.pure standard)
  | error failure => exact (Yields.bind (reads.reporting _) (.pure standard)).succeeds

/-- A query for rows whose failure gives way to an empty result. -/
theorem rows (op : String) {text : String} (starts : StartsWith "select" text)
    (parameters : List StoredValue) : Succeeds P (m.read op [] (m.load text parameters)) P :=
  reads.read op [] (reads.load starts parameters)

theorem aggregates (op expression : String) (predicate group : Option String)
    (parameters : List StoredValue) :
    Succeeds P (m.read op [] (m.aggregate (m.plan.aggregate expression predicate group) parameters))
      P :=
  reads.read op [] (reads.aggregate (m.plan.startsWith_aggregate expression predicate group) _)

theorem firstAggregate (op expression : String) (predicate : Option String)
    (parameters : List StoredValue) :
    Succeeds P (m.read op 0 do
      return first (← m.aggregate (m.plan.aggregate expression predicate none) parameters)) P :=
  reads.read op 0 <| .bind
    (reads.aggregate (m.plan.startsWith_aggregate expression predicate none) _) fun _ => .pure _

theorem get (key : Int64) : Succeeds P (m.get key) P :=
  reads.read "get" none <| .bind (reads.load m.plan.startsWith_get _) fun _ => .pure _

theorem gets (keys : List Int64) : Succeeds P (m.gets keys) P := by
  rw [Mapper.gets]
  split
  · exact (Yields.pure []).succeeds
  · exact reads.read "gets" [] <|
      .bind (.mapM fun _ _ => reads.load (m.plan.startsWith_gets _) _) fun _ => .pure _

theorem readKeys (text : String) : Succeeds P (m.readKeys text) P := by
  refine .bind (.mapM (fun item => ?_) _) fun _ => (Yields.pure _).succeeds
  rw [readItem]
  split
  · exact (Yields.pure _).succeeds
  · exact (Yields.bind (reads.reporting _) (.pure none)).succeeds

theorem getsListed (text : String) : Succeeds P (m.getsListed text) P :=
  .bind (reads.readKeys text) fun keys => reads.gets keys

end Reads

/-- The reads of a mapper, without what rows refer to. -/
inductive Reading (m : Mapper) : {α : Type} → Session α → Prop
  | get (key : Int64) : Reading m (m.get key)
  | gets (keys : List Int64) : Reading m (m.gets keys)
  | getsListed (text : String) : Reading m (m.getsListed text)
  | select : Reading m m.select
  | selectOrdered (order : String) : Reading m (m.selectOrdered order)
  | selectLimit (order : String) (limit offset : Int64) : Reading m (m.selectLimit order limit offset)
  | selectWhere (predicate : String) (parameters : List StoredValue) :
      Reading m (m.selectWhere predicate parameters)
  | selectWhereOrdered (predicate order : String) (parameters : List StoredValue) :
      Reading m (m.selectWhereOrdered predicate order parameters)
  | selectWhereLimit (predicate order : String) (parameters : List StoredValue)
      (limit offset : Int64) :
      Reading m (m.selectWhereLimit predicate order parameters limit offset)
  | count : Reading m m.count
  | countGrouped (group : String) : Reading m (m.countGrouped group)
  | countWhere (predicate : String) (parameters : List StoredValue) :
      Reading m (m.countWhere predicate parameters)
  | countWhereGrouped (predicate group : String) (parameters : List StoredValue) :
      Reading m (m.countWhereGrouped predicate group parameters)
  | sumWhere (field predicate : String) (parameters : List StoredValue) :
      Reading m (m.sumWhere field predicate parameters)
  | sumWhereGrouped (field predicate group : String) (parameters : List StoredValue) :
      Reading m (m.sumWhereGrouped field predicate group parameters)

/-- No read fails, and what the queries of a mapper keep its reads keep. -/
theorem Reading.succeeds {op : Session α} (reading : m.Reading op) (reads : m.Reads P) :
    Succeeds P op P := by
  cases reading with
  | get key => exact reads.get key
  | gets keys => exact reads.gets keys
  | getsListed text => exact reads.getsListed text
  | select => exact reads.rows _ (m.plan.startsWith_selectOrdered _) _
  | selectOrdered order => exact reads.rows _ (m.plan.startsWith_selectOrdered _) _
  | selectLimit order limit offset =>
    exact reads.rows _ ((m.plan.startsWith_selectOrdered _).append _) _
  | selectWhere predicate parameters =>
    exact reads.rows _ (m.plan.startsWith_selectWhereOrdered _ _) _
  | selectWhereOrdered predicate order parameters =>
    exact reads.rows _ (m.plan.startsWith_selectWhereOrdered _ _) _
  | selectWhereLimit predicate order parameters limit offset =>
    exact reads.rows _ ((m.plan.startsWith_selectWhereOrdered _ _).append _) _
  | count => exact reads.firstAggregate _ _ _ _
  | countGrouped group => exact reads.aggregates _ _ _ _ _
  | countWhere predicate parameters => exact reads.firstAggregate _ _ _ _
  | countWhereGrouped predicate group parameters => exact reads.aggregates _ _ _ _ _
  | sumWhere field predicate parameters => exact reads.firstAggregate _ _ _ _
  | sumWhereGrouped field predicate group parameters => exact reads.aggregates _ _ _ _ _

theorem Reading.keeps {op : Session α} (reading : m.Reading op) (reads : m.Reads P) : Keeps P op :=
  (reading.succeeds reads).keeps

/-! ## Writes -/

namespace Bears

variable (bears : m.Bears P)
include bears

theorem write (op : String) {block : Nat → Session α} (kept : Keeps P (m.withTable block)) :
    Keeps P (m.write op block) := by
  refine .bind (bears.reports _) fun _ => .bind kept.attempt fun result => ?_
  cases result with
  | ok value => exact .bind (bears.reports _) fun _ => .pure value
  | error failure => exact .bind (bears.reports _) fun _ => .throw _

theorem save (row : Record) : Keeps P (m.save row) := bears.write "save" (bears.writes (.save row))

theorem saveAll (rows : List Record) : Keeps P (m.saveAll rows) := by
  rw [Mapper.saveAll]
  split
  · exact .pure false
  · exact bears.write "save_all" (bears.writes (.saveAll rows))

theorem delete (row : Record) : Keeps P (m.delete row) :=
  bears.write "delete" (bears.writes (.delete (m.entity.keyOf row)))

theorem deleteBy (key : Int64) : Keeps P (m.deleteBy key) :=
  bears.write "delete_by" (bears.writes (.delete key))

theorem deleteWhere (predicate : String) (parameters : List StoredValue) :
    Keeps P (m.deleteWhere predicate parameters) :=
  bears.write "delete_where" (bears.writes (.deleteWhere predicate parameters))

theorem updateWhere (assignments predicate : String) (parameters : List StoredValue) :
    Keeps P (m.updateWhere assignments predicate parameters) :=
  bears.write "update_where" (bears.writes (.updateWhere assignments predicate parameters))

end Bears

end Mapper

/-! ## Relations -/

/-- Whatever a relation asks of a store, `P` stays true. -/
structure RelatedStore.Keeps (P : World → Prop) (store : RelatedStore Session) : Prop where
  byKeys : ∀ keys, Session.Keeps P (store.fetchByKeys keys)
  byText : ∀ text, Session.Keeps P (store.fetchByText text)
  save : ∀ rows, Session.Keeps P (store.saveRelated rows)

namespace Relation

variable {rel : Relation} {stores : String → Option (RelatedStore Session)}
  (kept : ∀ store, stores rel.plan.target = some store → store.Keeps P)
include kept

theorem keeps_storeIn : Session.Keeps P (rel.storeIn stores)
    ∧ Session.Gives P (fun store => store.Keeps P) (rel.storeIn stores) := by
  rw [storeIn]
  cases found : stores rel.plan.target with
  | some store =>
    refine ⟨.pure store, fun w same v _ done => ?_⟩
    cases done
    exact kept store found
  | none => exact ⟨.throw _, fun w same v _ done => nomatch done⟩

theorem keeps_resolve (rows : List Record) : Session.Keeps P (rel.resolve stores rows) := by
  rw [resolve]
  split
  · exact .pure rows
  · refine .bind_gives (keeps_storeIn kept).1 (keeps_storeIn kept).2 fun store kept => ?_
    split
    · refine .mapM fun row _ => ?_
      rw [resolveText]
      split
      · exact .pure _
      · exact .bind (kept.byText _) fun _ => .pure _
    · rw [resolveBatched]
      split
      · exact .pure rows
      · exact .bind (kept.byKeys _) fun _ => .pure _

theorem keeps_save (rows : List Record) : Session.Keeps P (rel.save stores rows) := by
  simp only [save]
  split
  · exact .pure ()
  · exact .bind_gives (keeps_storeIn kept).1 (keeps_storeIn kept).2 fun store kept =>
      .bind (kept.save _) fun _ => .pure ()

end Relation

namespace Mapper

theorem registry_of_mapper? {r : Registry} {name : String} {m : Mapper}
    (found : r.mapper? name = some m) : m.registry = r := by
  rw [Registry.mapper?] at found
  split at found
  · cases found
  · obtain ⟨e, _, rfl⟩ := Option.map_eq_some_iff.mp found
    rfl

theorem keeps_requireRegistry (m : Mapper) : Keeps P m.requireRegistry := by
  refine .bind (fun _ holds => holds) fun alive => ?_
  cases alive with
  | true => exact .pure ()
  | false => exact .throw _

section Stores

variable {m : Mapper} {stores : Stores}
  (kept : ∀ known, stores = some known → ∀ rel ∈ m.entity.relations, ∀ store,
    known rel.plan.target = some store → store.Keeps P)
include kept

theorem keeps_attachRelated (rows : List Record) : Keeps P (m.attachRelated stores rows) := by
  cases stores with
  | none => exact .pure rows
  | some known =>
    simp only [attachRelated]
    split
    · exact .pure rows
    · exact .bind (keeps_requireRegistry m) fun _ => .foldlM (fun rows rel member =>
        Relation.keeps_resolve (kept known rfl rel member) rows) rows

theorem keeps_saveRelated (rows : List Record) : Keeps P (m.saveRelated stores rows) := by
  cases stores with
  | none => exact .pure ()
  | some known =>
    simp only [saveRelated]
    split
    · exact .pure ()
    · exact .bind (keeps_requireRegistry m) fun _ => .forM fun rel member =>
        Relation.keeps_save (kept known rfl rel member) rows

end Stores

theorem keeps_resolved {m : Mapper} (reports : ∀ e, Keeps P (Session.report e)) {stores : Stores}
    {rows : List Record} (kept : Keeps P (m.attachRelated stores rows)) :
    Keeps P (m.resolved stores rows) := by
  refine .bind kept.attempt fun result => ?_
  cases result with
  | ok rows => exact .pure rows
  | error failure => exact .bind (reports _) fun _ => .pure rows

theorem keeps_store {m : Mapper} (bears : m.Bears P) {stores : Stores}
    (kept : ∀ known, stores = some known → ∀ rel ∈ m.entity.relations, ∀ store,
      known rel.plan.target = some store → store.Keeps P) : (m.store stores).Keeps P where
  byKeys keys := .bind (bears.gets keys).keeps fun rows =>
    keeps_resolved bears.reports (keeps_attachRelated kept rows)
  byText text := .bind (bears.getsListed text).keeps fun rows =>
    keeps_resolved bears.reports (keeps_attachRelated kept rows)
  save rows := by
    refine .bind (bears.saveAll rows) fun saved => ?_
    cases saved with
    | true => exact .bind (keeps_saveRelated kept rows) fun _ => .pure true
    | false => exact .pure false

end Mapper

end EntityStore
