import EntityStore.Proofs.Mapper.Operation

/-! # Blocks of mapper operations

What a caller may do with mappers while a write transaction is open:

* `Mapper.Closed` — mappers whose relations never lead out of their set.
* `Mapper.keeps_stores` — the stores of relations, by induction on the depth.
* `Mapper.Operation` — the reads and writes of a mapper.
* `Session.Block` — operations made of them; `Session.Block.keeps` — what all mappers keep is kept
  by a block.
* `Session.Block.keeps_held` — a transaction stays open through a block.
-/

namespace EntityStore

open EntityStore.Engine (Database)

variable {among : Mapper → Prop} {P : World → Prop} {α : Type}

namespace Mapper

open Session (Keeps)

/-- Relations of mappers lead to mappers of the same set. -/
def Closed (among : Mapper → Prop) : Prop :=
  ∀ m, among m → ∀ rel ∈ m.entity.relations, ∀ target,
    m.registry.mapper? rel.plan.target = some target → among target

section Among

variable (closed : Closed among) (bears : ∀ m, among m → m.Bears P)
include closed bears

/-- The stores of the relations of a mapper, however many levels there are to go. -/
theorem keeps_stores (depth : Nat) {m : Mapper} (member : among m) (known)
    (some_known : m.registry.stores depth = some known) : ∀ rel ∈ m.entity.relations, ∀ store,
      known rel.plan.target = some store → store.Keeps P := by
  induction depth generalizing m known with
  | zero => cases some_known
  | succ depth ih =>
    cases some_known
    intro rel relation store found
    obtain ⟨target, looked, rfl⟩ := Option.map_eq_some_iff.mp found
    have reached := closed m member rel relation target looked
    rw [← registry_of_mapper? looked]
    exact keeps_store (bears target reached) (ih reached)

variable {m : Mapper} (member : among m)
include member

theorem keeps_wrap (rows : List Record) : Keeps P (m.wrap rows) :=
  keeps_attachRelated (keeps_stores closed bears m.maxRefDepth member) rows

theorem keeps_wrapRelation (rows : List Record) (name : String) :
    Keeps P (m.wrapRelation rows name) := by
  have kept (known) (same : m.stores = some known) : ∀ rel ∈ m.entity.relations, ∀ store,
      known rel.plan.target = some store → store.Keeps P :=
    keeps_stores closed bears m.maxRefDepth member known same
  rw [wrapRelation]
  split
  · exact .throw _
  · next rel found =>
    have relation : rel ∈ m.entity.relations := List.mem_of_find?_eq_some found
    split
    · exact .pure rows
    · next known same =>
      split
      · exact .pure rows
      · exact .bind (keeps_requireRegistry m) fun _ =>
          Relation.keeps_resolve (kept known same rel relation) rows

theorem keeps_withRelated {read : Session (List Record)} (kept : Keeps P read) :
    Keeps P (m.withRelated read) :=
  .bind kept fun rows => keeps_resolved (bears m member).reports
    (keeps_wrap closed bears member rows)

theorem keeps_getWithRelated (key : Int64) : Keeps P (m.getWithRelated key) := by
  refine .bind ((bears m member).get key).keeps fun found => ?_
  cases found with
  | none => exact .pure none
  | some row =>
    exact .bind (keeps_resolved (bears m member).reports (keeps_wrap closed bears member [row]))
      fun _ => .pure _

theorem keeps_saveWithRelated (row : Record) : Keeps P (m.saveWithRelated row) := by
  refine .bind ((bears m member).save row) fun saved => ?_
  cases saved with
  | true =>
    exact .bind (keeps_saveRelated (keeps_stores closed bears m.maxRefDepth member) [row])
      fun _ => .pure true
  | false => exact .pure false

theorem keeps_saveAllWithRelated (rows : List Record) : Keeps P (m.saveAllWithRelated rows) := by
  refine .bind ((bears m member).saveAll rows) fun saved => ?_
  cases saved with
  | true =>
    exact .bind (keeps_saveRelated (keeps_stores closed bears m.maxRefDepth member) rows)
      fun _ => .pure true
  | false => exact .pure false

end Among

/-! ## Operations -/

/-- The reads and writes of a mapper. -/
inductive Operation (m : Mapper) : {α : Type} → Session α → Prop
  | prepare : Operation m m.prepare
  | get (key : Int64) : Operation m (m.get key)
  | gets (keys : List Int64) : Operation m (m.gets keys)
  | getsListed (text : String) : Operation m (m.getsListed text)
  | select : Operation m m.select
  | selectOrdered (order : String) : Operation m (m.selectOrdered order)
  | selectLimit (order : String) (limit offset : Int64) :
      Operation m (m.selectLimit order limit offset)
  | selectWhere (predicate : String) (parameters : List StoredValue) :
      Operation m (m.selectWhere predicate parameters)
  | selectWhereOrdered (predicate order : String) (parameters : List StoredValue) :
      Operation m (m.selectWhereOrdered predicate order parameters)
  | selectWhereLimit (predicate order : String) (parameters : List StoredValue)
      (limit offset : Int64) :
      Operation m (m.selectWhereLimit predicate order parameters limit offset)
  | count : Operation m m.count
  | countGrouped (group : String) : Operation m (m.countGrouped group)
  | countWhere (predicate : String) (parameters : List StoredValue) :
      Operation m (m.countWhere predicate parameters)
  | countWhereGrouped (predicate group : String) (parameters : List StoredValue) :
      Operation m (m.countWhereGrouped predicate group parameters)
  | sumWhere (field predicate : String) (parameters : List StoredValue) :
      Operation m (m.sumWhere field predicate parameters)
  | sumWhereGrouped (field predicate group : String) (parameters : List StoredValue) :
      Operation m (m.sumWhereGrouped field predicate group parameters)
  | save (row : Record) : Operation m (m.save row)
  | saveAll (rows : List Record) : Operation m (m.saveAll rows)
  | delete (row : Record) : Operation m (m.delete row)
  | deleteBy (key : Int64) : Operation m (m.deleteBy key)
  | deleteWhere (predicate : String) (parameters : List StoredValue) :
      Operation m (m.deleteWhere predicate parameters)
  | updateWhere (assignments predicate : String) (parameters : List StoredValue) :
      Operation m (m.updateWhere assignments predicate parameters)
  | wrap (rows : List Record) : Operation m (m.wrap rows)
  | wrapRelation (rows : List Record) (name : String) : Operation m (m.wrapRelation rows name)
  | withRelated {read : Session (List Record)} (operation : Operation m read) :
      Operation m (m.withRelated read)
  | getWithRelated (key : Int64) : Operation m (m.getWithRelated key)
  | saveWithRelated (row : Record) : Operation m (m.saveWithRelated row)
  | saveAllWithRelated (rows : List Record) : Operation m (m.saveAllWithRelated rows)

theorem Operation.keeps (closed : Closed among) (bears : ∀ m, among m → m.Bears P)
    {m : Mapper} (member : among m) {op : Session α} (operation : Operation m op) : Keeps P op := by
  have table := bears m member
  -- On how the operation is made, as reads may be resolved again and again.
  induction operation with
  | prepare => exact table.prepare
  | get key => exact (table.get key).keeps
  | gets keys => exact (table.gets keys).keeps
  | getsListed text => exact (table.getsListed text).keeps
  | select => exact Reading.select.keeps table.toReads
  | selectOrdered order => exact (Reading.selectOrdered order).keeps table.toReads
  | selectLimit order limit offset =>
    exact (Reading.selectLimit order limit offset).keeps table.toReads
  | selectWhere predicate parameters =>
    exact (Reading.selectWhere predicate parameters).keeps table.toReads
  | selectWhereOrdered predicate order parameters =>
    exact (Reading.selectWhereOrdered predicate order parameters).keeps table.toReads
  | selectWhereLimit predicate order parameters limit offset =>
    exact (Reading.selectWhereLimit predicate order parameters limit offset).keeps table.toReads
  | count => exact Reading.count.keeps table.toReads
  | countGrouped group => exact (Reading.countGrouped group).keeps table.toReads
  | countWhere predicate parameters =>
    exact (Reading.countWhere predicate parameters).keeps table.toReads
  | countWhereGrouped predicate group parameters =>
    exact (Reading.countWhereGrouped predicate group parameters).keeps table.toReads
  | sumWhere field predicate parameters =>
    exact (Reading.sumWhere field predicate parameters).keeps table.toReads
  | sumWhereGrouped field predicate group parameters =>
    exact (Reading.sumWhereGrouped field predicate group parameters).keeps table.toReads
  | save row => exact table.save row
  | saveAll rows => exact table.saveAll rows
  | delete row => exact table.delete row
  | deleteBy key => exact table.deleteBy key
  | deleteWhere predicate parameters => exact table.deleteWhere predicate parameters
  | updateWhere assignments predicate parameters =>
    exact table.updateWhere assignments predicate parameters
  | wrap rows => exact keeps_wrap closed bears member rows
  | wrapRelation rows name => exact keeps_wrapRelation closed bears member rows name
  | withRelated _ ih => exact keeps_withRelated closed bears member ih
  | getWithRelated key => exact keeps_getWithRelated closed bears member key
  | saveWithRelated row => exact keeps_saveWithRelated closed bears member row
  | saveAllWithRelated rows => exact keeps_saveAllWithRelated closed bears member rows

end Mapper

/-! ## Blocks -/

/-- What is made of reads and writes of mappers: one after the other, with failures passed on or
    caught, as the caller chooses by what the world is like and what has been read. -/
inductive Session.Block (among : Mapper → Prop) : {α : Type} → Session α → Prop
  | pure {α : Type} (a : α) : Block among (Pure.pure a)
  | throw {α : Type} (failure : Failure) : Block among (MonadExcept.throw failure : Session α)
  | bind {α β : Type} {op : Session α} {next : α → Session β} (first : Block among op)
      (rest : ∀ a, Block among (next a)) : Block among (op >>= next)
  | attempt {α : Type} {op : Session α} (block : Block among op) :
      Block among (Session.attempt op)
  | choose {α : Type} {next : World → Session α} (rest : ∀ w, Block among (next w)) :
      Block among (MonadState.get >>= next)
  | run {α : Type} {m : Mapper} (member : among m) {op : Session α}
      (operation : m.Operation op) : Block among op

/-- What all mappers keep is kept by a block, whatever fails in it. -/
theorem Session.Block.keeps {block : Session α} (made : Block among block)
    (closed : Mapper.Closed among) (bears : ∀ m, among m → m.Bears P) : Keeps P block := by
  induction made with
  | pure a => exact .pure a
  | throw failure => exact .throw failure
  | bind _ _ first rest => exact .bind first rest
  | attempt _ block => exact block.attempt
  | choose _ rest => exact .bind .get rest
  | run member operation => exact operation.keeps closed bears member

/-- A write transaction stays open through a block, whatever fails in it. -/
theorem Session.Block.keeps_held {base : World} {id : Nat} {image : Database} {block : Session α}
    (made : Block among block) (closed : Mapper.Closed among)
    (named : ∀ m, among m → m.plan.Named) : Keeps (World.Held among base id image) block :=
  made.keeps closed fun m member => Mapper.bears_held member (named m member)

end EntityStore
