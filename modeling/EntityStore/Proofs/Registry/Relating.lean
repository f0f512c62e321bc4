import EntityStore.Proofs.Catalog.Coherence
import EntityStore.Proofs.Mapper.Enduring
import EntityStore.Proofs.Registry.Following

/-! # Relations always find their mapper

In a registry that has been built no operation on relations fails for want of a mapper, as long as the
registry is in use:

* `Registry.Alive`, `Registry.endures_alive` — a registry that is in use; no mapper puts an end to that.
* `Registry.succeeds_attachRelated` — attaching what rows refer to succeeds, at every depth.
* `Registry.SavesBelow` — the writes that saving what rows hold makes, each in the world it is made in.
* `Registry.saveRelated_error` — it fails only where one of them does.
-/

namespace EntityStore

open Session (Keeps Succeeds Yields)

namespace Registry

variable {r : Registry} {m t : Mapper} {w v : World} {failure : Failure}

/-! ## Registries in use -/

/-- The registry is in use. -/
def Alive (r : Registry) (w : World) : Prop := (w.registries.getD r.id default).alive = true

/-- What mappers remember has no part in whether a registry is in use. -/
theorem endures_alive (r : Registry) : Session.Endures r.Alive where
  withstands _ := .of_steps fun w v step alive => by
    have same : v.registries = w.registries := congrArg Prod.fst step.bindings
    rw [Alive, same]
    exact alive
  kept id f w alive := by
    have same : ((Session.modifyKept id f).outcome w).2.registries = w.registries :=
      congrArg Prod.fst (Session.step_modifyKept id f w).1.bindings
    rw [Alive, same]
    exact alive
  opens id w alive := by
    have same : ((Session.openContext id).outcome w).2.registries = w.registries :=
      congrArg Prod.fst (Session.openContext_aside id w).2
    rw [Alive, same]
    exact alive
  remembers m f w alive := by
    change ((w.registries.modify m.registry.id fun s =>
      { s with mappers := s.mappers.modify m.index f }).getD r.id default).alive = true
    rcases getD_modify w.registries m.registry.id r.id
      (fun s => { s with mappers := s.mappers.modify m.index f }) default with same | changed
    · rw [same]
      exact alive
    · rw [changed]
      exact alive

theorem outcome_requireRegistry (member : m ∈ r.mappers) (alive : r.Alive w) :
    m.requireRegistry.outcome w = (.ok (), w) := by
  have asked : (Session.isAlive m.registry.id).outcome w = (.ok true, w) := by
    rw [(mem_mappers.mp member).1, ← show _ = true from alive]
    rfl
  rw [Mapper.requireRegistry, Session.outcome_bind_ok asked]
  rfl

/-! ## Targets -/

theorem mapper?_name {name : String} (found : r.mapper? name = some t) :
    t.entity.schema.qualifiedName = name := by
  rw [mapper?] at found
  split at found
  · cases found
  · next i place =>
    obtain ⟨e, here, rfl⟩ := Option.map_eq_some_iff.mp found
    obtain ⟨bound, named, _⟩ := List.findIdx?_eq_some_iff_getElem.mp place
    rw [List.getElem?_eq_getElem bound, Option.some.injEq] at here
    rw [← here]
    exact of_decide_eq_true named

/-- The stores of relations, with so many levels to go below them. -/
def storeOf? (r : Registry) (depth : Nat) (target : String) : Option (RelatedStore Session) :=
  (r.mapper? target).map fun t => t.store (r.stores depth)

theorem stores_succ (depth : Nat) : r.stores (depth + 1) = some (r.storeOf? depth) := rfl

theorem outcome_storeIn {rel : Relation} (found : r.mapper? rel.plan.target = some t) (depth : Nat)
    (w : World) :
    (rel.storeIn (r.storeOf? depth)).outcome w = (.ok (t.store (r.stores depth)), w) := by
  rw [Relation.storeIn, storeOf?, found]
  rfl

/-- Whatever a relation asks of a mapper, the registry stays in use. -/
theorem keeps_storeOf {depth : Nat} {target : String} {store : RelatedStore Session}
    (found : r.storeOf? depth target = some store) : store.Keeps r.Alive := by
  obtain ⟨t, looked, rfl⟩ := Option.map_eq_some_iff.mp found
  have closed : Mapper.Closed fun _ => True := fun _ _ _ _ _ _ => trivial
  have bears (m : Mapper) (_ : True) : m.Bears r.Alive := r.endures_alive.bears m
  have registry := Mapper.registry_of_mapper? looked
  refine Mapper.keeps_store (bears t trivial) fun known below rel listed store there => ?_
  rw [← registry] at below
  exact Mapper.keeps_stores closed bears depth trivial known below rel listed store there

/-! ## Attaching -/

/-- A mapper that is asked for records by a relation always answers. -/
theorem succeeds_resolved (m : Mapper) (depth : Nat) (rows : List Record) :
    Succeeds r.Alive (m.resolved (r.stores depth) rows) r.Alive := by
  have kept : Keeps r.Alive (m.attachRelated (r.stores depth) rows) := by
    refine Mapper.keeps_attachRelated (fun known some_known rel listed store found => ?_) rows
    cases depth with
    | zero => cases some_known
    | succ depth =>
      cases some_known
      exact keeps_storeOf found
  refine .bind kept.succeeds_attempt fun result => ?_
  cases result with
  | ok rows => exact (Yields.pure rows).succeeds
  | error failure =>
    exact .bind ((r.endures_alive.bears m).reporting _).succeeds fun _ => (Yields.pure rows).succeeds

/-- A relation of a mapper is resolved, whatever goes wrong in its target. -/
theorem succeeds_resolve {rel : Relation} (found : r.mapper? rel.plan.target = some t) (depth : Nat)
    (rows : List Record) : Succeeds r.Alive (rel.resolve (r.storeOf? depth) rows) r.Alive := by
  have reads := (r.endures_alive.bears t).toReads
  have store : Yields r.Alive (rel.storeIn (r.storeOf? depth)) (t.store (r.stores depth)) r.Alive :=
    fun w alive => ⟨w, outcome_storeIn found depth w, alive⟩
  rw [Relation.resolve]
  split
  · exact (Yields.pure rows).succeeds
  · refine store.bind_succeeds ?_
    split
    · refine .mapM (fun row => ?_) rows
      rw [Relation.resolveText]
      split
      · exact (Yields.pure _).succeeds
      · exact .bind (.bind (reads.getsListed _) fun _ => succeeds_resolved t depth _) fun _ =>
          (Yields.pure _).succeeds
    · rw [Relation.resolveBatched]
      split
      · exact (Yields.pure rows).succeeds
      · exact .bind (.bind (reads.gets _) fun _ => succeeds_resolved t depth _) fun _ =>
          (Yields.pure _).succeeds

section
variable (regular : r.catalog.Regular) (member : m ∈ r.mappers)
include regular member

/-- Attaching what rows refer to succeeds, however many levels there are to go. -/
theorem succeeds_attachRelated (depth : Nat) (rows : List Record) :
    Succeeds r.Alive (m.attachRelated (r.stores depth) rows) r.Alive := by
  cases depth with
  | zero => exact (Yields.pure rows).succeeds
  | succ depth =>
    rw [stores_succ]
    simp only [Mapper.attachRelated]
    split
    · exact (Yields.pure rows).succeeds
    · refine .bind (fun w alive => ⟨(), w, outcome_requireRegistry member alive, alive⟩) fun _ =>
        .foldlM (fun rows rel listed => ?_) rows
      obtain ⟨t, found⟩ := mapper?_target regular member listed
      exact succeeds_resolve found depth rows

/-- Attaching what rows refer to by one relation succeeds if there is such a relation, and is refused
    if there is none. -/
theorem wrapRelation_cases (rows : List Record) (name : String) (alive : r.Alive w) :
    (m.entity.relation? name = none ∧ (m.wrapRelation rows name).outcome w = (.error (m.noRelation name), w))
      ∨ (m.entity.relation? name).isSome = true
        ∧ ∃ wrapped v, (m.wrapRelation rows name).outcome w = (.ok wrapped, v) := by
  rw [Mapper.wrapRelation, stores_eq member]
  cases named : m.entity.relation? name with
  | none => exact .inl ⟨rfl, rfl⟩
  | some rel =>
    refine .inr ⟨rfl, ?_⟩
    cases r.maxRefDepth with
    | zero => exact ⟨rows, w, rfl⟩
    | succ depth =>
      rw [stores_succ]
      dsimp only
      split
      · exact ⟨rows, w, rfl⟩
      · obtain ⟨t, found⟩ := mapper?_target regular member (List.mem_of_find?_eq_some named)
        obtain ⟨wrapped, v, done, _⟩ := succeeds_resolve found depth rows w alive
        exact ⟨wrapped, v, by rw [Session.outcome_bind_ok (outcome_requireRegistry member alive), done]⟩

end

/-! ## Saving -/

def SavesBatch (r : Registry) (depth : Nat) (m : Mapper) (rows : List Record) (w : World) (t : Mapper)
    (related : List Record) (u : World) : Prop :=
  ∃ before rel after, m.entity.relations = before ++ rel :: after
    ∧ (before.forM fun rel => rel.save (r.storeOf? depth) rows).outcome w = (.ok (), u)
    ∧ r.mapper? rel.plan.target = some t ∧ related = rows.flatMap rel.getter.targets

/-- Saving what rows of a mapper hold, with so many levels to go, comes to saving rows of another
    mapper in some world: a batch of its own relations, or one below a batch that has been saved. -/
inductive SavesBelow (r : Registry) :
    Nat → Mapper → List Record → World → Mapper → List Record → World → Prop
  | batch {depth : Nat} {m t : Mapper} {rows related : List Record} {w u : World}
      (step : r.SavesBatch depth m rows w t related u) : SavesBelow r (depth + 1) m rows w t related u
  | deeper {depth : Nat} {m t other : Mapper} {rows related found : List Record} {w u x v : World}
      (step : r.SavesBatch depth m rows w t related u)
      (saved : (t.saveAll related).outcome u = (.ok true, x))
      (further : SavesBelow r depth t related x other found v) :
      SavesBelow r (depth + 1) m rows w other found v

def SavingFails (r : Registry) (depth : Nat) (m : Mapper) (rows : List Record) (w : World)
    (failure : Failure) (v : World) : Prop :=
  ∃ t related u, r.SavesBelow depth m rows w t related u
    ∧ (t.saveAll related).outcome u = (.error failure, v)

/-- A relation that is not saved has a target that does not save the records, or what they hold. -/
theorem save_failed {rel : Relation} (found : r.mapper? rel.plan.target = some t) {depth : Nat}
    {rows : List Record}
    (failed : (rel.save (r.storeOf? depth) rows).outcome w = (.error failure, v)) :
    (t.saveAll (rows.flatMap rel.getter.targets)).outcome w = (.error failure, v)
      ∨ ∃ u, (t.saveAll (rows.flatMap rel.getter.targets)).outcome w = (.ok true, u)
        ∧ (t.saveRelated (r.stores depth) (rows.flatMap rel.getter.targets)).outcome u =
          (.error failure, v) := by
  simp only [Relation.save] at failed
  split at failed
  · cases failed
  · rw [Session.outcome_bind_ok (outcome_storeIn found depth w)] at failed
    rcases Session.outcome_bind_failed failed with failed | ⟨_, _, _, failed⟩
    · rcases Session.outcome_bind_failed failed with failed | ⟨saved, u, done, failed⟩
      · exact .inl failed
      · cases saved with
        | false => cases failed
        | true =>
          rcases Session.outcome_bind_failed failed with failed | ⟨_, _, _, failed⟩
          · exact .inr ⟨u, done, failed⟩
          · cases failed
    · cases failed

/-- Saving what rows hold fails only where saving the rows of a batch does. -/
theorem saveRelated_error (regular : r.catalog.Regular) (member : m ∈ r.mappers) {depth : Nat}
    {rows : List Record} (alive : r.Alive w)
    (failed : (m.saveRelated (r.stores depth) rows).outcome w = (.error failure, v)) :
    r.SavingFails depth m rows w failure v := by
  -- The induction is on the depth: a batch fails by itself, or the level below it does.
  induction depth generalizing m rows w with
  | zero => cases failed
  | succ depth ih =>
    rw [stores_succ] at failed
    simp only [Mapper.saveRelated] at failed
    split at failed
    · cases failed
    · rw [Session.outcome_bind_ok (outcome_requireRegistry member alive)] at failed
      obtain ⟨before, rel, after, u, split, earlier, failed⟩ := Session.outcome_forM_failed failed
      have listed : rel ∈ m.entity.relations := by
        rw [split]
        exact List.mem_append_right _ (List.mem_cons_self ..)
      obtain ⟨t, found⟩ := mapper?_target regular member listed
      have step : r.SavesBatch depth m rows w t (rows.flatMap rel.getter.targets) u :=
        ⟨before, rel, after, split, earlier, found, rfl⟩
      rcases save_failed found failed with failed | ⟨x, saved, failed⟩
      · exact ⟨t, _, u, .batch step, failed⟩
      · -- The registry is still in use when the level below is saved.
        have between : r.Alive u := by
          have kept : Keeps r.Alive (before.forM fun rel => rel.save (r.storeOf? depth) rows) :=
            .forM fun rel _ => Relation.keeps_save (fun _ there => keeps_storeOf there) rows
          have alive := kept w alive
          rw [earlier] at alive
          exact alive
        have later : r.Alive x := by
          have alive := (r.endures_alive.bears t).saveAll (rows.flatMap rel.getter.targets) u between
          rw [saved] at alive
          exact alive
        obtain ⟨other, related, y, below, failed⟩ := ih (mapper?_mem found) later failed
        exact ⟨other, related, y, .deeper step saved below, failed⟩

/-- Rows are saved with what they hold, unless they themselves are not saved or what they hold is
    not. -/
theorem saveWith_failed (regular : r.catalog.Regular) (member : m ∈ r.mappers) {depth : Nat}
    {rows : List Record} {save : Session Bool} (kept : Keeps r.Alive save) (alive : r.Alive w)
    (failed : Session.outcome (do
      if ← save then
        m.saveRelated (r.stores depth) rows
        return true
      else return false) w = (.error failure, v)) :
    save.outcome w = (.error failure, v)
      ∨ ∃ u, save.outcome w = (.ok true, u) ∧ r.SavingFails depth m rows u failure v := by
  rcases Session.outcome_bind_failed failed with failed | ⟨saved, u, done, failed⟩
  · exact .inl failed
  · cases saved with
    | false => cases failed
    | true =>
      have between := kept w alive
      rw [done] at between
      rcases Session.outcome_bind_failed failed with failed | ⟨_, _, _, failed⟩
      · exact .inr ⟨u, done, saveRelated_error regular member between failed⟩
      · cases failed

/-! ## The whole -/

/-- What a mapper does about relations, in a world where its registry is in use, never fails for want
    of a mapper: attaching succeeds, by one relation exactly if the declaration has it, and saving
    fails only where saving rows does; each relation finds the mapper of its target. -/
structure Relates (r : Registry) (m : Mapper) (model : Model) (w : World) : Prop where
  wrap : ∀ rows, ∃ wrapped v, (m.wrap rows).outcome w = (.ok wrapped, v)
  wrapRelation : ∀ rows name, (∃ wrapped v, (m.wrapRelation rows name).outcome w = (.ok wrapped, v)) ↔
    ∃ d ∈ model.relations, d.name = name
  save : ∀ row failure v, (m.saveWithRelated row).outcome w = (.error failure, v) →
    (m.save row).outcome w = (.error failure, v) ∨ ∃ u, (m.save row).outcome w = (.ok true, u)
      ∧ r.SavingFails r.maxRefDepth m [row] u failure v
  saveAll : ∀ rows failure v, (m.saveAllWithRelated rows).outcome w = (.error failure, v) →
    (m.saveAll rows).outcome w = (.error failure, v) ∨ ∃ u, (m.saveAll rows).outcome w = (.ok true, u)
      ∧ r.SavingFails r.maxRefDepth m rows u failure v
  attach : ∀ depth rows, ∃ attached v,
    (m.attachRelated (r.stores depth) rows).outcome w = (.ok attached, v)
  saveRelated : ∀ depth rows failure v,
    (m.saveRelated (r.stores depth) rows).outcome w = (.error failure, v) →
      r.SavingFails depth m rows w failure v
  target : ∀ depth, ∀ rel ∈ m.entity.relations, ∃ t ∈ r.mappers,
    t.entity.schema.qualifiedName = rel.plan.target
      ∧ (rel.storeIn (r.storeOf? depth)).outcome w = (.ok (t.store (r.stores depth)), w)

theorem coherent_relations {e : CompiledEntity} {compiled : CompiledCatalog} {model : Model}
    (coherent : e.Coherent compiled model) :
    e.relations.map (fun rel => (rel.plan.name, rel.plan.target)) =
      model.relations.map fun d => (d.name, d.target) := by
  have plans := forall₂_comp coherent.made.relations coherent.made.links
  refine (map_eq_of_forall₂ (plans.imp ?_)).symm
  rintro d rel ⟨spec, ⟨name, _, target, _⟩, binds⟩
  rw [binds.plan, ← name, ← target]
  rfl

/-- A relation is found under the name that it is declared with, and under no other. -/
theorem relation?_isSome {e : CompiledEntity} {model : Model}
    (relations : e.relations.map (fun rel => (rel.plan.name, rel.plan.target)) =
      model.relations.map fun d => (d.name, d.target)) (name : String) :
    (e.relation? name).isSome = true ↔ ∃ d ∈ model.relations, d.name = name := by
  have called : e.relations.map (·.plan.name) = model.relations.map (·.name) := by
    have firsts := congrArg (List.map Prod.fst) relations
    rw [List.map_map, List.map_map] at firsts
    exact firsts
  have listed : (∃ d ∈ model.relations, d.name = name) ↔ ∃ rel ∈ e.relations, rel.plan.name = name := by
    rw [← List.mem_map, ← called, List.mem_map]
  rw [listed, CompiledEntity.relation?, List.find?_isSome]
  simp only [decide_eq_true_eq]

/-- A registry that has been built knows, as long as it is in use, a mapper for every target: no
    operation of any of its mappers on relations, over any rows and to any depth, fails for want of
    one. -/
theorem relations_find_mappers {config : StoreConfig} {shared : Option Nat} {models : List Model}
    {before after : World} (built : (Session.build config shared models).outcome before = (.ok r, after)) :
    ∀ m ∈ r.mappers, ∃ model ∈ models, model.qualifiedName = m.entity.schema.qualifiedName
      ∧ m.entity.relations.map (fun rel => (rel.plan.name, rel.plan.target)) =
        model.relations.map (fun d => (d.name, d.target))
      ∧ ∀ w, r.Alive w → r.Relates m model w := by
  intro m member
  have regular := (Session.build_ok built).1
  have compiled := (Session.build_parts built).1
  obtain ⟨names, _, each⟩ := Catalog.compile_coherent compiled
  obtain ⟨_, here⟩ := mem_mappers.mp member
  -- The entity of the mapper is what the declaration in its place is compiled to.
  have named : (models.map (·.qualifiedName))[m.index]? = some m.entity.schema.qualifiedName := by
    rw [← names, CompiledCatalog.schemas, List.map_map, List.getElem?_map, here]
    rfl
  rw [List.getElem?_map, Option.map_eq_some_iff] at named
  obtain ⟨model, there, name⟩ := named
  obtain ⟨e, found, _, _, coherent⟩ := each m.index model there
  have first := find?_of_nodup regular.names (entity_mem member)
  rw [name, CompiledCatalog.find?, first, Option.some.injEq] at found
  subst found
  have relations := coherent_relations coherent
  refine ⟨model, List.mem_of_getElem? there, name, relations, fun w alive => ?_⟩
  have bears := r.endures_alive.bears m
  refine ⟨fun rows => ?_, fun rows name => ?_, fun row failure v failed => ?_,
    fun rows failure v failed => ?_, fun depth rows => ?_,
    fun depth rows failure v failed => saveRelated_error regular member alive failed,
    fun depth rel listed => ?_⟩
  · rw [Mapper.wrap, stores_eq member]
    obtain ⟨wrapped, v, done, _⟩ := succeeds_attachRelated regular member r.maxRefDepth rows w alive
    exact ⟨wrapped, v, done⟩
  · rw [← relation?_isSome relations]
    rcases wrapRelation_cases regular member rows name alive with ⟨absent, refused⟩ | ⟨present, done⟩
    · rw [absent, refused]
      simp
    · exact ⟨fun _ => present, fun _ => done⟩
  · rw [Mapper.saveWithRelated, stores_eq member] at failed
    exact saveWith_failed regular member (bears.save row) alive failed
  · rw [Mapper.saveAllWithRelated, stores_eq member] at failed
    exact saveWith_failed regular member (bears.saveAll rows) alive failed
  · obtain ⟨attached, v, done, _⟩ := succeeds_attachRelated regular member depth rows w alive
    exact ⟨attached, v, done⟩
  · obtain ⟨t, looked⟩ := mapper?_target regular member listed
    exact ⟨t, mapper?_mem looked, mapper?_name looked, outcome_storeIn looked depth w⟩

/-- Steps lead to steps, and find them. -/
theorem steps_find_steps : (Session.build (.inMemory "default") none
      [.step "id" (.property .int64 "id") .empty]).outcome {} = (.ok steps, stepsWorld)
    ∧ stepMapper ∈ steps.mappers ∧ steps.Alive stepsWorld
    ∧ steps.Relates stepMapper (.step "id" (.property .int64 "id") .empty) stepsWorld := by
  obtain ⟨model, listed, _, _, relates⟩ := relations_find_mappers build_steps stepMapper stepMapper_mem
  rw [List.mem_singleton.mp listed] at relates
  exact ⟨build_steps, stepMapper_mem, rfl, relates stepsWorld rfl⟩

end Registry

end EntityStore
