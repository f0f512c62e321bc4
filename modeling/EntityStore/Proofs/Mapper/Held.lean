import EntityStore.Proofs.Lifecycle.Opening
import EntityStore.Proofs.Mapper.Text
import EntityStore.Proofs.Migration.Steps
import EntityStore.Store.Related

/-! # Mappers inside a transaction

Whatever a mapper does on a context with an open write transaction, the transaction stays open and
nothing shows outside of it:

* `Mapper.On` — a mapper is on a context, or will find it.
* `World.Held` — a world with an open transaction, in which mappers are on its context.
* `Mapper.Reaches` — a property that is kept on the way of a mapper to its table.
* `Mapper.reaches_held` — one such property: a transaction is open.
-/

namespace EntityStore

open EntityStore.Engine (Database Program)
open EntityStore.Sql (Datum)
open World (Inside)

/-! ## Bindings -/

def Mapper.stateIn (m : Mapper) (registries : List RegistryState) : MapperState :=
  (registries.getD m.registry.id default).mappers.getD m.index default

/-- A mapper is bound to a context, or it is not bound yet and will find the context. -/
def Mapper.On (m : Mapper) (id : Nat)
    (bindings : List RegistryState × List (List (String × Nat))) : Prop :=
  (m.stateIn bindings.1).bound = some id ∨ (m.stateIn bindings.1).bound = none
    ∧ (bindings.2.getD m.registry.group []).lookup m.plan.tag = some id

/-- Mappers are on a context. -/
def AllOn (among : Mapper → Prop) (id : Nat) : Bindings :=
  fun bindings => ∀ m, among m → m.On id bindings

/-- A write transaction is open on a context that mappers are on. -/
abbrev World.Held (among : Mapper → Prop) (base : World) (id : Nat) (image : Database)
    (w : World) : Prop :=
  Inside Database.Steady (AllOn among id) base id image true [] w

theorem getD_modify {α : Type} (items : List α) (i j : Nat) (f : α → α) (standard : α) :
    (items.modify i f).getD j standard = items.getD j standard
      ∨ (items.modify i f).getD j standard = f (items.getD j standard) := by
  simp only [List.getD_eq_getElem?_getD, List.getElem?_modify]
  cases items[j]? with
  | none => exact .inl (by simp)
  | some a =>
    by_cases same : i = j
    · exact .inr (by simp [same])
    · exact .inl (by simp [same])

/-- What a mapper remembers after another has changed what it remembers. -/
theorem Mapper.stateIn_modify (m other : Mapper) (f : MapperState → MapperState)
    (registries : List RegistryState) :
    other.stateIn (registries.modify m.registry.id fun r =>
        { r with mappers := r.mappers.modify m.index f }) = other.stateIn registries
      ∨ other.stateIn (registries.modify m.registry.id fun r =>
        { r with mappers := r.mappers.modify m.index f }) = f (other.stateIn registries) := by
  simp only [Mapper.stateIn]
  rcases getD_modify registries m.registry.id other.registry.id
    (fun r => { r with mappers := r.mappers.modify m.index f }) default with same | changed
  · rw [same]
    exact .inl rfl
  · rw [changed]
    exact getD_modify _ _ _ _ _

namespace Mapper

open Session (Keeps Gives)

variable {among : Mapper → Prop} {base : World} {id : Nat} {image : Database} {m : Mapper}

/-- A change of what a mapper remembers, by which it does not leave the context. -/
theorem allOn_modifyState {f : MapperState → MapperState}
    (stays : ∀ s, (f s).bound = s.bound ∨ (f s).bound = some id) {w : World}
    (bound : AllOn among id w.bindings) :
    AllOn among id ((m.modifyState f).outcome w).2.bindings := by
  intro other member
  have on := bound other member
  change other.On id (w.registries.modify m.registry.id fun r =>
    { r with mappers := r.mappers.modify m.index f }, w.groups)
  simp only [World.bindings, Mapper.On] at on ⊢
  rcases stateIn_modify m other f w.registries with same | changed
  · rw [same]; exact on
  · rw [changed]
    rcases stays (other.stateIn w.registries) with same | bound
    · rw [same]; exact on
    · exact .inl bound

theorem outcome_contextId {w : World} (on : m.On id w.bindings) :
    m.contextId.outcome w = (.ok id, w) ∨ m.contextId.outcome w =
      (.ok id, ((m.modifyState fun s => { s with bound := some id }).outcome w).2) := by
  have looked : m.state.outcome w = (.ok (m.stateIn w.registries), w) := rfl
  rw [contextId, Session.outcome_bind_ok looked]
  rcases on with bound | ⟨unbound, found⟩
  · rw [World.bindings] at bound
    dsimp only at bound
    rw [bound]
    exact .inl rfl
  · rw [World.bindings] at unbound found
    dsimp only at unbound found
    have context : (Session.contextOf m.registry.group m.plan.tag).outcome w = (.ok id, w) := by
      rw [Session.contextOf, Session.outcome_bind_ok (Session.outcome_get w), found]
      rfl
    rw [unbound]
    refine .inr ?_
    dsimp only
    rw [Session.outcome_bind, Session.outcome_annotate, context]
    rfl

/-! ## The way to a table -/

/-- A property that is kept on the way of a mapper to its table, on the context that it is on. -/
structure Reaches (P : World → Prop) (m : Mapper) (id : Nat) : Prop where
  on : ∀ w, P w → m.On id w.bindings
  remembers : ∀ f : MapperState → MapperState,
    (∀ s, (f s).bound = s.bound ∨ (f s).bound = some id) → Keeps P (m.modifyState f)
  opens : Keeps P (Session.openContext id)
  migrates : Keeps P (Session.migrate id m.plan)

namespace Reaches

variable {P : World → Prop} {α : Type} (reaches : m.Reaches P id)
include reaches

theorem contextId : Keeps P m.contextId := by
  intro w holds
  rcases outcome_contextId (reaches.on w holds) with same | bound
  · rw [same]; exact holds
  · rw [bound]
    exact reaches.remembers _ (fun _ => .inr rfl) w holds

theorem gives_contextId : Gives P (· = id) m.contextId := by
  intro w found v holds done
  rcases outcome_contextId (reaches.on w holds) with same | bound
  · rw [same] at done; cases done; rfl
  · rw [bound] at done; cases done; rfl

theorem withConnection {op : Nat → Session α} (kept : ∀ generation, Keeps P (op generation)) :
    Keeps P (Session.withConnection id op) :=
  .bind reaches.opens fun _ => .bind (fun _ holds => holds) fun _ => kept _

theorem markMigrated (generation : Nat) : Keeps P (m.markMigrated id generation) := by
  refine .bind (.bind Session.keeps_connection fun _ => .pure _) fun idle => ?_
  cases idle with
  | true => exact reaches.remembers _ fun _ => .inl rfl
  | false => exact .pure _

/-- An operation on the table, which a migration may have to bring up to date first. -/
theorem withTable {op : Nat → Session α} (kept : Keeps P (op id)) : Keeps P (m.withTable op) := by
  refine .bind_gives reaches.contextId reaches.gives_contextId ?_
  rintro _ rfl
  refine reaches.withConnection fun generation => .bind (fun _ holds => holds) fun state => ?_
  split
  · exact .bind reaches.migrates fun _ => .bind (reaches.markMigrated generation) fun _ => kept
  · exact kept

theorem prepare : Keeps P m.prepare := by
  refine .bind_gives reaches.contextId reaches.gives_contextId ?_
  rintro _ rfl
  exact .annotate _ (reaches.withConnection fun generation => .bind reaches.migrates
    fun report => .bind (reaches.markMigrated generation) fun _ => .pure report)

end Reaches

/-- An open transaction is kept open. -/
theorem reaches_held (member : among m) (definite : m.plan.Definite) :
    m.Reaches (World.Held among base id image) id where
  on _ held := held.bindings m member
  remembers _ stays := .aside (fun _ bound => allOn_modifyState stays bound) (fun _ => rfl) fun _ => rfl
  opens w held := by
    obtain ⟨c, _, opened, _⟩ := held.connection
    rw [Session.openContext_open opened]
    exact held
  migrates := Session.keeps_migrate definite Database.Steady.lasting

end Mapper

end EntityStore
