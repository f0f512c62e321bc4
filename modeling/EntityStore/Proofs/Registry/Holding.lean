import EntityStore.Proofs.Catalog.Row
import EntityStore.Store.Registry

/-! # Registries in scenes

The mappers of a registry side by side, each with the rows that it reads:

* `Session.build_ok` — what a registry is that has been built.
* `Registry.Sound` — a registry whose names the engine accepts, and keeps apart within a context.
* `Registry.Stands`, `Registry.Holds` — a scene, and a world, where each mapper reads its rows.
* `Registry.yields_holds` — what one mapper does to its rows, and to no others.
-/

namespace EntityStore

open EntityStore.Engine (Database Handle Row)
open Session (Yields Keeps)

/-! ## Building -/

namespace Session

theorem keeps_openGroup (registries : List RegistryState) (config : StoreConfig) :
    Keeps (fun w => w.registries = registries) (openGroup config) := by
  have opened (config : ContextConfig) : Keeps (fun w => w.registries = registries)
      (do return (config.tag, ← addContext config)) :=
    .bind (.bind .get fun _ => .bind (.change fun _ same => same) fun _ => .pure _) fun _ => .pure _
  refine .bind (keeps_ofExcept _) fun _ => .bind (.mapM fun config _ => opened config) fun _ => ?_
  exact .bind .get fun _ => .bind (.change fun _ same => same) fun _ => .pure _

theorem buildRegistry_ok {config : StoreConfig} {shared : Option Nat} {catalog : Catalog}
    {w v : World} {r : Registry} (done : (buildRegistry config shared catalog).outcome w = (.ok r, v)) :
    catalog.compile.1 = .ok r.catalog ∧ r.id = w.registries.length
      ∧ v.registries = w.registries ++ [{ mappers := r.catalog.entities.map fun _ => {} }] := by
  -- What follows is the same for contexts of its own and for those of another.
  have rest (group : Nat) {u : World} (same : u.registries = w.registries)
      (done : Session.outcome (do
        reportAll catalog.compile.2
        let compiled ← ofExcept catalog.compile.1
        let id := (← get).registries.length
        let mappers := compiled.entities.map fun _ => ({} : MapperState)
        modify fun w => { w with registries := w.registries ++ [{ mappers := mappers }] }
        return ({ id := id, group := group, catalog := compiled, maxRefDepth := config.maxRefDepth } :
          Registry)) u = (.ok r, v)) :
      catalog.compile.1 = .ok r.catalog ∧ r.id = w.registries.length
        ∧ v.registries = w.registries ++ [{ mappers := r.catalog.entities.map fun _ => {} }] := by
    obtain ⟨_, x, reported, done⟩ := outcome_bind_inv done
    cases reported
    obtain ⟨compiled, y, checked, done⟩ := outcome_bind_inv done
    cases result : catalog.compile.1 with
    | error failure => rw [result] at checked; cases checked
    | ok known =>
      rw [result] at checked
      cases checked
      cases done
      exact ⟨rfl, congrArg List.length same, by rw [← same]⟩
  cases shared with
  | some group =>
    obtain ⟨_, u, opened, done⟩ := outcome_bind_inv done
    cases opened
    exact rest group rfl done
  | none =>
    obtain ⟨group, u, opened, done⟩ := outcome_bind_inv done
    have kept := keeps_openGroup w.registries config w rfl
    rw [opened] at kept
    exact rest group kept done

theorem build_parts {config : StoreConfig} {shared : Option Nat} {models : List Model} {w v : World}
    {r : Registry} (done : (build config shared models).outcome w = (.ok r, v)) :
    ((({} : Catalog).registerAll models).1.compile).1 = .ok r.catalog ∧ r.id = w.registries.length
      ∧ v.registries = w.registries ++ [{ mappers := r.catalog.entities.map fun _ => {} }] := by
  rw [build] at done
  dsimp only at done
  obtain ⟨_, x, reported, done⟩ := outcome_bind_inv done
  cases reported
  obtain ⟨_, y, reported, done⟩ := outcome_bind_inv done
  cases reported
  rw [outcome_bind, outcome_attempt] at done
  rcases ran : (buildRegistry config shared (({} : Catalog).registerAll models).1).outcome _ with
    ⟨result, z⟩
  rw [ran] at done
  cases result with
  | error failure => cases done
  | ok registry =>
    cases done
    obtain ⟨compiled, id, remembered⟩ := buildRegistry_ok ran
    exact ⟨compiled, id, remembered⟩

/-- A registry that has been built is a new one, whose mappers do not remember anything yet. -/
theorem build_ok {config : StoreConfig} {shared : Option Nat} {models : List Model} {w v : World}
    {r : Registry} (done : (build config shared models).outcome w = (.ok r, v)) :
    r.catalog.Regular ∧ r.id = w.registries.length
      ∧ v.registries = w.registries ++ [{ mappers := r.catalog.entities.map fun _ => {} }] := by
  obtain ⟨compiled, built⟩ := build_parts done
  exact ⟨Catalog.regular_of_compile compiled, built⟩

end Session

/-! ## Mappers -/

namespace Registry

variable {r : Registry} {m : Mapper}

theorem mem_mappers : m ∈ r.mappers ↔ m.registry = r ∧ r.catalog.entities[m.index]? = some m.entity := by
  simp only [mappers, List.mem_map, Prod.exists, List.mem_zipIdx_iff_getElem?]
  constructor
  · rintro ⟨e, i, here, rfl⟩
    exact ⟨rfl, here⟩
  · rintro ⟨rfl, here⟩
    exact ⟨m.entity, m.index, here, rfl⟩

theorem mapper?_mem {name : String} (found : r.mapper? name = some m) : m ∈ r.mappers := by
  rw [mapper?] at found
  split at found
  · cases found
  · obtain ⟨e, here, rfl⟩ := Option.map_eq_some_iff.mp found
    exact mem_mappers.mpr ⟨rfl, here⟩

theorem entity_mem (member : m ∈ r.mappers) : m.entity ∈ r.catalog.entities :=
  List.mem_of_getElem? (mem_mappers.mp member).2

/-- A mapper follows relations as deep as its registry allows. -/
theorem stores_eq (member : m ∈ r.mappers) : m.stores = r.stores r.maxRefDepth := by
  rw [Mapper.stores, Mapper.maxRefDepth, (mem_mappers.mp member).1]

theorem mapper_unique {other : Mapper} (member : m ∈ r.mappers) (listed : other ∈ r.mappers)
    (same : other.index = m.index) : other = m := by
  obtain ⟨registry, here⟩ := mem_mappers.mp member
  obtain ⟨registry', there⟩ := mem_mappers.mp listed
  rw [same, here, Option.some.injEq] at there
  cases m
  cases other
  simp_all

/-- Other mappers of a registry remember other things. -/
theorem mapper_other {other : Mapper} (member : m ∈ r.mappers) (listed : other ∈ r.mappers)
    (apart : other ≠ m) : m.Other other := by
  intro same
  exact apart (mapper_unique member listed (congrArg Prod.snd same))

/-! ## Registries -/

/-- What the mappers of a registry are on: the context of each tag, whether a context is outside of
    transactions, and the file that its database is kept in. -/
structure Setting where
  home : String → Nat
  alone : Nat → Bool
  places : Nat → Option (List String)

/-- A registry whose names the engine accepts.  Mappers whose contexts are the same have tables and
    indexes that the engine keeps apart. -/
structure Sound (r : Registry) (home : String → Nat) : Prop where
  regular : r.catalog.Regular
  spelled : ∀ e ∈ r.catalog.entities, e.plan.Spelled
  apart : ∀ m ∈ r.mappers, ∀ other ∈ r.mappers, other ≠ m →
    home other.plan.tag = home m.plan.tag → m.plan.Apart other.plan

theorem Sound.entity {home : String → Nat} (sound : r.Sound home) (member : m ∈ r.mappers) :
    m.entity.Regular := sound.regular.entities _ (entity_mem member)

theorem Sound.accepted {home : String → Nat} (sound : r.Sound home) (member : m ∈ r.mappers) :
    m.plan.Accepted := (sound.entity member).accepted (sound.spelled _ (entity_mem member))

/-- A scene where each mapper of a registry reads its rows. -/
structure Stands (r : Registry) (site : Setting) (rows : Nat → List Row) (s : Scene) : Prop where
  alive : (s.registries.getD r.id default).alive = true
  places : s.places = site.places
  found : ∀ m ∈ r.mappers, (s.groups.getD r.group []).lookup m.plan.tag = some (site.home m.plan.tag)
  mappers : ∀ m ∈ r.mappers, ∃ db,
    m.Stands s (site.home m.plan.tag) (site.alone (site.home m.plan.tag)) db (rows m.index)

/-- A world where each mapper of a registry reads its rows. -/
def Holds (r : Registry) (site : Setting) (rows : Nat → List Row) (w : World) : Prop :=
  ∃ s, w.Shows s ∧ r.Stands site rows s

abbrev Busy (site : Setting) (m : Mapper) (s : Scene) (db : Database) (rows : List Row) : World → Prop :=
  m.Works s (site.home m.plan.tag) (site.alone (site.home m.plan.tag)) db rows

variable {site : Setting} {rows : Nat → List Row} {w : World} {α : Type}

/-- When one mapper has been at work, the others read what they have read before. -/
theorem Stands.after {s : Scene} {db : Database} {after : List Row} (sound : r.Sound site.home)
    (member : m ∈ r.mappers) (stands : r.Stands site rows s)
    (mine : m.Stands s (site.home m.plan.tag) (site.alone (site.home m.plan.tag)) db (rows m.index))
    (works : Busy site m s db after w) :
    r.Holds site (Function.update rows m.index after) w := by
  obtain ⟨t, next, follows, changes, now, shows⟩ := works
  refine ⟨t, shows, by rw [follows.alive]; exact stands.alive, follows.places.trans stands.places,
    fun other listed => ?_, fun other listed => ?_⟩
  · rw [follows.groups]
    exact stands.found other listed
  · -- The other mappers of the same database see its changes, and none of them concerns their tables.
    by_cases same : other = m
    · subst same
      rw [Function.update_self]
      exact ⟨next, now⟩
    · rw [Function.update_of_ne fun index => same (mapper_unique member listed index)]
      obtain ⟨db', theirs⟩ := stands.mappers other listed
      by_cases here : site.home other.plan.tag = site.home m.plan.tag
      · refine ⟨next, theirs.beside (mapper_other member listed same) follows
          (fun elsewhere => absurd here elsewhere) fun _ =>
            ⟨sound.apart m member other listed same here, ?_, ?_⟩⟩
        · obtain ⟨h, handle, sees⟩ := mine.sees
          obtain ⟨k, handle', sees'⟩ := theirs.sees
          rw [here, handle, Option.some.injEq] at handle'
          subst handle'
          rw [← sees'.current, sees.current]
          exact changes
        · rw [here]
          exact now.sees
      · exact ⟨db', theirs.beside (mapper_other member listed same) follows (fun _ => rfl)
          fun same => absurd same here⟩

/-- What one mapper does to its rows it does to no others. -/
theorem yields_holds {op : Session α} {a : α} {after : List Row} (sound : r.Sound site.home)
    (member : m ∈ r.mappers)
    (yields : ∀ s db,
      (s.groups.getD m.registry.group []).lookup m.plan.tag = some (site.home m.plan.tag) →
        Yields (Busy site m s db (rows m.index)) op a (Busy site m s db after)) :
    Yields (r.Holds site rows) op a
      (r.Holds site (Function.update rows m.index after)) := by
  rintro w ⟨s, shows, stands⟩
  obtain ⟨db, mine⟩ := stands.mappers m member
  have found := stands.found m member
  rw [← (mem_mappers.mp member).1] at found
  obtain ⟨v, done, works⟩ := yields s db found w ⟨s, db, .refl m _ s, .refl, mine, shows⟩
  exact ⟨v, done, stands.after sound member mine works⟩

theorem keeps_holds {op : Session α} (sound : r.Sound site.home) (member : m ∈ r.mappers)
    (kept : ∀ s db, Keeps (Busy site m s db (rows m.index)) op) :
    Keeps (r.Holds site rows) op := by
  rintro w ⟨s, shows, stands⟩
  obtain ⟨db, mine⟩ := stands.mappers m member
  have works := kept s db w ⟨s, db, .refl m _ s, .refl, mine, shows⟩
  have holds := stands.after sound member mine works
  rwa [Function.update_eq_self] at holds

/-- What one mapper does without a change of its rows changes no rows. -/
theorem yields_kept {op : Session α} {a : α} (sound : r.Sound site.home) (member : m ∈ r.mappers)
    (yields : ∀ s db,
      (s.groups.getD m.registry.group []).lookup m.plan.tag = some (site.home m.plan.tag) →
        Yields (Busy site m s db (rows m.index)) op a (Busy site m s db (rows m.index))) :
    Yields (r.Holds site rows) op a (r.Holds site rows) := by
  have held := yields_holds sound member yields
  rwa [Function.update_eq_self] at held

theorem yields_report_holds (e : Event) : Yields (r.Holds site rows) (Session.report e) ()
    (r.Holds site rows) := by
  rintro w ⟨s, shows, stands⟩
  obtain ⟨v, done, shown⟩ := Session.yields_report e w shows
  exact ⟨v, done, s, shown, stands⟩

/-- Queries of the mappers of a registry leave all rows as they are. -/
theorem reads_holds (sound : r.Sound site.home) (member : m ∈ r.mappers) :
    m.Reads (r.Holds site rows) where
  reports e := (yields_report_holds e).keeps
  context := keeps_holds sound member fun _ _ => Mapper.yields_contextId.keeps
  queries query := keeps_holds sound member fun _ _ =>
    Mapper.keeps_query_works (sound.accepted member) query

/-! ## The start -/

/-- A registry that has just been built holds no rows where its databases are empty. -/
theorem Stands.fresh {s : Scene} {home : String → Nat}
    (remembered : s.registries.getD r.id default = { mappers := r.catalog.entities.map fun _ => {} })
    (empty : ∀ m ∈ r.mappers,
      (s.groups.getD r.group []).lookup m.plan.tag = some (home m.plan.tag)
        ∧ ((s.lives (home m.plan.tag)).2 = true → 0 < (s.lives (home m.plan.tag)).1)
        ∧ s.handles (home m.plan.tag) = some ⟨{}, none⟩) :
    r.Stands ⟨home, fun _ => true, s.places⟩ (fun _ => []) s where
  alive := by rw [remembered]
  places := rfl
  found m member := (empty m member).1
  mappers m member := by
    obtain ⟨found, counted, handle⟩ := empty m member
    -- A mapper that remembers nothing has not migrated on any generation.
    have state : m.stateIn s.registries = {} := by
      obtain ⟨registry, here⟩ := mem_mappers.mp member
      rw [Mapper.stateIn, registry, remembered, List.getD_eq_getElem?_getD, List.getElem?_map, here]
      rfl
    have registry := (mem_mappers.mp member).1
    refine ⟨{}, ?_, ?_, counted, ⟨_, handle, rfl, rfl⟩, m.plan.ready_empty, .absent rfl rfl,
      fun opened migrated => ?_⟩
    · refine .inr ⟨by rw [state], ?_⟩
      rw [registry]
      exact found
    · rw [state]
      exact Nat.zero_le _
    · rw [state] at migrated
      exact absurd migrated (counted opened).ne

/-! ## Closing -/

theorem yields_close (member : m ∈ r.mappers) (outside : site.alone (site.home m.plan.tag) = true)
    {path : List String} (kept : site.places (site.home m.plan.tag) = some path) :
    Yields (r.Holds site rows) (do Session.closeContext (← r.context m.plan.tag)) ()
      (r.Holds site rows) := by
  rintro w ⟨s, shows, stands⟩
  have found : (Session.contextOf r.group m.plan.tag).outcome w =
      (.ok (site.home m.plan.tag), w) := by
    rw [Session.contextOf, Session.outcome_bind_ok (Session.outcome_get w), shows.groups,
      stands.found m member]
    rfl
  obtain ⟨db, mine⟩ := stands.mappers m member
  obtain ⟨⟨image, transaction⟩, handle, sees⟩ := mine.sees
  -- Outside of transactions there is none to be undone.
  have none : transaction = none := by
    have idle := sees.isAutocommit
    rw [outside, Engine.Handle.isAutocommit] at idle
    simpa using idle
  subst none
  obtain ⟨v, done, shown⟩ := Session.yields_closeContext handle (stands.places ▸ kept) w shows
  refine ⟨v, by rw [context, Session.outcome_bind_ok found, done], _, shown, stands.alive, stands.places, stands.found, ?_⟩
  intro other listed
  obtain ⟨db, theirs⟩ := stands.mappers other listed
  exact ⟨db, theirs.closed⟩

end Registry

end EntityStore
