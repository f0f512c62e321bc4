import EntityStore.Proofs.Mapper.Reliance

/-! # Migrations that mappers leave out

A mapper looks at its table once for each connection.  Whatever it leaves out after that would find
nothing to do:

* `World.Safe.remembered` — a mapper remembers something that is right.
* `World.Safe.outcome_withTable` — an operation on a table runs where the table is up to date.
* `World.Safe.bears` — the operations of mappers leave what is remembered right.
-/

namespace EntityStore

open EntityStore.Engine (Database Handle Program)
open Session (Keeps Gives)
open World (Alike Step)

variable {among : Mapper → Prop} {α : Type} {d : Deployment} {w v u : World} {id : Nat} {h : Handle}
  {m : Mapper}

/-- Mappers that share what they remember share their plan. -/
def Mapper.Distinct (among : Mapper → Prop) : Prop :=
  ∀ m other, among m → among other → m.Other other ∨ other.plan = m.plan

namespace Mapper

variable {registries : List RegistryState}

theorem stateIn_rememberedBy_self (present : m.PresentIn registries) (f : MapperState → MapperState) :
    m.stateIn (m.rememberedBy f registries) = f (m.stateIn registries) := by
  obtain ⟨registry, index⟩ := present
  simp only [List.getD_eq_getElem?_getD, List.getElem?_eq_getElem registry, Option.getD_some] at index
  simp [stateIn, rememberedBy, List.getD_eq_getElem?_getD, List.getElem?_eq_getElem registry,
    List.getElem?_eq_getElem index]

theorem PresentIn.rememberedBy {other : Mapper} (present : other.PresentIn registries)
    (f : MapperState → MapperState) : other.PresentIn (m.rememberedBy f registries) where
  registry := by
    rw [Mapper.rememberedBy, List.length_modify]
    exact present.registry
  index := by
    rw [Mapper.rememberedBy]
    rcases getD_modify registries m.registry.id other.registry.id
      (fun r => { r with mappers := r.mappers.modify m.index f }) default with same | changed
    · rw [same]
      exact present.index
    · rw [changed, List.length_modify]
      exact present.index

end Mapper

/-- What the world is like when a mapper remembers something else. -/
def World.remembering (w : World) (m : Mapper) (f : MapperState → MapperState) : World :=
  { w with registries := m.rememberedBy f w.registries }

namespace World.Safe

theorem remembered (safe : w.Safe among d) (distinct : Mapper.Distinct among) (member : among m)
    {f : MapperState → MapperState} (justified : w.Justifies m.plan (f (m.stateIn w.registries))) :
    (w.remembering m f).Safe among d where
  sites j := (safe.sites j).congr rfl rfl
  stored := safe.stored
  found := safe.found
  present other among_other := (safe.present other among_other).rememberedBy f
  justified other among_other := by
    have before := safe.justified other among_other
    change (w.remembering m f).Justifies other.plan (other.stateIn (m.rememberedBy f w.registries))
    refine World.Justifies.congr (w := w) ?_ rfl fun _ _ => ⟨rfl, rfl⟩
    by_cases apart : m.Other other
    · rw [Mapper.stateIn_rememberedBy apart]
      exact before
    · -- What the other one remembers is what this one does.
      have shared : (other.registry.id, other.index) = (m.registry.id, m.index) := not_not.mp apart
      obtain ⟨registry, index⟩ := Prod.mk.inj shared
      have state (registries : List RegistryState) : other.stateIn registries = m.stateIn registries := by
        rw [Mapper.stateIn, Mapper.stateIn, registry, index]
      rw [(distinct m other member among_other).resolve_left apart, state]
      rw [Mapper.stateIn_rememberedBy_self (safe.present m member)]
      exact justified

theorem counts (distinct : Mapper.Distinct among) (member : among m) {f : MapperState → MapperState}
    (bound : ∀ s, (f s).bound = s.bound) (migrated : ∀ s, (f s).migrated = s.migrated) :
    Keeps (World.Safe among d) (m.modifyState f) := by
  intro w safe
  have before := safe.justified m member
  refine safe.remembered distinct member ⟨?_, ?_, ?_, ?_⟩
  · rw [bound, migrated]
    exact before.unbound
  · rw [bound]
    exact before.listed
  · rw [bound, migrated]
    exact before.late
  · rw [bound, migrated]
    exact before.current

/-! ## The way to the context -/

theorem outcome_contextId (distinct : Mapper.Distinct among) (member : among m) (safe : w.Safe among d) :
    (∃ failure, m.contextId.outcome w = (.error failure, w))
      ∨ ∃ id v, m.contextId.outcome w = (.ok id, v) ∧ v.Safe among d
        ∧ (m.stateIn v.registries).bound = some id := by
  have looked : m.state.outcome w = (.ok (m.stateIn w.registries), w) := rfl
  rw [Mapper.contextId, Session.outcome_bind_ok looked]
  cases bound : (m.stateIn w.registries).bound with
  | some id => exact .inr ⟨id, w, rfl, safe, bound⟩
  | none =>
    cases found : (w.groups.getD m.registry.group []).lookup m.plan.tag with
    | none =>
      have absent : (Session.contextOf m.registry.group m.plan.tag).outcome w =
          (.error (unknownContext m.plan.tag), w) := by
        rw [Session.contextOf, Session.outcome_bind_ok (Session.outcome_get w), found]
        rfl
      dsimp only
      rw [Session.outcome_bind, Session.outcome_annotate, absent]
      exact .inl ⟨_, rfl⟩
    | some id =>
      have context : (Session.contextOf m.registry.group m.plan.tag).outcome w = (.ok id, w) := by
        rw [Session.contextOf, Session.outcome_bind_ok (Session.outcome_get w), found]
        rfl
      dsimp only
      rw [Session.outcome_bind, Session.outcome_annotate, context]
      have justified := safe.justified m member
      refine .inr ⟨id, _, rfl, safe.remembered distinct member (.on rfl (safe.found m member id found)
        (Nat.le_trans (Nat.le_of_eq (justified.unbound bound)) (Nat.zero_le _)) fun opened same => ?_), ?_⟩
      · -- No connection has the generation that a mapper starts with.
        have counted := (safe.sites id).counted opened
        rw [← same, justified.unbound bound] at counted
        cases counted
      · exact congrArg MapperState.bound (Mapper.stateIn_rememberedBy_self (safe.present m member) _)

/-! ## Migrations -/

/-- The definitions of a plan take nothing from what a connection can rely on. -/
theorem defining (apart : d.Apart) {p : MappingPlan} (lower : p.Lower) :
    Session.Defining (World.Safe among d) id p :=
  (withstands apart id).defining
    (fun _ kept others h _ holds =>
      Handle.run_snapshots holds ((kept _).leaves [] (holds _ h.current_snapshots)) others)
    (fun text member => (withstands apart id).executeBatch (· = text) (by
      rintro _ h prepared rfl read
      obtain ⟨p, program, same, rest, compiled, makes⟩ := lower.effects member _ _ _ read
      cases same
      refine ⟨?_, fun more => by rw [rest] at more; cases more⟩
      rw [Prepared.AllowedAt, compiled]
      intro others plans holds
      exact Handle.run_snapshots holds
        (makes.imp fun next provides => provides plans (holds _ h.current_snapshots)).leaves others) rfl)
    fun version others h _ holds => Handle.run_snapshots holds
      ((Program.Keeps.define fun _ provides => provides.version version).leaves []
        (holds _ h.current_snapshots)) others

/-- After a migration that succeeds the table is there, and nobody but the engine has noticed. -/
theorem migrates (apart : d.Apart) {p : MappingPlan} (lower : p.Lower) (safe : w.Safe among d)
    {report : MigrationReport} (done : (Session.migrate id p).outcome w = (.ok report, v)) :
    v.Safe among d ∧ Step id w v ∧ ∃ h, v.handleOf id = some h ∧ p.StandsIn h.current := by
  have kept := (defining apart lower).migrate (governs apart id).controls w safe
  -- A migration is made of steps of the engine.
  have step : Step id w ((Session.migrate id p).outcome w).2 :=
    (Session.Withstands.of_steps fun _ _ step before => before.trans step).migrate w (.refl id w)
  rw [done] at kept step
  refine ⟨kept, step, ?_⟩
  cases found : w.handleOf id with
  | none =>
    obtain ⟨failure, failed⟩ := Session.control_none found (.savepoint Session.migrationPoint)
    rw [Session.migrate, Session.outcome_bind_error failed] at done
    cases done
  | some h =>
    have plain := (safe.sites id).plain h found _ h.current_snapshots
    obtain ⟨next, seen, migrates⟩ := Session.makes_migrate lower.toNamed w h.current report v
      (by rw [seen, found]; rfl) done
    obtain ⟨after, there, rfl⟩ := Option.map_eq_some_iff.mp seen
    exact ⟨after, there, migrates.standsIn lower plain⟩

section
variable (apart : d.Apart) (distinct : Mapper.Distinct among) (member : among m) (lower : m.plan.Lower)

include distinct member in
/-- A mapper remembers the connection that its table is up to date on, unless a transaction could
    still undo that. -/
theorem outcome_markMigrated (safe : w.Safe among d) (bound : (m.stateIn w.registries).bound = some id)
    (here : w.handleOf id = some h) (stands : m.plan.StandsIn h.current) :
    ∃ v, (m.markMigrated id (w.context id).generation).outcome w = (.ok (), v) ∧ v.Safe among d
      ∧ v.handleOf id = some h := by
  obtain ⟨c, opened, there⟩ := World.connection_of_handle here
  have idle : (Session.isAutocommit id).outcome w = (.ok h.transaction.isNone, w) := by
    rw [Session.isAutocommit, Session.outcome_bind_ok (Session.outcome_connection opened),
      World.handle?_transaction there]
    rfl
  rw [Mapper.markMigrated, Session.outcome_bind_ok idle]
  cases outside : h.transaction with
  | some t => exact ⟨w, rfl, safe, here⟩
  | none =>
    refine ⟨_, rfl, safe.remembered distinct member (.on bound ((safe.justified m member).listed id bound)
      (Nat.le_refl _) fun _ _ => ⟨h, here, fun db among_snapshots => ?_⟩), here⟩
    -- There is nothing else that the connection could come back to.
    obtain ⟨image, transaction⟩ := h
    cases outside
    rw [List.mem_singleton.mp among_snapshots]
    exact stands

include apart distinct member lower in
/-- A migration fails, or the table is up to date afterwards. -/
theorem outcome_bring (safe : w.Safe among d) (bound : (m.stateIn w.registries).bound = some id) :
    (∃ failure v, (Session.migrate id m.plan).outcome w = (.error failure, v) ∧ v.Safe among d)
      ∨ ∃ report u v h, (Session.migrate id m.plan).outcome w = (.ok report, u)
        ∧ (m.markMigrated id (w.context id).generation).outcome u = (.ok (), v) ∧ v.Safe among d
        ∧ v.handleOf id = some h ∧ m.plan.StandsIn h.current := by
  rcases done : (Session.migrate id m.plan).outcome w with ⟨result, u⟩
  cases result with
  | error failure =>
    have kept := (defining apart lower).migrate (governs apart id).controls w safe
    rw [done] at kept
    exact .inl ⟨failure, u, rfl, kept⟩
  | ok report =>
    obtain ⟨safe, step, h, here, stands⟩ := safe.migrates apart lower done
    have registries : u.registries = w.registries := congrArg Prod.fst step.bindings
    obtain ⟨v, marked, safe, there⟩ :=
      outcome_markMigrated distinct member safe (registries ▸ bound) here stands
    rw [step.generation] at marked
    exact .inr ⟨report, u, v, h, rfl, marked, safe, there, stands⟩

/-! ## The way to the table -/

include apart in
theorem outcome_openContext (safe : w.Safe among d) (listed : id < w.contexts.length) :
    (∃ failure v, (Session.openContext id).outcome w = (.error failure, v) ∧ v.Safe among d)
      ∨ ∃ v, (Session.openContext id).outcome w = (.ok (), v) ∧ v.Safe among d
        ∧ v.registries = w.registries ∧ (v.context id).connection.isSome = true := by
  have kept := opens apart id w safe
  have aside := (Session.openContext_aside id w).2
  cases closed : (w.context id).connection with
  | some c =>
    rw [Session.openContext_open closed] at kept ⊢
    exact .inr ⟨w, rfl, kept, rfl, by rw [closed]; rfl⟩
  | none =>
    rcases Session.openContext_cases closed with ⟨failure, v, failed, _⟩ | ⟨c, v, opened, _, alike⟩
    · rw [failed] at kept ⊢
      exact .inl ⟨failure, v, rfl, kept⟩
    · rw [opened] at kept aside ⊢
      refine .inr ⟨v, rfl, kept, congrArg Prod.fst aside, ?_⟩
      rw [alike.context, World.reconnected, World.context_changed listed]
      rfl

include apart distinct member lower

/-- An operation of a mapper does not run at all, or it runs where the table has all that the plan
    says. -/
theorem outcome_withTable (safe : w.Safe among d) :
    (∃ failure v, v.Safe among d ∧ ∀ {α : Type} (op : Nat → Session α),
        (m.withTable op).outcome w = (.error failure, v))
      ∨ ∃ id v h, v.Safe among d ∧ v.handleOf id = some h ∧ m.plan.StandsIn h.current
        ∧ ∀ {α : Type} (op : Nat → Session α), (m.withTable op).outcome w = (op id).outcome v := by
  rcases outcome_contextId distinct member safe with ⟨failure, absent⟩ | ⟨id, u, found, safe, bound⟩
  · exact .inl ⟨failure, w, safe, fun op => Session.outcome_bind_error absent _⟩
  rcases safe.outcome_openContext apart ((safe.justified m member).listed id bound) with
    ⟨failure, v, closed, safe⟩ | ⟨v, opened, safe, registries, there⟩
  · refine .inl ⟨failure, v, safe, fun op => ?_⟩
    rw [Mapper.withTable, Session.outcome_bind_ok found]
    exact Session.outcome_bind_error closed _
  have bound : (m.stateIn v.registries).bound = some id := registries ▸ bound
  have looked : m.state.outcome v = (.ok (m.stateIn v.registries), v) := rfl
  -- The operation is run last: what comes before it depends only on what the mapper remembers.
  have reaches {α : Type} (op : Nat → Session α) : (m.withTable op).outcome w =
      (if (m.stateIn v.registries).migrated ≠ (v.context id).generation then do
        let _ ← Session.migrate id m.plan
        m.markMigrated id (v.context id).generation
        op id
      else op id : Session α).outcome v := by
    rw [Mapper.withTable, Session.outcome_bind_ok found, Session.withConnection,
      Session.outcome_bind_ok opened, Session.outcome_bind_ok (Session.outcome_context id v),
      Session.outcome_bind_ok looked]
    rfl
  by_cases current : (m.stateIn v.registries).migrated = (v.context id).generation
  · -- The migration is skipped, and what the mapper remembers is right.
    obtain ⟨h, here, stands⟩ := (safe.justified m member).current id bound there current
    refine .inr ⟨id, v, h, safe, here, stands _ h.current_snapshots, fun op => ?_⟩
    rw [reaches, if_neg (not_not.mpr current)]
  · rcases safe.outcome_bring apart distinct member lower bound with
      ⟨failure, x, failed, safe⟩ | ⟨report, x, y, h, migrated, marked, safe, here, stands⟩
    · refine .inl ⟨failure, x, safe, fun op => ?_⟩
      rw [reaches, if_pos current, Session.outcome_bind_error failed]
    · refine .inr ⟨id, y, h, safe, here, stands, fun op => ?_⟩
      rw [reaches, if_pos current, Session.outcome_bind_ok migrated, Session.outcome_bind_ok marked]

theorem keeps_withTable {op : Nat → Session α} (kept : ∀ id, Keeps (World.Safe among d) (op id)) :
    Keeps (World.Safe among d) (m.withTable op) := by
  intro w safe
  rcases safe.outcome_withTable apart distinct member lower with
    ⟨failure, v, safe, failed⟩ | ⟨id, v, h, safe, _, _, ran⟩
  · rw [failed]
    exact safe
  · rw [ran]
    exact kept id v safe

theorem keeps_prepare : Keeps (World.Safe among d) m.prepare := by
  intro w safe
  rcases outcome_contextId distinct member safe with ⟨failure, absent⟩ | ⟨id, u, found, safe, bound⟩
  · rw [Mapper.prepare, Session.outcome_bind_error absent]
    exact safe
  rw [Mapper.prepare, Session.outcome_bind_ok found, Session.outcome_annotate, Session.withConnection]
  rcases safe.outcome_openContext apart ((safe.justified m member).listed id bound) with
    ⟨failure, v, closed, safe⟩ | ⟨v, opened, safe, registries, there⟩
  · rw [Session.outcome_bind_error closed]
    exact safe
  rw [Session.outcome_bind_ok opened, Session.outcome_bind_ok (Session.outcome_context id v)]
  rcases safe.outcome_bring apart distinct member lower (registries ▸ bound) with
    ⟨failure, x, failed, safe⟩ | ⟨report, x, y, h, migrated, marked, safe, here, stands⟩
  · dsimp only
    rw [Session.outcome_bind_error failed]
    exact safe
  · have marked : (m.markMigrated id (v.contexts.getD id default).generation).outcome x = (.ok (), y) :=
      marked
    dsimp only
    rw [Session.outcome_bind_ok migrated, Session.outcome_bind_ok marked]
    exact safe

end

/-! ## Operations -/

theorem keeps_modifyKept (apart : d.Apart) (f : List String → List String) :
    Keeps (World.Safe among d) (Session.modifyKept id f) := by
  intro w safe
  obtain ⟨step, handle⟩ := Session.step_modifyKept id f w
  have before := safe.sites id
  let kept (context : Context) : Context :=
    { context with connection := context.connection.map fun c => { c with kept := f c.kept } }
  have opened (c : Context) : (kept c).connection.isSome = c.connection.isSome := Option.isSome_map ..
  change Step id w (w.changed id kept) at step
  change (w.changed id kept).handleOf id = w.handleOf id at handle
  -- The texts of kept statements are no part of what a site is asked for.
  refine safe.changed apart (fun now => ⟨?_, ?_, ?_, ?_, ?_⟩) fun now m member bound => ?_
  · rw [now]
    exact before.config
  · rw [now]
    exact before.named
  · rw [step.file]
    exact before.file
  · rw [now, opened]
    exact before.counted
  · rw [handle]
    exact before.plain
  · have justified := safe.justified m member
    refine .on bound (safe.listed member bound) ?_ ?_
    · rw [now]
      exact justified.late id bound
    · rw [handle, now, opened]
      exact justified.current id bound

theorem carries (apart : d.Apart) : Session.Carries (World.Safe among d) Prepared.ChangesRows id :=
  (withstands apart _).carries (keeps_modifyKept apart)
    (fun text again leaves w p v safe done => by
      obtain ⟨db, steady, read⟩ := Session.gives_prepareOne (fun w h (safe : w.Safe among d) found =>
        ((safe.sites id).plain h found _ h.current_snapshots).steady) text again w p v safe done
      exact leaves.prepared steady read)
    fun p parameters stays h => by
      obtain ⟨program, prepares, kept⟩ := stays
      rw [Prepared.AllowedAt, prepares]
      exact fun others plans holds => Handle.run_snapshots holds
        ((kept _ Database.Provides.rowwise).leaves parameters (holds _ h.current_snapshots)) others

section
variable (apart : d.Apart) (distinct : Mapper.Distinct among) (member : among m)
include distinct member

theorem keeps_contextId : Keeps (World.Safe among d) m.contextId := by
  intro w safe
  rcases outcome_contextId distinct member safe with ⟨failure, absent⟩ | ⟨id, u, found, safe, _⟩
  · rw [absent]
    exact safe
  · rw [found]
    exact safe

include apart

theorem bears (lower : m.plan.Lower) : m.Bears (World.Safe among d) :=
  Mapper.bears (withstands apart 0).report (keeps_contextId distinct member)
    (counts distinct member (fun _ => rfl) fun _ => rfl) (counts distinct member (fun _ => rfl) fun _ => rfl)
    (fun _ (_ : True) => carries apart) (keeps_prepare apart distinct member lower)
    (fun _ kept => keeps_withTable apart distinct member lower fun id => kept id trivial) lower.toNamed

theorem keeps_reset : Keeps (World.Safe among d) m.reset := by
  have forgets : Keeps (World.Safe among d) (m.modifyState fun s => { s with migrated := 0, bound := none }) :=
    fun _ safe => safe.remembered distinct member ⟨fun _ => rfl, nofun, nofun, nofun⟩
  refine .bind (fun _ safe => safe) fun state => ?_
  cases state.bound with
  | some id => exact .bind (keeps_modifyKept apart _) fun _ => forgets
  | none => exact forgets

end

end World.Safe

end EntityStore
