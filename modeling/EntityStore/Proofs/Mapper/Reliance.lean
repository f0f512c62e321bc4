import EntityStore.Proofs.Lifecycle.Parting
import EntityStore.Proofs.Mapper.Standing
import EntityStore.Proofs.Migration.Plain

/-! # What mappers remember can be relied on

A mapper that takes its table to be up to date does not look again.  That is right in every state that
its connection can come back to, whatever mappers, transactions and connections do:

* `Deployment` — which databases the contexts of an application use; no file belongs to two of them.
* `World.Justifies` — what a mapper remembers is right.
* `World.Safe` — it is right of all mappers; `World.Safe.withstands` and the lemmas after it say what
  keeps it.
-/

namespace EntityStore

open EntityStore.Engine (Database Handle Program)
open Session (Keeps Gives)
open World (Alike Step)

variable {among : Mapper → Prop} {α : Type}

/-! ## Files -/

def ContextConfig.placeOf? (config : ContextConfig) (name : String) : Option (List String) :=
  match config.storage with
  | .memory => none
  | .directory directory => some (pathParts (joinPath directory (name ++ ".db")))

/-- The names that a context may open its database under. -/
def Context.MayUse (c : Context) (name : String) : Prop :=
  c.nameOverride = some name ∨ c.config.name = some name
    ∨ ∃ user, c.userId = some user ∧ name = "user_" ++ user

theorem Context.mayUse_name {c : Context} {name : String} (found : c.name? = some name) :
    c.MayUse name := by
  rw [Context.name?] at found
  -- The first name that there is, is the name of the database.
  cases override : c.nameOverride with
  | some other =>
    rw [override] at found
    exact .inl (override.trans found)
  | none =>
    cases configured : c.config.name with
    | some other =>
      rw [override, configured] at found
      exact .inr (.inl (configured.trans found))
    | none =>
      rw [override, configured] at found
      obtain ⟨user, known, rfl⟩ := Option.map_eq_some_iff.mp found
      exact .inr (.inr ⟨user, known, rfl⟩)

theorem Context.place?_placeOf {c : Context} {path : List String} (place : c.place? = some path) :
    ∃ name, c.MayUse name ∧ c.config.placeOf? name = some path := by
  rw [Context.place?] at place
  split at place
  · next directory name storage named =>
    refine ⟨name, mayUse_name ?_, by rw [ContextConfig.placeOf?, storage]; exact place⟩
    rw [Context.requireName] at named
    split at named
    · next found => cases named; exact found
    · cases named
  · cases place

/-- How the contexts of an application are configured, and the names under which their databases are
    opened. -/
structure Deployment where
  configs : Nat → ContextConfig
  names : Nat → String → Prop

namespace Deployment

/-- A file in which a context may keep a database. -/
def Places (d : Deployment) (id : Nat) (path : List String) : Prop :=
  ∃ name, d.names id name ∧ (d.configs id).placeOf? name = some path

/-- Different contexts use different files. -/
def Apart (d : Deployment) : Prop := ∀ i j path, d.Places i path → d.Places j path → i = j

/-- A context that keeps to its files, where only migrations have defined anything. -/
structure Site (d : Deployment) (w : World) (id : Nat) : Prop where
  config : (w.context id).config = d.configs id
  named : ∀ name, (w.context id).MayUse name → d.names id name
  file : ∀ path, w.fileOf id = some (some path) → d.Places id path
  counted : (w.context id).connection.isSome = true → 0 < (w.context id).generation
  plain : ∀ h, w.handleOf id = some h → ∀ db ∈ h.snapshots, db.Plain

end Deployment

/-! ## Worlds -/

/-- A mapper with a plan rightly remembers a state: if that says that the table is up to date on the
    connection of a context, it is in every state that the connection can come back to. -/
structure World.Justifies (w : World) (p : MappingPlan) (state : MapperState) : Prop where
  unbound : state.bound = none → state.migrated = 0
  listed : ∀ id, state.bound = some id → id < w.contexts.length
  late : ∀ id, state.bound = some id → state.migrated ≤ (w.context id).generation
  current : ∀ id, state.bound = some id → (w.context id).connection.isSome = true →
    state.migrated = (w.context id).generation →
      ∃ h, w.handleOf id = some h ∧ ∀ db ∈ h.snapshots, p.StandsIn db

structure Mapper.PresentIn (m : Mapper) (registries : List RegistryState) : Prop where
  registry : m.registry.id < registries.length
  index : m.index < (registries.getD m.registry.id default).mappers.length

/-- What mappers remember is right, and contexts keep to their files. -/
structure World.Safe (among : Mapper → Prop) (d : Deployment) (w : World) : Prop where
  sites : ∀ id, d.Site w id
  stored : ∀ path db, w.stored path = some db → db.Plain
  /-- A context that a mapper finds is there. -/
  found : ∀ m, among m → ∀ id,
    (w.groups.getD m.registry.group []).lookup m.plan.tag = some id → id < w.contexts.length
  present : ∀ m, among m → m.PresentIn w.registries
  justified : ∀ m, among m → w.Justifies m.plan (m.stateIn w.registries)

variable {d : Deployment} {w v : World} {id : Nat} {h : Handle}

/-- A step of the engine that leaves to a connection what it can rely on, whichever plans that is. -/
def Engine.Handle.Preserves (h next : Handle) : Prop :=
  ∀ plans : MappingPlan → Prop, (∀ db ∈ h.snapshots, db.Provides plans) →
    ∀ db ∈ next.snapshots, db.Provides plans

/-! ## What is not touched -/

theorem Deployment.Site.congr (site : d.Site w id) (context : v.context id = w.context id)
    (handle : v.handleOf id = w.handleOf id) : d.Site v id where
  config := context ▸ site.config
  named := context ▸ site.named
  file := by
    rw [World.fileOf, context, ← World.fileOf]
    exact site.file
  counted := context ▸ site.counted
  plain := handle ▸ site.plain

theorem World.Justifies.congr {p : MappingPlan} {state : MapperState} (justifies : w.Justifies p state)
    (length : v.contexts.length = w.contexts.length)
    (same : ∀ j, state.bound = some j → v.context j = w.context j ∧ v.handleOf j = w.handleOf j) :
    v.Justifies p state where
  unbound := justifies.unbound
  listed j bound := length ▸ justifies.listed j bound
  late j bound := by
    rw [(same j bound).1]
    exact justifies.late j bound
  current j bound := by
    rw [(same j bound).1, (same j bound).2]
    exact justifies.current j bound

theorem World.Justifies.on {p : MappingPlan} {state : MapperState} (bound : state.bound = some id)
    (listed : id < w.contexts.length) (late : state.migrated ≤ (w.context id).generation)
    (current : (w.context id).connection.isSome = true → state.migrated = (w.context id).generation →
      ∃ h, w.handleOf id = some h ∧ ∀ db ∈ h.snapshots, p.StandsIn db) : w.Justifies p state where
  unbound none := by rw [bound] at none; cases none
  listed j here := by
    rw [bound, Option.some.injEq] at here
    exact here ▸ listed
  late j here := by
    rw [bound, Option.some.injEq] at here
    exact here ▸ late
  current j here := by
    rw [bound, Option.some.injEq] at here
    exact here ▸ current

namespace World.Safe

theorem alike (safe : w.Safe among d) (alike : Alike w v) : v.Safe among d where
  sites j := (safe.sites j).congr (alike.context j) (alike.handleOf j)
  stored path db kept := safe.stored path db (alike.stored path ▸ kept)
  found m member := by
    have groups : v.groups = w.groups := congrArg Prod.snd alike.bindings
    rw [groups, alike.contexts]
    exact safe.found m member
  present m member := by
    have registries : v.registries = w.registries := congrArg Prod.fst alike.bindings
    exact registries ▸ safe.present m member
  justified m member := by
    have registries : v.registries = w.registries := congrArg Prod.fst alike.bindings
    rw [registries]
    exact (safe.justified m member).congr (congrArg List.length alike.contexts)
      fun j _ => ⟨alike.context j, alike.handleOf j⟩

/-- What goes on in the files of one context is not seen by the others. -/
theorem others (safe : w.Safe among d) (apart : d.Apart)
    (contexts : ∀ j, j ≠ id → v.context j = w.context j)
    (stored : ∀ path, v.stored path = w.stored path ∨ d.Places id path) (j : Nat) (different : j ≠ id) :
    v.context j = w.context j ∧ v.handleOf j = w.handleOf j := by
  refine ⟨contexts j different, ?_⟩
  rw [handleOf, contexts j different, handleOf]
  cases opened : (w.context j).connection with
  | none => rfl
  | some c =>
    refine handle?_congr fun path file => (stored path).resolve_right fun mine => different ?_
    exact apart j id path ((safe.sites j).file path (by rw [fileOf, opened, Option.map_some, file])) mine

theorem turn (safe : w.Safe among d) (apart : d.Apart)
    (length : v.contexts.length = w.contexts.length)
    (contexts : ∀ j, j ≠ id → v.context j = w.context j)
    (files : ∀ path, v.stored path = w.stored path ∨ d.Places id path)
    (bindings : v.bindings = w.bindings) (site : d.Site v id)
    (stored : ∀ path db, v.stored path = some db → db.Plain)
    (justified : ∀ m, among m → (m.stateIn w.registries).bound = some id →
      v.Justifies m.plan (m.stateIn w.registries)) : v.Safe among d where
  sites j := by
    by_cases same : j = id
    · exact same ▸ site
    · obtain ⟨context, handle⟩ := safe.others apart contexts files j same
      exact (safe.sites j).congr context handle
  stored := stored
  found m member := by
    have groups : v.groups = w.groups := congrArg Prod.snd bindings
    rw [groups, length]
    exact safe.found m member
  present m member := by
    have registries : v.registries = w.registries := congrArg Prod.fst bindings
    exact registries ▸ safe.present m member
  justified m member := by
    have registries : v.registries = w.registries := congrArg Prod.fst bindings
    rw [registries]
    -- A mapper on another context finds what it has found before.
    by_cases here : (m.stateIn w.registries).bound = some id
    · exact justified m member here
    · exact (safe.justified m member).congr length fun j bound =>
        safe.others apart contexts files j fun same => here (same ▸ bound)

/-! ## Steps of the engine -/

section
variable {c : Connection} {next : Handle} (opened : (w.context id).connection = some c)
  (found : w.handle? c = some h) (preserves : h.Preserves next) (safe : w.Safe among d)
include opened found preserves safe

theorem plain_put : ∀ db ∈ next.snapshots, db.Plain := by
  have here : w.handleOf id = some h := by rw [handleOf, opened]; exact found
  -- What is plain provides the tables of no plan at all.
  exact fun db member => (preserves (fun _ => False)
    (fun db member => ⟨(safe.sites id).plain h here db member, fun _ => False.elim⟩) db member).plain

theorem site_put : d.Site (w.putHandle id c next) id := by
  obtain ⟨connection, context, file, _⟩ := context_putHandle opened next
  have before := safe.sites id
  refine ⟨?_, ?_, ?_, ?_, ?_⟩
  · rw [context]
    exact before.config
  · rw [context]
    exact before.named
  · rw [fileOf, context, Option.map_some, file]
    exact fun path own => before.file path (by rw [fileOf, opened, Option.map_some, ← Option.some.inj own])
  · rw [context]
    exact fun _ => before.counted (by rw [opened]; rfl)
  · rw [handleOf_putHandle opened next]
    rintro _ ⟨⟩
    exact plain_put opened found preserves safe

theorem justifies_put {m : Mapper} (member : among m) (bound : (m.stateIn w.registries).bound = some id) :
    (w.putHandle id c next).Justifies m.plan (m.stateIn w.registries) := by
  obtain ⟨connection, context, _⟩ := context_putHandle opened next
  have length : (w.putHandle id c next).contexts.length = w.contexts.length := List.length_modify ..
  have here : w.handleOf id = some h := by rw [handleOf, opened]; exact found
  have justified := safe.justified m member
  refine .on bound (length ▸ justified.listed id bound) ?_ ?_
  · rw [context]
    exact justified.late id bound
  · rw [context, handleOf_putHandle opened next]
    intro _ same
    obtain ⟨_, found, stands⟩ := justified.current id bound (by rw [opened]; rfl) same
    rw [here, Option.some.injEq] at found
    subst found
    refine ⟨next, rfl, fun db member => (preserves (· = m.plan) (fun db member =>
      ⟨(safe.sites id).plain _ here db member, ?_⟩) db member).standsIn _ rfl⟩
    rintro _ rfl
    exact stands db member

end

/-- Steps of the engine behind the connection of a context. -/
theorem withstands (apart : d.Apart) (id : Nat) :
    Session.Withstands Handle.Preserves (World.Safe among d) id where
  same _ _ holds := holds
  aside {w v} safe disk contexts bindings :=
    safe.alike ⟨contexts, fun path => by rw [World.stored, disk, World.stored], bindings⟩
  step {w c h next} opened found preserves safe := by
    refine safe.turn apart (List.length_modify ..)
      (fun j different => context_changed_of_ne different w _) (fun path => ?_) rfl
      (site_put opened found preserves safe) (fun path db kept => ?_)
      fun m member bound => justifies_put opened found preserves safe member bound
    · rw [stored_putHandle]
      split
      · next own => exact .inr ((safe.sites id).file path (by rw [fileOf, opened, Option.map_some, own]))
      · exact .inl rfl
    · rw [stored_putHandle] at kept
      split at kept
      · cases kept
        exact plain_put opened found preserves safe _ (Handle.image_snapshots next)
      · exact safe.stored path db kept

/-! ## Connections -/

/-- A change of a context that leaves its files alone. -/
theorem changed (safe : w.Safe among d) (apart : d.Apart) {f : Context → Context}
    (site : (w.changed id f).context id = f (w.context id) → d.Site (w.changed id f) id)
    (justified : (w.changed id f).context id = f (w.context id) → ∀ m, among m →
      (m.stateIn w.registries).bound = some id →
        (w.changed id f).Justifies m.plan (m.stateIn w.registries)) : (w.changed id f).Safe among d := by
  have length : (w.changed id f).contexts.length = w.contexts.length := List.length_modify ..
  have others (j : Nat) (different : j ≠ id) := context_changed_of_ne different w f
  rcases w.context_changed_cases id f with changed | ⟨same, _⟩
  · exact safe.turn apart length others (fun _ => .inl rfl) rfl (site changed) safe.stored (justified changed)
  · -- There is no such context.
    have handle : (w.changed id f).handleOf id = w.handleOf id := by
      rw [handleOf, same, handleOf]
      rfl
    exact safe.turn apart length others (fun _ => .inl rfl) rfl ((safe.sites id).congr same handle)
      safe.stored fun m member bound => (safe.justified m member).congr length fun j here => by
        rw [bound, Option.some.injEq] at here
        exact here ▸ ⟨same, handle⟩

theorem listed (safe : w.Safe among d) {m : Mapper} (member : among m) {f : Context → Context}
    (bound : (m.stateIn w.registries).bound = some id) : id < (w.changed id f).contexts.length := by
  rw [World.changed, List.length_modify]
  exact (safe.justified m member).listed id bound

theorem closed (safe : w.Safe among d) (apart : d.Apart) :
    (w.changed id fun c => { c with connection := none }).Safe among d := by
  have before := safe.sites id
  refine safe.changed apart (fun now => ?_) fun now m member bound => ?_
  · have none : ((w.changed id fun c => { c with connection := none }).context id).connection = none := by
      rw [now]
    refine ⟨by rw [now]; exact before.config, by rw [now]; exact before.named, ?_, ?_, ?_⟩
    · rw [fileOf, none]
      rintro _ ⟨⟩
    · rw [none]
      rintro ⟨⟩
    · rw [handleOf, none]
      rintro _ ⟨⟩
  · refine .on bound (safe.listed member bound) (by rw [now]; exact (safe.justified m member).late id bound) ?_
    rw [now]
    rintro ⟨⟩

theorem reconnected (safe : w.Safe among d) (apart : d.Apart) {c : Connection}
    (opens : (w.context id).Opens c) : (w.reconnected id c).Safe among d := by
  have before := safe.sites id
  refine safe.changed apart (fun now => ?_) fun now m member bound => ?_
  · refine ⟨by rw [now]; exact before.config, by rw [now]; exact before.named, ?_,
      by rw [now]; exact fun _ => Nat.succ_pos _, ?_⟩
    · rw [fileOf, now]
      cases opens with
      | memory _ => rintro _ ⟨⟩
      | file place =>
        rintro _ ⟨⟩
        obtain ⟨name, may, placed⟩ := Context.place?_placeOf place
        exact ⟨name, before.named name may, before.config ▸ placed⟩
    · rw [handleOf, now]
      intro h found db member
      rw [Option.bind_some, handle?_eq] at found
      cases opens with
      | memory _ =>
        cases found
        rw [List.mem_singleton.mp member]
        exact .empty
      | file _ =>
        obtain ⟨image, kept, rfl⟩ := Option.map_eq_some_iff.mp found
        rw [List.mem_singleton.mp member]
        exact safe.stored _ _ kept
  · -- The generation is a new one, and no mapper remembers it yet.
    have late := (safe.justified m member).late id bound
    refine .on bound (safe.listed member bound) (by rw [now]; exact Nat.le_succ_of_le late) fun _ same => ?_
    rw [now] at same
    dsimp only at same
    omega

theorem settings (safe : w.Safe among d) (apart : d.Apart) {f : Context → Context}
    (connection : ∀ c, (f c).connection = c.connection) (generation : ∀ c, (f c).generation = c.generation)
    (config : ∀ c, (f c).config = c.config)
    (named : ∀ name, (f (w.context id)).MayUse name → d.names id name) :
    (w.changed id f).Safe among d := by
  have before := safe.sites id
  have handle (now : (w.changed id f).context id = f (w.context id)) :
      (w.changed id f).handleOf id = w.handleOf id := by
    rw [handleOf, now, connection, handleOf]
    rfl
  refine safe.changed apart (fun now => ?_) fun now m member bound => ?_
  · refine ⟨by rw [now, config]; exact before.config, by rw [now]; exact named, ?_, ?_, ?_⟩
    · rw [fileOf, now, connection]
      exact before.file
    · rw [now, connection, generation]
      exact before.counted
    · rw [handle now]
      exact before.plain
  · have justified := safe.justified m member
    refine .on bound (safe.listed member bound) (by rw [now, generation]; exact justified.late id bound) ?_
    rw [handle now, now, connection, generation]
    exact justified.current id bound

theorem opens (apart : d.Apart) (id : Nat) : Keeps (World.Safe among d) (Session.openContext id) := by
  intro w safe
  cases closed : (w.context id).connection with
  | some c =>
    rw [Session.openContext_open closed]
    exact safe
  | none =>
    rcases Session.openContext_cases closed with ⟨failure, v, failed, alike⟩ | ⟨c, v, opened, opens, alike⟩
    · rw [failed]
      exact safe.alike alike
    · rw [opened]
      exact (safe.reconnected apart opens).alike alike

theorem governs (apart : d.Apart) (id : Nat) : Session.Governs (World.Safe among d) id where
  reports := (withstands apart id).report
  opens := opens apart id
  closes _ safe := safe.closed apart
  controls s := (withstands apart id).control fun refusal others h _ holds db member =>
    holds db (h.controlUnless_snapshots refusal others s member)

/-! ## Files -/

theorem removed (safe : w.Safe among d) (apart : d.Apart) (closed : (w.context id).connection = none)
    {path : List String} (place : (w.context id).place? = some path) :
    World.Safe among d { w with disk := w.disk.remove path } := by
  have before := safe.sites id
  have handle : World.handleOf { w with disk := w.disk.remove path } id = w.handleOf id := by
    rw [handleOf, handleOf, show ({ w with disk := w.disk.remove path } : World).context id =
      w.context id from rfl, closed]
    rfl
  -- Where the file was, an empty database would be opened now.
  have stored (other : List String) : World.stored { w with disk := w.disk.remove path } other =
      if other = path then some {} else w.stored other := by
    by_cases same : other = path <;> simp [World.stored, Disk.file?_remove, same]
  refine safe.turn apart rfl (fun _ _ => rfl) (fun other => ?_) rfl (before.congr rfl handle)
    (fun other db kept => ?_) fun m member bound => (safe.justified m member).congr rfl fun j here => by
      rw [bound, Option.some.injEq] at here
      exact here ▸ ⟨rfl, handle⟩
  · rw [stored]
    split
    · next same =>
      obtain ⟨name, may, placed⟩ := Context.place?_placeOf place
      exact .inr ⟨name, before.named name may, by rw [same, ← before.config]; exact placed⟩
    · exact .inl rfl
  · rw [stored] at kept
    split at kept
    · cases kept
      exact .empty
    · exact safe.stored other db kept

theorem deletes (apart : d.Apart) : Keeps (World.Safe among d) (Session.deleteFile id) := by
  intro w safe
  obtain ⟨u, done, _, closed⟩ := Session.closeContext_released id w
  have safe : u.Safe among d := by
    have kept := (governs apart id).closeContext w safe
    rwa [done] at kept
  rw [Session.deleteFile, Session.outcome_bind_ok done, Session.outcome_bind_ok (Session.outcome_context id u)]
  -- The connection is closed by now, and what is left may only remove its file.
  cases storage : (u.context id).config.storage with
  | memory =>
    rw [World.context] at storage
    simp only [storage]
    exact safe
  | directory directory =>
    obtain ⟨result, disk, resolved, files, place⟩ := Session.outcome_resolvePath storage
    have alike : Alike u { u with disk := disk } := ⟨rfl, Session.stored_congr files, rfl⟩
    rw [World.context] at storage
    simp only [storage, reduceCtorEq, ↓reduceIte]
    cases result with
    | error failure =>
      rw [Session.outcome_bind_error resolved]
      exact safe.alike alike
    | ok text =>
      rw [Session.outcome_bind_ok resolved]
      have safe := safe.alike alike
      generalize there : ({ u with disk := disk } : World) = v at safe
      have context : v.context id = u.context id := by rw [← there]; rfl
      obtain ⟨exists_, asked⟩ : ∃ b, (Session.pathExists text).outcome v = (.ok b, v) := ⟨_, rfl⟩
      rw [Session.outcome_bind_ok asked]
      cases exists_ with
      | false => exact safe
      | true =>
        change World.Safe among d (Session.outcome (do
          if v.disk.isDirectory (pathParts text) then throw _
          _) v).2
        split
        · exact safe
        · have removed := safe.removed apart (context ▸ closed) (context ▸ place text rfl)
          exact removed.alike ⟨rfl, fun _ => rfl, rfl⟩

end World.Safe

end EntityStore
