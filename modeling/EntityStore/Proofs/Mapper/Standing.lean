import EntityStore.Proofs.Mapper.Held
import EntityStore.Proofs.Store.Bringing

/-! # Mappers in scenes

A mapper in a world where nobody is in the way, and what its operations leave alone:

* `Mapper.Stands` — a mapper on a context, with the rows that it reads there.
* `Mapper.Follows` — what a mapper changes of a scene.
* `Mapper.Works`, `Mapper.Attends` — a world that a mapper has been at work in, perhaps with its
  table up to date.
* `Mapper.Stands.beside` — another mapper stands as before.
* `Mapper.Works.outcome_withTable` — an operation on the table, which is brought up to date first.
-/

namespace EntityStore

open EntityStore.Engine (Database Handle Row)

variable {s t : Scene} {w : World} {id : Nat} {alone : Bool} {db start : Database} {rows : List Row}
  {layout : List ColumnPlan}

/-- A mapper on a context, in whose database it reads rows as soon as its table is up to date. -/
structure Mapper.Stands (m : Mapper) (s : Scene) (id : Nat) (alone : Bool) (db : Database)
    (rows : List Row) : Prop where
  on : m.On id (s.registries, s.groups)
  /-- The mapper remembers no connection that is still to come. -/
  late : (m.stateIn s.registries).migrated ≤ (s.lives id).1
  counted : (s.lives id).2 = true → 0 < (s.lives id).1
  sees : ∃ h, s.handles id = some h ∧ h.Sees alone db
  ready : m.plan.Ready db
  serves : m.plan.Serves rows db
  /-- What the mapper takes to be up to date is. -/
  fresh : (s.lives id).2 = true → (m.stateIn s.registries).migrated = (s.lives id).1 →
    ∃ layout, m.plan.In layout rows db

def Mapper.Other (m other : Mapper) : Prop :=
  (other.registry.id, other.index) ≠ (m.registry.id, m.index)

/-- What a mapper changes of a scene: the database of its context, which it opens, and what it
    remembers. -/
structure Mapper.Follows (m : Mapper) (id : Nat) (s t : Scene) : Prop where
  handles : ∀ j, j ≠ id → t.handles j = s.handles j
  places : t.places = s.places
  lives : ∀ j, j ≠ id → t.lives j = s.lives j
  life : t.lives id = s.lives id ∨ t.lives id = (s.opened id).lives id
  groups : t.groups = s.groups
  states : ∀ other, m.Other other → other.stateIn t.registries = other.stateIn s.registries
  alive : ∀ r, (t.registries.getD r default).alive = (s.registries.getD r default).alive

namespace Scene

theorem opened_lives (s : Scene) (id : Nat) :
    (s.opened id).lives id = if (s.lives id).2 then s.lives id else ((s.lives id).1 + 1, true) := by
  simp [opened]

end Scene

namespace Mapper

variable {m other : Mapper}

namespace Follows

theorem refl (m : Mapper) (id : Nat) (s : Scene) : m.Follows id s s :=
  ⟨fun _ _ => rfl, rfl, fun _ _ => rfl, .inl rfl, rfl, fun _ _ => rfl, fun _ => rfl⟩

theorem trans {u : Scene} (first : m.Follows id s t) (second : m.Follows id t u) :
    m.Follows id s u where
  handles j apart := (second.handles j apart).trans (first.handles j apart)
  places := second.places.trans first.places
  lives j apart := (second.lives j apart).trans (first.lives j apart)
  life := by
    rcases second.life with same | opened
    · rw [same]; exact first.life
    · rw [opened, Scene.opened_lives]
      rcases first.life with before | now
      · rw [before, ← Scene.opened_lives]; exact .inr rfl
      · rw [now, Scene.opened_lives]
        refine .inr ?_
        by_cases here : (s.lives id).2 = true <;> simp [here]
  groups := second.groups.trans first.groups
  states other apart := (second.states other apart).trans (first.states other apart)
  alive r := (second.alive r).trans (first.alive r)

/-- A context is as it was, or its connection has been opened since. -/
theorem lives_cases (follows : m.Follows id s t) (j : Nat) :
    t.lives j = s.lives j ∨ t.lives j = ((s.lives j).1 + 1, true) := by
  by_cases same : j = id
  · rw [same]
    rcases follows.life with kept | now
    · exact .inl kept
    · rw [now, Scene.opened_lives]
      exact ite_eq_or_eq ..
  · exact .inl (follows.lives j same)

theorem on (follows : m.Follows id s t) (apart : m.Other other) {j : Nat}
    (on : other.On j (s.registries, s.groups)) : other.On j (t.registries, t.groups) := by
  simp only [Mapper.On, follows.groups, follows.states other apart] at on ⊢
  exact on

theorem put (h : Handle) : m.Follows id s (s.put id h) where
  handles _ apart := Function.update_of_ne apart ..
  places := rfl
  lives _ _ := rfl
  life := .inl rfl
  groups := rfl
  states _ _ := rfl
  alive _ := rfl

theorem opened : m.Follows id s (s.opened id) where
  handles _ _ := rfl
  places := rfl
  lives _ apart := Function.update_of_ne apart ..
  life := .inr rfl
  groups := rfl
  states _ _ := rfl
  alive _ := rfl

end Follows

/-! ## What is remembered -/

def rememberedBy (m : Mapper) (f : MapperState → MapperState) (registries : List RegistryState) :
    List RegistryState :=
  registries.modify m.registry.id fun r => { r with mappers := r.mappers.modify m.index f }

theorem getD_modify_of_ne {α : Type} {i j : Nat} (apart : j ≠ i) (items : List α) (f : α → α)
    (standard : α) : (items.modify i f).getD j standard = items.getD j standard := by
  simp [List.getD_eq_getElem?_getD, Ne.symm apart]

theorem stateIn_rememberedBy (apart : m.Other other) (f : MapperState → MapperState)
    (registries : List RegistryState) :
    other.stateIn (m.rememberedBy f registries) = other.stateIn registries := by
  simp only [stateIn, rememberedBy]
  by_cases same : other.registry.id = m.registry.id
  · have index : other.index ≠ m.index := fun equal => apart (by rw [same, equal])
    rw [same]
    rcases getD_modify registries m.registry.id m.registry.id
      (fun r => { r with mappers := r.mappers.modify m.index f }) default with old | new
    · rw [old]
    · rw [new]
      exact getD_modify_of_ne index _ _ _
  · rw [getD_modify_of_ne same]

theorem follows_rememberedBy (f : MapperState → MapperState) :
    m.Follows id s { s with registries := m.rememberedBy f s.registries } where
  handles _ _ := rfl
  places := rfl
  lives _ _ := rfl
  life := .inl rfl
  groups := rfl
  states other apart := stateIn_rememberedBy apart f _
  alive r := by
    dsimp only [rememberedBy]
    rcases getD_modify s.registries m.registry.id r
      (fun r => { r with mappers := r.mappers.modify m.index f }) default with old | new
    · rw [old]
    · rw [new]

/-- A mapper still stands when it has changed what it remembers, as long as it is on its context and
    rightly takes its table to be up to date. -/
theorem Stands.remembered (stands : m.Stands s id alone db rows) {f : MapperState → MapperState}
    (bound : ∀ state, (f state).bound = state.bound ∨ (f state).bound = some id
      ∨ (f state).bound = none ∧ (s.groups.getD m.registry.group []).lookup m.plan.tag = some id)
    (migrated : ∀ state, (f state).migrated = state.migrated ∨ (f state).migrated = 0
      ∨ (f state).migrated = (s.lives id).1 ∧ ∃ layout, m.plan.In layout rows db) :
    m.Stands { s with registries := m.rememberedBy f s.registries } id alone db rows := by
  -- A registry may lack the mapper, and then nothing is remembered at all.
  have either := m.stateIn_modify m f s.registries
  refine ⟨?_, ?_, stands.counted, stands.sees, stands.ready, stands.serves, fun opened same => ?_⟩
  · have on := stands.on
    simp only [Mapper.On] at on ⊢
    rcases either with old | new
    · rw [rememberedBy, old]; exact on
    · rw [rememberedBy, new]
      rcases bound (m.stateIn s.registries) with same | here | ⟨none, found⟩
      · rw [same]; exact on
      · exact .inl here
      · exact .inr ⟨none, found⟩
  · have late := stands.late
    dsimp only
    rcases either with old | new
    · rw [rememberedBy, old]; exact late
    · rw [rememberedBy, new]
      rcases migrated (m.stateIn s.registries) with same | none | ⟨now, _⟩
      · rw [same]; exact late
      · rw [none]; exact Nat.zero_le _
      · exact now.le
  · dsimp only at opened same
    rcases either with old | new
    · rw [rememberedBy, old] at same; exact stands.fresh opened same
    · rw [rememberedBy, new] at same
      rcases migrated (m.stateIn s.registries) with kept | none | ⟨_, table⟩
      · exact stands.fresh opened (kept ▸ same)
      · exact absurd (none.symm.trans same) (stands.counted opened).ne
      · exact table

/-! ## Mappers side by side -/

/-- A mapper stands as before when another one has been at work. -/
theorem Stands.beside {j : Nat} {alone' : Bool} {db' next : Database} {rows' : List Row}
    (stands : other.Stands s j alone' db' rows') (apart : m.Other other)
    (follows : m.Follows id s t) (elsewhere : j ≠ id → next = db')
    (here : j = id → m.plan.Apart other.plan ∧ m.plan.Changes db' next
      ∧ ∃ h, t.handles j = some h ∧ h.Sees alone' next) :
    other.Stands t j alone' next rows' := by
  have state := follows.states other apart
  -- Only on the context at work the database has changed, and there the table of the other plan stays.
  obtain ⟨sees, ready, serves, table⟩ : (∃ h, t.handles j = some h ∧ h.Sees alone' next)
      ∧ other.plan.Ready next ∧ other.plan.Serves rows' next
      ∧ ∀ layout, other.plan.In layout rows' db' → other.plan.In layout rows' next := by
    by_cases same : j = id
    · obtain ⟨plans, changes, sees⟩ := here same
      exact ⟨sees, stands.ready.changes plans.toSpares changes,
        stands.serves.changes plans.tables changes, fun _ table => table.changes plans.tables changes⟩
    · rw [elsewhere same, follows.handles j same]
      exact ⟨stands.sees, stands.ready, stands.serves, fun _ table => table⟩
  refine ⟨follows.on apart stands.on, ?_, fun opened => ?_, sees, ready, serves,
    fun opened migrated => ?_⟩
  · rw [state]
    rcases follows.lives_cases j with kept | now
    · rw [kept]
      exact stands.late
    · rw [now]
      exact Nat.le_succ_of_le stands.late
  · rcases follows.lives_cases j with kept | now
    · rw [kept] at opened ⊢
      exact stands.counted opened
    · rw [now]
      exact Nat.succ_pos _
  · rw [state] at migrated
    rcases follows.lives_cases j with kept | now
    · rw [kept] at opened migrated
      obtain ⟨layout, stored⟩ := stands.fresh opened migrated
      exact ⟨layout, table layout stored⟩
    · -- A connection that is opened only now is one that no mapper remembers.
      rw [now] at migrated
      exact absurd (migrated ▸ stands.late) (Nat.not_succ_le_self _)

/-- Mappers stand as before when a context has been closed. -/
theorem Stands.closed {j : Nat} (stands : m.Stands s j alone db rows) :
    m.Stands (s.closed id) j alone db rows := by
  have lives : ((s.closed id).lives j).1 = (s.lives j).1
      ∧ (((s.closed id).lives j).2 = true → (s.closed id).lives j = s.lives j) := by
    by_cases same : j = id
    · subst same
      simp [Scene.closed]
    · simp [Scene.closed, Function.update_of_ne same]
  refine ⟨stands.on, ?_, fun opened => ?_, stands.sees, stands.ready, stands.serves,
    fun opened migrated => ?_⟩
  · rw [lives.1]
    exact stands.late
  · have same := lives.2 opened
    rw [same] at opened ⊢
    exact stands.counted opened
  · have same := lives.2 opened
    rw [same] at opened migrated
    exact stands.fresh opened migrated

/-! ## At work -/

/-- A world that a mapper has been at work in, from a scene on, and where it now reads rows. -/
def Works (m : Mapper) (s : Scene) (id : Nat) (alone : Bool) (start : Database) (rows : List Row)
    (w : World) : Prop :=
  ∃ t db, m.Follows id s t ∧ m.plan.Changes start db ∧ m.Stands t id alone db rows ∧ w.Shows t

/-- The same, with its context open and its table up to date. -/
def Attends (m : Mapper) (s : Scene) (id : Nat) (alone : Bool) (start : Database)
    (layout : List ColumnPlan) (rows : List Row) (w : World) : Prop :=
  ∃ t db, m.Follows id s t ∧ m.plan.Changes start db ∧ m.Stands t id alone db rows
    ∧ (t.lives id).2 = true ∧ m.plan.In layout rows db ∧ w.Shows t

theorem Attends.works (attends : m.Attends s id alone start layout rows w) :
    m.Works s id alone start rows w := by
  obtain ⟨t, db, follows, changes, stands, _, _, shows⟩ := attends
  exact ⟨t, db, follows, changes, stands, shows⟩

theorem Stands.put {h : Handle} (stands : m.Stands s id alone db rows) {next : Database}
    {more : List Row} (sees : h.Sees alone next) (ready : m.plan.Ready next)
    (serves : m.plan.Serves more next) (table : ∃ layout, m.plan.In layout more next) :
    m.Stands (s.put id h) id alone next more :=
  ⟨stands.on, stands.late, stands.counted, ⟨h, s.put_handles id h, sees⟩, ready, serves,
    fun _ _ => table⟩

section
variable {α : Type}

open Session (Yields Succeeds Keeps)

theorem yields_remember {f : MapperState → MapperState}
    (bound : ∀ state, (f state).bound = state.bound ∨ (f state).bound = some id)
    (migrated : ∀ state, (f state).migrated = state.migrated) :
    Yields (m.Works s id alone start rows) (m.modifyState f) () (m.Works s id alone start rows) := by
  refine .change ?_
  rintro w ⟨t, db, follows, changes, stands, shows⟩
  refine ⟨{ t with registries := m.rememberedBy f t.registries }, db,
    follows.trans (follows_rememberedBy f), changes,
    stands.remembered (fun state => (bound state).imp_right .inl) fun state => .inl (migrated state), ?_⟩
  have shown : World.Shows _ _ := shows.congr
    (v := { w with registries := m.rememberedBy f w.registries }) rfl rfl rfl rfl rfl
  rw [← shows.registries]
  exact shown

theorem yields_remember_attends {f : MapperState → MapperState}
    (bound : ∀ state, (f state).bound = state.bound)
    (migrated : ∀ state, (f state).migrated = state.migrated) :
    Yields (m.Attends s id alone start layout rows) (m.modifyState f) ()
      (m.Attends s id alone start layout rows) := by
  refine .change ?_
  rintro w ⟨t, db, follows, changes, stands, opened, table, shows⟩
  refine ⟨{ t with registries := m.rememberedBy f t.registries }, db,
    follows.trans (follows_rememberedBy f), changes,
    stands.remembered (fun state => .inl (bound state)) fun state => .inl (migrated state), opened,
    table, ?_⟩
  have shown : World.Shows _ _ := shows.congr
    (v := { w with registries := m.rememberedBy f w.registries }) rfl rfl rfl rfl rfl
  rw [← shows.registries]
  exact shown

theorem yields_countQuery_attends : Yields (m.Attends s id alone start layout rows) m.countQuery ()
    (m.Attends s id alone start layout rows) :=
  yields_remember_attends (fun _ => rfl) fun _ => rfl

theorem yields_countWrite_attends : Yields (m.Attends s id alone start layout rows) m.countWrite ()
    (m.Attends s id alone start layout rows) :=
  yields_remember_attends (fun _ => rfl) fun _ => rfl

theorem yields_contextId : Yields (m.Works s id alone start rows) m.contextId id
    (m.Works s id alone start rows) := by
  intro w works
  have bound : Yields (m.Works s id alone start rows)
      (m.modifyState fun state => { state with bound := some id }) ()
      (m.Works s id alone start rows) := yields_remember (fun _ => .inr rfl) fun _ => rfl
  obtain ⟨v, done, now⟩ := bound w works
  obtain ⟨t, db, follows, changes, stands, shows⟩ := works
  have on : m.On id w.bindings := by
    rw [World.bindings, shows.registries, shows.groups]
    exact stands.on
  rcases outcome_contextId on with same | after
  · exact ⟨w, same, t, db, follows, changes, stands, shows⟩
  · rw [done] at after
    exact ⟨v, after, now⟩

/-! ## First use -/

theorem Stands.opened (stands : m.Stands s id alone db rows) :
    m.Stands (s.opened id) id alone db rows where
  on := stands.on
  late := by
    have late := stands.late
    rw [Scene.opened_lives]
    split
    · exact late
    · exact Nat.le_succ_of_le late
  counted := by
    rw [Scene.opened_lives]
    split
    · exact stands.counted
    · exact fun _ => Nat.succ_pos _
  sees := stands.sees
  ready := stands.ready
  serves := stands.serves
  fresh opened migrated := by
    have late := stands.late
    have registries : (s.opened id).registries = s.registries := rfl
    rw [Scene.opened_lives] at opened migrated
    rw [registries] at migrated
    -- A context that is opened has a generation above all that have been remembered.
    by_cases before : (s.lives id).2 = true
    · rw [if_pos before] at migrated
      exact stands.fresh before migrated
    · rw [if_neg before] at migrated
      simp only at migrated
      omega

/-- The table is up to date after a migration. -/
theorem Stands.reached {h : Handle} {next : Database} (sound : m.plan.Sound)
    (stands : m.Stands s id alone db rows) (sees : h.Sees alone next)
    (reached : m.plan.Reached rows db next) : m.Stands (s.put id h) id alone next rows := by
  obtain ⟨layout, table⟩ := reached.table
  exact stands.put sees reached.ready (table.serves sound stands.serves.wide) ⟨layout, table⟩

/-- A migration, after which the table is up to date. -/
theorem succeeds_migrate (accepted : m.plan.Accepted) (stands : m.Stands t id alone db rows)
    (opened : (t.lives id).2 = true) (follows : m.Follows id s t)
    (changes : m.plan.Changes start db) :
    Succeeds (World.Shows t) (Session.migrate id m.plan) fun w =>
      (∃ layout, m.Attends s id alone start layout rows w)
        ∧ (w.context id).generation = (t.lives id).1 := by
  intro w shows
  obtain ⟨h, here, sees⟩ := stands.sees
  obtain ⟨report, v, done, next, reached, k, seen, shown⟩ :=
    Session.succeeds_migrate opened accepted stands.ready stands.serves w
      ⟨h, sees, by rw [Scene.put_same here]; exact shows⟩
  obtain ⟨layout, table⟩ := reached.table
  exact ⟨report, v, done, ⟨layout, t.put id k, next, follows.trans (.put k),
    changes.trans reached.changes, stands.reached accepted.toSound seen reached, opened, table, shown⟩,
    by rw [← t.put_lives id k, ← shown.lives id]⟩

/-- Outside of transactions the mapper remembers that its table is up to date. -/
theorem Attends.outcome_markMigrated (attends : m.Attends s id alone start layout rows w) :
    ∃ v, (m.markMigrated id (w.context id).generation).outcome w = (.ok (), v)
      ∧ m.Attends s id alone start layout rows v := by
  obtain ⟨t, db, follows, changes, stands, opened, table, shows⟩ := attends
  obtain ⟨h, here, sees⟩ := stands.sees
  obtain ⟨u, asked, shown⟩ := Session.yields_isAutocommit here opened w shows
  have generation : (t.lives id).1 = (w.context id).generation := by rw [← shows.lives id]
  rw [markMigrated, Session.outcome_bind_ok asked]
  change ∃ v, Session.outcome (if h.isAutocommit = true then _ else _ : Session Unit) u = _ ∧ _
  -- Within a transaction nothing is remembered, since the table may go with it.
  cases idle : h.isAutocommit with
  | false => exact ⟨u, rfl, t, db, follows, changes, stands, opened, table, shown⟩
  | true =>
    let mark (state : MapperState) : MapperState :=
      { state with migrated := (w.context id).generation }
    refine ⟨{ u with registries := m.rememberedBy mark u.registries }, rfl,
      { t with registries := m.rememberedBy mark t.registries }, db,
      follows.trans (follows_rememberedBy mark), changes,
      stands.remembered (fun _ => .inl rfl) fun _ => .inr (.inr ⟨generation.symm, layout, table⟩), opened,
      table, ?_⟩
    rw [← shown.registries]
    exact shown.congr (v := { u with registries := m.rememberedBy mark u.registries })
      rfl rfl rfl rfl rfl

/-- A mapper at work in a world that looks like a scene where its context is open. -/
structure Opened (m : Mapper) (s : Scene) (id : Nat) (alone : Bool) (start : Database)
    (rows : List Row) (t : Scene) (db : Database) : Prop where
  follows : m.Follows id s t
  changes : m.plan.Changes start db
  stands : m.Stands t id alone db rows
  opened : (t.lives id).2 = true

theorem Works.outcome_open (works : m.Works s id alone start rows w) :
    ∃ t db u v, m.Opened s id alone start rows t db ∧ v.Shows t
      ∧ m.contextId.outcome w = (.ok id, u)
      ∧ ∀ op : Nat → Session α,
        (Session.withConnection id op).outcome u = (op (v.context id).generation).outcome v := by
  obtain ⟨u, found, t, db, follows, changes, stands, shows⟩ := yields_contextId w works
  obtain ⟨h, here, _⟩ := stands.sees
  obtain ⟨v, opens, shown⟩ := Session.yields_openContext here u shows
  have opened : ((t.opened id).lives id).2 = true := by
    rw [Scene.opened_lives]
    split
    · next open_ => exact open_
    · rfl
  refine ⟨t.opened id, db, u, v, ⟨follows.trans Follows.opened, changes, stands.opened, opened⟩, shown,
    found, fun op => ?_⟩
  rw [Session.withConnection, Session.outcome_bind_ok opens,
    Session.outcome_bind_ok (Session.outcome_context id v)]
  rfl

/-- The table is brought up to date and that is remembered. -/
theorem Opened.outcome_migrate {db : Database} (opened : m.Opened s id alone start rows t db)
    (accepted : m.plan.Accepted) (shows : w.Shows t) :
    ∃ layout report u v, (Session.migrate id m.plan).outcome w = (.ok report, u)
      ∧ (m.markMigrated id (w.context id).generation).outcome u = (.ok (), v)
      ∧ m.Attends s id alone start layout rows v := by
  obtain ⟨report, u, migrated, ⟨layout, attends⟩, same⟩ :=
    succeeds_migrate accepted opened.stands opened.opened opened.follows opened.changes w shows
  obtain ⟨v, marked, attends⟩ := attends.outcome_markMigrated
  rw [same, ← shows.lives id] at marked
  exact ⟨layout, report, u, v, migrated, marked, attends⟩

/-- An operation on the table runs on an open context where the table is up to date. -/
theorem Works.outcome_withTable (accepted : m.plan.Accepted) (op : Nat → Session α)
    (works : m.Works s id alone start rows w) :
    ∃ layout v, m.Attends s id alone start layout rows v
      ∧ (m.withTable op).outcome w = (op id).outcome v := by
  obtain ⟨t, db, u, v, opened, shows, found, ran⟩ := works.outcome_open
  rw [withTable, Session.outcome_bind_ok found, ran]
  have remembered : m.state.outcome v = (.ok (m.stateIn v.registries), v) := rfl
  rw [Session.outcome_bind_ok remembered]
  change ∃ layout x, _ ∧ Session.outcome
    (if (m.stateIn v.registries).migrated ≠ (v.context id).generation then _ else _ : Session α) v = _
  by_cases fresh : (m.stateIn v.registries).migrated = (v.context id).generation
  · rw [if_neg (by simp [fresh])]
    rw [shows.registries] at fresh
    have ⟨follows, changes, stands, open_⟩ := opened
    obtain ⟨layout, table⟩ := stands.fresh open_ (by rw [fresh, ← shows.lives id])
    exact ⟨layout, v, ⟨t, db, follows, changes, stands, open_, table, shows⟩, rfl⟩
  · rw [if_pos fresh]
    obtain ⟨layout, report, x, y, migrated, marked, attends⟩ := opened.outcome_migrate accepted shows
    refine ⟨layout, y, attends, ?_⟩
    rw [Session.outcome_bind_ok migrated, Session.outcome_bind_ok marked]

/-- The table is brought up to date on demand. -/
theorem succeeds_prepare (accepted : m.plan.Accepted) :
    Succeeds (m.Works s id alone start rows) m.prepare
      fun w => ∃ layout, m.Attends s id alone start layout rows w := by
  intro w works
  obtain ⟨t, db, u, v, opened, shows, found, ran⟩ := works.outcome_open
  obtain ⟨layout, report, x, y, migrated, marked, attends⟩ := opened.outcome_migrate accepted shows
  refine ⟨report, y, ?_, layout, attends⟩
  rw [prepare, Session.outcome_bind_ok found, Session.outcome_annotate, ran,
    Session.outcome_bind_ok migrated, Session.outcome_bind_ok marked]
  rfl

end

end Mapper

end EntityStore
