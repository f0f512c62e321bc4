import EntityStore.Proofs.Mapper.Skipping
import EntityStore.Proofs.Registry.Evolution

/-! # States that an application reaches

Whatever an application does with its registries and contexts, a mapper that skips a migration finds
its table as the migration would leave it:

* `Session.Act`, `World.Reached` — the single steps of an application, and the worlds they lead to.
* `Session.Run` — what an application does, made of calls, loops and write transactions.
* `World.Starts` — a world in which registries have been built and no context is open.
* `World.skips_safely` — runs stay within what is reached, and there migrations are rightly skipped.
-/

namespace EntityStore

open EntityStore.Engine (Database Handle)
open Session (Keeps)
open World (Safe)

variable {registries : Registry → Prop} {names : Nat → String → Prop} {start w : World} {α : Type}
  {m : Mapper}

def Registry.Serve (registries : Registry → Prop) (m : Mapper) : Prop :=
  ∃ r, registries r ∧ m ∈ r.mappers

/-! ## Steps -/

/-- One step of an application that uses registries, and opens databases under some names only: a
    statement of a mapper with the migration before it, a statement about transactions, or a change of
    a context. -/
inductive Session.Act (registries : Registry → Prop) (names : Nat → String → Prop) :
    {α : Type} → Session α → Prop
  | report (e : Event) : Act registries names (Session.report e)
  | request : Act registries names newRequestId
  | find {m : Mapper} (serves : Registry.Serve registries m) : Act registries names m.contextId
  | prepare {m : Mapper} (serves : Registry.Serve registries m) : Act registries names m.prepare
  | query {α : Type} {m : Mapper} (serves : Registry.Serve registries m) {op : Nat → Session α}
      (query : m.Query op) : Act registries names (m.withTable op)
  | write {α : Type} {m : Mapper} (serves : Registry.Serve registries m) {op : Nat → Session α}
      (write : m.Write op) : Act registries names (m.withTable op)
  | reset {m : Mapper} (serves : Registry.Serve registries m) : Act registries names m.reset
  | control (id : Nat) (s : Sql.Statement) : Act registries names (Session.control id s)
  | opens (id : Nat) : Act registries names (openContext id)
  | closes (id : Nat) : Act registries names (forceClose id)
  | rename (id : Nat) (name : Option String) (named : ∀ n, name = some n → names id n) :
      Act registries names (modifyContext id fun c => { c with nameOverride := name })
  | turn (id : Nat) (user : String) (named : names id ("user_" ++ user)) :
      Act registries names (modifyContext id fun c => { c with userId := some user })
  | delete (id : Nat) : Act registries names (deleteFile id)

/-- The worlds that such steps lead to. -/
inductive World.Reached (registries : Registry → Prop) (names : Nat → String → Prop) (start : World) :
    World → Prop
  | start : Reached registries names start start
  | next {α : Type} {op : Session α} {w : World} (act : Session.Act registries names op)
      (before : Reached registries names start w) : Reached registries names start (op.outcome w).2

theorem World.Reached.keeps {P : World → Prop} (reached : World.Reached registries names start w)
    (acts : ∀ {α : Type} {op : Session α}, Session.Act registries names op → Keeps P op)
    (starts : P start) : P w := by
  induction reached with
  | start => exact starts
  | next act _ before => exact acts act _ before

/-! ## Runs -/

/-- What an application does: reads and writes of mappers, resetting them, opening and closing contexts
    under any of their names, and write transactions around all of that, one after the other, with
    failures passed on or caught, as the application chooses by what the world is like. -/
inductive Session.Run (registries : Registry → Prop) (names : Nat → String → Prop) :
    {α : Type} → Session α → Prop
  | pure {α : Type} (a : α) : Run registries names (Pure.pure a)
  | throw {α : Type} (failure : Failure) :
      Run registries names (MonadExcept.throw failure : Session α)
  | bind {α β : Type} {op : Session α} {next : α → Session β} (first : Run registries names op)
      (rest : ∀ a, Run registries names (next a)) : Run registries names (op >>= next)
  | attempt {α : Type} {op : Session α} (run : Run registries names op) :
      Run registries names (Session.attempt op)
  | choose {α : Type} {next : World → Session α} (rest : ∀ w, Run registries names (next w)) :
      Run registries names (MonadState.get >>= next)
  | operation {α : Type} {m : Mapper} (serves : Registry.Serve registries m) {op : Session α}
      (operation : m.Operation op) : Run registries names op
  | reset {m : Mapper} (serves : Registry.Serve registries m) : Run registries names m.reset
  | prepareAll {r : Registry} (used : registries r) : Run registries names r.prepareAll
  | closeAll {r : Registry} (used : registries r) : Run registries names r.close
  | openContext (id : Nat) : Run registries names (openContext id)
  | closeContext (id : Nat) : Run registries names (closeContext id)
  | reopen (id : Nat) : Run registries names (reopen id)
  | openNamed (id : Nat) {name : String} (named : names id name) :
      Run registries names (openNamed id name)
  | setUser (id : Nat) {user : String} (named : names id ("user_" ++ user)) :
      Run registries names (setUser id user)
  | deleteFile (id : Nat) : Run registries names (deleteFile id)
  | update {α : Type} (id : Nat) {block : Session α} (run : Run registries names block) :
      Run registries names (Session.update id block)

namespace World.Reached

/-- Steps stay within what is reached. -/
theorem act {op : Session α} (act : Session.Act registries names op) :
    Keeps (Reached registries names start) op := fun _ before => .next act before

theorem governs (id : Nat) : Session.Governs (Reached registries names start) id where
  reports e := act (.report e)
  opens := act (.opens id)
  closes := act (.closes id)
  controls s := act (.control id s)

theorem bears (serves : Registry.Serve registries m) : m.Bears (Reached registries names start) where
  reports e := act (.report e)
  context := act (.find serves)
  queries query := act (.query serves query)
  prepare := act (.prepare serves)
  writes write := act (.write serves write)

theorem closed : Mapper.Closed (Registry.Serve registries) := by
  rintro m ⟨r, used, member⟩ rel _ target found
  rw [(Registry.mem_mappers.mp member).1] at found
  exact ⟨r, used, Registry.mapper?_mem found⟩

/-- So does whatever an application does. -/
theorem run {run : Session α} (made : Session.Run registries names run) :
    Keeps (Reached registries names start) run := by
  -- The parts of a session are acts, and a world that acts lead to is reached.
  induction made with
  | pure a => exact .pure a
  | throw failure => exact .throw failure
  | bind _ _ first rest => exact .bind first rest
  | attempt _ run => exact run.attempt
  | choose _ rest => exact .bind .get rest
  | operation serves operation => exact operation.keeps closed (fun _ => bears) serves
  | reset serves => exact act (.reset serves)
  | @prepareAll r used =>
    refine .bind (act (.report _)) fun _ =>
      .bind (Keeps.mapM fun m member => act (.prepare ⟨r, used, member⟩)).attempt fun result => ?_
    cases result with
    | ok reports => exact .bind (act (.report _)) fun _ => .pure reports
    | error failure => exact .bind (act (.report _)) fun _ => .throw failure
  | @closeAll r used =>
    have resets : Keeps (Reached registries names start) r.reset :=
      .bind (Keeps.forM fun m member => act (.reset ⟨r, used, member⟩)) fun _ => act (.report _)
    exact .bind resets fun _ => .bind .get fun w => Keeps.forM fun entry _ => (governs entry.2).closeContext
  | openContext id => exact act (.opens id)
  | closeContext id => exact (governs id).closeContext
  | reopen id => exact (governs id).reopen (act (.rename id none nofun))
  | @openNamed id name named =>
    exact (governs id).openNamed (act (.rename id (some name) fun _ same => Option.some.inj same ▸ named))
  | setUser id named => exact (governs id).setUser (act (.turn id _ named))
  | deleteFile id => exact act (.delete id)
  | update id _ block => exact (governs id).update (act .request) block

end World.Reached

/-! ## The start -/

/-- The contexts of a world as they are configured. -/
def World.deployment (w : World) (names : Nat → String → Prop) : Deployment :=
  ⟨fun id => (w.context id).config, names⟩

/-- Registries have been built and not been used yet, no context is open, and only migrations have
    defined anything in the files that are there. -/
structure World.Starts (registries : Registry → Prop) (names : Nat → String → Prop) (w : World) :
    Prop where
  closed : ∀ id, (w.context id).connection = none
  named : ∀ id name, (w.context id).MayUse name → names id name
  stored : ∀ path db, w.stored path = some db → db.Plain
  found : ∀ r, registries r → ∀ entry ∈ w.groups.getD r.group [], entry.2 < w.contexts.length
  built : ∀ r, registries r →
    (w.registries[r.id]?).map (·.mappers) = some (r.catalog.entities.map fun _ => {})

theorem World.Starts.mappers {r : Registry} (starts : w.Starts registries names) (used : registries r) :
    r.id < w.registries.length
      ∧ (w.registries.getD r.id default).mappers = r.catalog.entities.map fun _ => {} := by
  obtain ⟨state, here, mappers⟩ := Option.map_eq_some_iff.mp (starts.built r used)
  obtain ⟨bound, _⟩ := List.getElem?_eq_some_iff.mp here
  refine ⟨bound, ?_⟩
  rw [List.getD_eq_getElem?_getD, here]
  exact mappers

theorem World.Starts.safe (starts : w.Starts registries names) :
    w.Safe (Registry.Serve registries) (w.deployment names) where
  sites id := by
    have none := starts.closed id
    refine ⟨rfl, starts.named id, ?_, ?_, ?_⟩
    · rw [fileOf, none]
      rintro _ ⟨⟩
    · rw [none]
      rintro ⟨⟩
    · rw [handleOf, none]
      rintro _ ⟨⟩
  stored := starts.stored
  found := by
    rintro m ⟨r, used, member⟩ id found
    rw [(Registry.mem_mappers.mp member).1] at found
    obtain ⟨before, after, entries, _⟩ := List.lookup_eq_some_iff.mp found
    exact starts.found r used (m.plan.tag, id) (by rw [entries]; simp)
  present := by
    rintro m ⟨r, used, member⟩
    obtain ⟨registry, here⟩ := Registry.mem_mappers.mp member
    obtain ⟨bound, mappers⟩ := starts.mappers used
    obtain ⟨index, _⟩ := List.getElem?_eq_some_iff.mp here
    exact ⟨registry ▸ bound, by rw [registry, mappers, List.length_map]; exact index⟩
  justified := by
    rintro m ⟨r, used, member⟩
    obtain ⟨registry, here⟩ := Registry.mem_mappers.mp member
    -- Nothing is remembered at the start, so nothing has to be justified.
    have state : m.stateIn w.registries = {} := by
      rw [Mapper.stateIn, registry, (starts.mappers used).2, List.getD_eq_getElem?_getD,
        List.getElem?_map, here]
      rfl
    rw [state]
    exact ⟨fun _ => rfl, fun _ bound => (by cases bound), fun _ bound => (by cases bound),
      fun _ bound => (by cases bound)⟩

/-! ## What is skipped -/

section
variable (distinct : ∀ r s, registries r → registries s → r.id = s.id → r = s)

include distinct in
theorem Registry.distinct_serve : Mapper.Distinct (Registry.Serve registries) := by
  rintro m other ⟨r, used, member⟩ ⟨s, used', member'⟩
  by_cases apart : m.Other other
  · exact .inl apart
  · obtain ⟨registry, index⟩ := Prod.mk.inj (not_not.mp apart)
    rw [(mem_mappers.mp member).1, (mem_mappers.mp member').1] at registry
    have same := distinct s r used' used registry
    subst same
    exact .inr (congrArg Mapper.plan (mapper_unique member member' index))

variable (lower : ∀ r, registries r → ∀ m ∈ r.mappers, m.plan.Lower) {d : Deployment} (apart : d.Apart)
include distinct lower apart

theorem World.Safe.keeps_act {op : Session α} (act : Session.Act registries d.names op) :
    Keeps (World.Safe (Registry.Serve registries) d) op := by
  have separate := Registry.distinct_serve distinct
  have below {m : Mapper} (serves : Registry.Serve registries m) : m.plan.Lower := by
    obtain ⟨r, used, member⟩ := serves
    exact lower r used m member
  -- Only the acts that name a database ask for a name that the context may use.
  cases act with
  | report e => exact (Safe.governs apart 0).reports e
  | request => exact fun _ safe => safe.alike ⟨rfl, fun _ => rfl, rfl⟩
  | find serves => exact Safe.keeps_contextId separate serves
  | prepare serves => exact Safe.keeps_prepare apart separate serves (below serves)
  | query serves query => exact (Safe.bears apart separate serves (below serves)).queries query
  | write serves write => exact (Safe.bears apart separate serves (below serves)).writes write
  | reset serves => exact Safe.keeps_reset apart separate serves
  | control id s => exact (Safe.governs apart id).controls s
  | opens id => exact Safe.opens apart id
  | closes id => exact (Safe.governs apart id).closes
  | rename id name named =>
    intro w safe
    refine safe.settings apart (fun _ => rfl) (fun _ => rfl) (fun _ => rfl) fun other may => ?_
    rcases may with override | rest
    · exact named other override
    · exact (safe.sites id).named other (.inr rest)
  | turn id user named =>
    intro w safe
    refine safe.settings apart (fun _ => rfl) (fun _ => rfl) (fun _ => rfl) fun other may => ?_
    rcases may with override | configured | ⟨_, known, rfl⟩
    · exact (safe.sites id).named other (.inl override)
    · exact (safe.sites id).named other (.inr (.inl configured))
    · cases known
      exact named
  | delete id => exact Safe.deletes apart

end

/-- Skipping a migration is safe.  For all registries with numbers of their own whose names are
    identifiers in lower case, where no file belongs to two contexts, and whatever is done with them: a
    mapper that takes its table to be up to date on the open connection has the table there, with every
    column of its plan, and has it still if the transaction is rolled back; and an operation of a mapper
    does not run, or it runs where that is so. -/
theorem World.skips_safely (distinct : ∀ r s, registries r → registries s → r.id = s.id → r = s)
    (lower : ∀ r, registries r → ∀ m ∈ r.mappers, m.plan.Lower)
    (apart : (start.deployment names).Apart) (starts : start.Starts registries names) :
    (∀ {α : Type} {run : Session α}, Session.Run registries names run →
        Keeps (Reached registries names start) run)
      ∧ ∀ w, Reached registries names start w → ∀ r, registries r → ∀ m ∈ r.mappers,
        (∀ id, m.On id w.bindings → (w.context id).connection.isSome = true →
          (m.stateIn w.registries).migrated = (w.context id).generation →
            ∃ h, w.handleOf id = some h ∧ m.plan.StandsIn h.current
              ∧ m.plan.StandsIn h.rollback.2.current)
        ∧ ((∃ failure v, ∀ {α : Type} (op : Nat → Session α),
              (m.withTable op).outcome w = (.error failure, v))
          ∨ ∃ id v db, v.seen id = some db ∧ m.plan.StandsIn db
            ∧ ∀ {α : Type} (op : Nat → Session α), (m.withTable op).outcome w = (op id).outcome v) := by
  refine ⟨fun made => .run made, fun w reached r used m member => ?_⟩
  have serves : Registry.Serve registries m := ⟨r, used, member⟩
  have safe : w.Safe (Registry.Serve registries) (start.deployment names) :=
    reached.keeps (fun act => Safe.keeps_act distinct lower apart act) starts.safe
  constructor
  · intro id on opened current
    have justified := safe.justified m serves
    -- A mapper that is bound to no context has no connection to rely on.
    have bound : (m.stateIn w.registries).bound = some id := by
      refine on.resolve_right fun unbound => ?_
      have counted := (safe.sites id).counted opened
      rw [← current, justified.unbound unbound.1] at counted
      cases counted
    obtain ⟨h, here, stands⟩ := justified.current id bound opened current
    exact ⟨h, here, stands _ h.current_snapshots,
      stands _ (h.rollback_snapshots (Handle.current_snapshots _))⟩
  · rcases safe.outcome_withTable apart (Registry.distinct_serve distinct) serves (lower r used m member) with
      ⟨failure, v, _, failed⟩ | ⟨id, v, h, _, here, stands, ran⟩
    · exact .inl ⟨failure, v, failed⟩
    · exact .inr ⟨id, v, h.current, by rw [seen, here]; rfl, stands, ran⟩

/-- A registry saves to its table in a transaction, and a second one with a further column then migrates
    the table. -/
theorem World.skipped_labelled :
    (Registry.labelledWorld.deployment fun _ _ => True).Apart
      ∧ Registry.labelledWorld.Starts (· ∈ [Registry.moments, Registry.labelledMoments]) (fun _ _ => True)
      ∧ ∃ w, Reached (· ∈ [Registry.moments, Registry.labelledMoments]) (fun _ _ => True)
            Registry.labelledWorld w
          ∧ (Registry.labelledMapper.stateIn w.registries).migrated = (w.context 0).generation
          ∧ ∃ h, w.handleOf 0 = some h ∧ Registry.labelledMapper.plan.StandsIn h.current
            ∧ Registry.labelledMapper.plan.StandsIn h.rollback.2.current := by
  have listed : ∀ r ∈ [Registry.moments, Registry.labelledMoments],
      r = Registry.moments ∨ r = Registry.labelledMoments := by simp
  have contexts : Registry.labelledWorld.contexts = [.ofConfig {}] := rfl
  have apart : (Registry.labelledWorld.deployment fun _ _ => True).Apart := by
    -- A context in memory has no file.
    rintro i j path ⟨name, _, place⟩ _
    have memory : (Registry.labelledWorld.context i).config.storage = .memory := by
      rw [World.context, contexts]
      cases i <;> rfl
    rw [ContextConfig.placeOf?, World.deployment, memory] at place
    cases place
  have starts : Registry.labelledWorld.Starts (· ∈ [Registry.moments, Registry.labelledMoments])
      (fun _ _ => True) := by
    refine ⟨fun id => ?_, fun _ _ _ => trivial, fun path db stored => ?_, fun r used => ?_,
      fun r used => ?_⟩
    · rw [World.context, contexts]
      cases id <;> rfl
    · have empty : Registry.labelledWorld.stored path = some {} := rfl
      cases empty.symm.trans stored
      exact .empty
    · rcases listed r used with rfl | rfl <;> decide
    · rcases listed r used with rfl | rfl <;> rfl
  have distinct : ∀ r s, r ∈ [Registry.moments, Registry.labelledMoments] →
      s ∈ [Registry.moments, Registry.labelledMoments] → r.id = s.id → r = s := by
    intro r s used used' same
    rcases listed r used with rfl | rfl <;> rcases listed s used' with rfl | rfl <;>
      first | rfl | cases same
  have lower : ∀ r ∈ [Registry.moments, Registry.labelledMoments], ∀ m ∈ r.mappers, m.plan.Lower := by
    intro r used m member
    rcases listed r used with rfl | rfl <;> cases List.mem_singleton.mp member <;>
      exact ⟨⟨by decide, by decide⟩, by decide, by decide⟩
  obtain ⟨runs, skips⟩ := skips_safely distinct lower apart starts
  have reached := runs (.bind (.update 0 (.operation ⟨_, .head _, .head _⟩ (.save Registry.firstMoment)))
    fun _ => .operation ⟨_, .tail _ (.head _), .head _⟩ .prepare) _ .start
  exact ⟨apart, starts, _, reached, by decide +kernel,
    (skips _ reached _ (.tail _ (.head _)) Registry.labelledMapper (.head _)).1 0
      (.inl (by decide +kernel)) (by decide +kernel) (by decide +kernel)⟩

end EntityStore
