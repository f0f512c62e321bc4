import EntityStore.Proofs.Mapper.Text
import EntityStore.Proofs.Sql.Spelling
import EntityStore.Proofs.Store.Scene

/-! # Statements in scenes

What the statements of an open context make of a scene:

* `Session.yields_execute`, `Session.yields_control` — one program, and one step of a transaction.
* `Session.yields_prepareCached` — a text that the engine reads and prepares.
* `Session.keeps_query` — a query, whatever stands in its text, changes nothing.
-/

namespace EntityStore

open EntityStore.Engine (Database Handle Lock Program Outcome)
open EntityStore.Sql (Datum Statement Parsed)

/-! ## Queries -/

/-- A program that neither changes anything nor leaves anything changed when it stops. -/
def Engine.Program.Asks (p : Program) : Prop :=
  p.writes = false ∧ ∀ parameters db stop, p.run parameters db = .error stop → stop.effect = .undo

theorem Engine.query_asks (q : Engine.Query) : q.program.Asks := by
  refine ⟨rfl, fun parameters db stop stopped => ?_⟩
  simp only [Query.program] at stopped
  cases ran : q.run parameters db with
  | ok rows => rw [ran] at stopped; cases stopped
  | error fault => rw [ran] at stopped; cases stopped; rfl

variable {s : Scene} {w : World} {id : Nat} {h next : Handle} {α : Type}

theorem prepareText_parsed {db : Database} {text : String} {statement : Statement} {n : Nat}
    {program : Option Program}
    (parsed : Sql.parse (Sql.tokens text.toList) = .ok (some ⟨statement, n, []⟩))
    (prepared : db.prepare statement = .ok program) (again : Bool) :
    prepareText db text again = .ok (some {
      statement := statement, program := program, parameters := n
      rest := textAfter (Sql.lexemes text.toList) 0 }) := by
  change Sql.parse ((Sql.lexemes text.toList).map (·.token)) = _ at parsed
  simp only [prepareText, parsed, prepared]
  rfl

/-! ## Connections -/

theorem World.Shows.others_nil (shows : w.Shows s) (here : s.handles id = some h) {c : Connection}
    (opened : (w.context id).connection = some c) : w.others id c = [] := by
  have file := (shows.site here).file c opened
  rw [World.others]
  cases own : c.file? with
  | none => rfl
  | some path =>
    rw [own] at file
    dsimp only
    -- There are no guests, and no other context is on the same file.
    rw [World.othersOn, shows.guests, List.filter_nil, List.map_nil, List.nil_append,
      List.filterMap_eq_nil_iff]
    intro pair member
    obtain ⟨context, other⟩ := pair
    have there : w.context other = context := by
      rw [World.context, List.getD_eq_getElem?_getD, List.mem_zipIdx_iff_getElem?.mp member]
      rfl
    dsimp only
    split
    · rfl
    · next apart =>
      have away := shows.apart here file.symm apart
      rw [World.fileOf, there] at away
      cases connected : context.connection with
      | none => rfl
      | some d =>
        rw [connected] at away
        exact if_neg fun same => away (congrArg some same)

theorem World.Shows.connected (shows : w.Shows s) (here : s.handles id = some h)
    (opened : (s.lives id).2 = true) :
    ∃ c, (w.context id).connection = some c ∧ w.handle? c = some h := by
  have life := congrArg Prod.snd (shows.lives id)
  rw [opened, Option.isSome_iff_exists] at life
  obtain ⟨c, connection⟩ := life
  have standing := (shows.site here).standing
  rw [World.standing, connection] at standing
  exact ⟨c, connection, standing⟩

theorem World.Shows.putHandle (shows : w.Shows s) (here : s.handles id = some h) {c : Connection}
    (opened : (w.context id).connection = some c) (next : Handle) :
    (w.putHandle id c next).Shows (s.put id next) := by
  have file := (shows.site here).file c opened
  obtain ⟨connection, context, same, found⟩ := World.context_putHandle opened next
  have life : (((w.putHandle id c next).context id).generation,
      ((w.putHandle id c next).context id).connection.isSome) = s.lives id := by
    rw [context, ← shows.lives id, opened]
    rfl
  -- What is written goes to the connection or to its own file.
  have turned : World.Turn id (s.places id) w (w.putHandle id c next) := by
    refine ⟨rfl, rfl, List.length_modify .., fun j apart => ?_, by rw [context]; rfl, ?_, ?_, ?_⟩
    · simp [World.context, World.putHandle, List.getD_eq_getElem?_getD, Ne.symm apart]
    · intro path other
      cases kept : c.backing with
      | memory image => simp [World.putHandle, kept]
      | file own =>
        have mine : c.file? = some own := by rw [Connection.file?, kept]
        rw [mine] at file
        have apart : path ≠ own := fun same => other (by rw [← file, same])
        simp [World.putHandle, kept, Disk.file?_write, apart]
    · intro path listed
      cases kept : c.backing with
      | memory image => exact .inl (by simpa [World.putHandle, kept] using listed)
      | file own => exact .inl (by simpa [World.putHandle, kept, Disk.write] using listed)
    · intro path listed
      cases kept : c.backing with
      | memory image => simpa [World.putHandle, kept] using listed
      | file own => simpa [World.putHandle, kept, Disk.write] using listed
  have standing : (w.putHandle id c next).standing id = some next := by
    rw [World.standing, context]
    exact found
  have shown := shows.turn here turned standing (fun d connected => by
    rw [context] at connected
    cases connected
    rw [same, file]) shows.registries rfl life
  have lives : Function.update s.lives id (s.lives id) = s.lives := Function.update_eq_self ..
  rw [lives] at shown
  exact shown

/-- A change of the world that neither the disk nor the contexts are part of. -/
theorem World.Shows.congr {v : World} (shows : w.Shows s) (disk : v.disk = w.disk)
    (contexts : v.contexts = w.contexts) (faults : v.faults = w.faults) (guests : v.guests = w.guests)
    (groups : v.groups = w.groups) : v.Shows { s with registries := v.registries } := by
  have context (j : Nat) : v.context j = w.context j := by rw [World.context, contexts, World.context]
  refine ⟨faults.trans shows.faults, guests.trans shows.guests, rfl, groups.trans shows.groups,
    fun j => by rw [context]; exact shows.lives j, fun {j k} there => ?_, fun {j k i path} there own apart => ?_,
    shows.separate, fun {i j h k path directory} first second own storage => ?_⟩
  · have site := shows.site there
    refine ⟨contexts ▸ site.bound, (context j).symm ▸ site.located,
      World.standing_congr site (context j) fun path _ => by rw [disk], (context j).symm ▸ site.file,
      fun directory storage => ?_⟩
    rw [context] at storage
    obtain ⟨path, own, reachable⟩ := site.reachable directory storage
    exact ⟨path, own, reachable.named, disk ▸ reachable.file, disk ▸ reachable.inside,
      disk ▸ reachable.outer⟩
  · rw [World.fileOf, context]
    exact shows.apart there own apart
  · rw [context] at storage
    exact shows.clear first second own storage

theorem World.Shows.aside {v : World} (shows : w.Shows s) (disk : v.disk = w.disk)
    (contexts : v.contexts = w.contexts) (faults : v.faults = w.faults) (guests : v.guests = w.guests)
    (groups : v.groups = w.groups) (registries : v.registries = w.registries) : v.Shows s := by
  have same := shows.congr disk contexts faults guests groups
  rw [registries, shows.registries] at same
  exact same

/-! ## Empty texts -/

theorem text_empty {text : String} (length : text.length = 0) : text = "" :=
  String.toList_injective (List.length_eq_zero_iff.mp ((String.length_toList ..).trans length))

theorem prepareText_empty (db : Database) (again : Bool) : prepareText db "" again = .ok none := by
  have tokens : (Sql.lexemes "".toList).map (·.token) = [] := Sql.tokens_nil
  simp only [prepareText, tokens]
  rfl

namespace Session

/-! ## Steps of the engine -/

theorem outcome_onHandle_shows (shows : w.Shows s) (here : s.handles id = some h)
    (opened : (s.lives id).2 = true) (step : List Lock → Handle → Except Refusal α × Handle) :
    ∃ v, (onHandle id step).outcome w = ((step [] h).1.mapError Refusal.toFailure, v)
      ∧ v.Shows (s.put id (step [] h).2) := by
  obtain ⟨c, connection, found⟩ := shows.connected here opened
  have done := outcome_onHandle connection found step
  rw [shows.others_nil here connection] at done
  exact ⟨_, done, shows.putHandle here connection _⟩

theorem yields_report (e : Event) : Yields (World.Shows s) (report e) () (World.Shows s) :=
  .change fun _ shows => shows.aside rfl rfl rfl rfl rfl rfl

theorem yields_nextFault {kind : Bool → Faults → Nat → Option Refusal}
    (never : ∀ idle n, kind idle {} n = none) :
    Yields (World.Shows s) (nextFault id kind) none (World.Shows s) := by
  intro w shows
  have counted := outcome_nextFault id kind w
  rw [shows.faults, never] at counted
  exact ⟨_, counted, shows.aside rfl rfl shows.faults.symm rfl rfl rfl⟩

theorem yields_countStatement : Yields (World.Shows s) (countStatement id) () (World.Shows s) := by
  intro w shows
  have counted := outcome_countStatement id w
  have allowed : w.faults.inside (w.isIdle id) w.statements = none := by rw [shows.faults]; rfl
  rw [allowed] at counted
  exact ⟨_, counted, shows.aside rfl rfl rfl rfl rfl rfl⟩

section
variable (here : s.handles id = some h) (opened : (s.lives id).2 = true)
include here opened

theorem yields_onHandle {step : List Lock → Handle → Except Refusal α × Handle} {a : α}
    (steps : step [] h = (.ok a, next)) :
    Yields (World.Shows s) (onHandle id step) a (World.Shows (s.put id next)) := by
  intro w shows
  obtain ⟨v, done, after⟩ := outcome_onHandle_shows shows here opened step
  rw [steps] at done after
  exact ⟨v, done, after⟩

theorem yields_database : Yields (World.Shows s) (database id) h.current (World.Shows s) := by
  have looks : Yields (World.Shows s) (database id) h.current (World.Shows (s.put id h)) :=
    yields_onHandle here opened rfl
  rwa [Scene.put_same here] at looks

theorem yields_isAutocommit :
    Yields (World.Shows s) (isAutocommit id) h.transaction.isNone (World.Shows s) := by
  intro w shows
  obtain ⟨c, connection, found⟩ := shows.connected here opened
  refine ⟨w, ?_, shows⟩
  rw [isAutocommit, outcome_bind_ok (outcome_connection connection), World.handle?_transaction found]
  rfl

theorem yields_execute {p : Program} {parameters : List Datum} {outcome : Outcome}
    (runs : h.run [] p parameters = (.ok outcome, next)) :
    Yields (World.Shows s) (execute id p parameters) outcome (World.Shows (s.put id next)) :=
  .bind yields_countStatement (yields_onHandle here opened runs)

theorem yields_control {statement : Statement} (steps : h.control [] statement = (.ok (), next)) :
    Yields (World.Shows s) (control id statement) () (World.Shows (s.put id next)) := by
  have looks : Yields (World.Shows s) (onHandle id fun _ h => (.ok (mayFail h statement), h))
      (mayFail h statement) (World.Shows s) := by
    have looked : Yields (World.Shows s) (onHandle id fun _ h => (.ok (mayFail h statement), h))
        (mayFail h statement) (World.Shows (s.put id h)) := yields_onHandle here opened rfl
    rwa [Scene.put_same here] at looked
  have unrefused : Yields (World.Shows s) (controlFault id statement) none (World.Shows s) := by
    refine .bind looks ?_
    cases mayFail h statement with
    | true => exact yields_nextFault fun idle n => by cases statement <;> rfl
    | false => exact .pure none
  exact .bind unrefused (yields_onHandle here opened steps)

/-! ## Texts -/

theorem yields_prepare {text : String} {again : Bool} {prepared : Option Prepared}
    (read : prepareText h.current text again = .ok prepared) :
    Yields (World.Shows s) (prepare id text again) prepared (World.Shows s) := by
  refine .bind (yields_database here opened) ?_
  rw [read]
  exact .pure prepared

theorem keeps_database_shows : Keeps (World.Shows s) (database id) := by
  intro w shows
  obtain ⟨v, done, after⟩ := yields_database here opened w shows
  rw [done]
  exact after

theorem keeps_prepare_shows (text : String) (again : Bool) :
    Keeps (World.Shows s) (prepare id text again) := by
  refine .bind (keeps_database_shows here opened) fun db => ?_
  cases prepareText db text again with
  | ok prepared => exact .pure prepared
  | error r => exact .throw r.toFailure

/-! ## Kept statements -/

omit opened in
theorem yields_modifyKept (f : List String → List String) :
    Yields (World.Shows s) (modifyKept id f) () (World.Shows s) := by
  intro w shows
  let change (context : Context) : Context :=
    { context with connection := context.connection.map fun c => { c with kept := f c.kept } }
  have site := shows.site here
  have context := World.context_changed site.bound change
  have standing : (w.changed id change).standing id = some h := by
    have before := site.standing
    rw [World.standing] at before ⊢
    rw [context]
    cases connected : (w.context id).connection with
    | none =>
      simp only [change, connected, Option.map_none] at before ⊢
      exact before
    | some c =>
      simp only [change, connected, Option.map_some] at before ⊢
      exact before
  have file : ∀ d, (change (w.context id)).connection = some d → d.file? = s.places id := by
    intro d connected
    obtain ⟨c, own, rfl⟩ := Option.map_eq_some_iff.mp connected
    exact site.file c own
  have life : ((change (w.context id)).generation, (change (w.context id)).connection.isSome) =
      s.lives id := by
    rw [← shows.lives id]
    simp [change]
  have handles : Function.update s.handles id (some h) = s.handles := by
    rw [← here, Function.update_eq_self]
  have settings : ∀ context, (change context).settings = context.settings := fun _ => rfl
  have shown := shows.changed here settings standing file
  rw [life, handles, Function.update_eq_self] at shown
  exact ⟨_, rfl, shown⟩

/-- A text without blanks at its ends that the engine reads, prepared and kept for later. -/
theorem yields_prepareCached {text : String} {p : Prepared} (solid : Text.trim text = text)
    (read : ∀ again, prepareText h.current text again = .ok (some p)) :
    Yields (World.Shows s) (prepareCached id text) p (World.Shows s) := by
  intro w shows
  obtain ⟨c, connection, found⟩ := shows.connected here opened
  have one : Yields (World.Shows s) (prepareOne id text (c.kept.contains text)) p (World.Shows s) :=
    .bind (yields_prepare here opened (read _)) (.pure p)
  have kept : Yields (World.Shows s) (do
      let p ← prepareOne id text (c.kept.contains text)
      modifyKept id fun kept => (text :: kept.erase text).take keptStatements
      return p) p (World.Shows s) :=
    .bind one (.bind (yields_modifyKept here _) (.pure p))
  obtain ⟨v, done, after⟩ := kept w shows
  refine ⟨v, ?_, after⟩
  rw [prepareCached, outcome_bind_ok (outcome_connection connection)]
  simp only [solid]
  exact done

theorem keeps_prepareCached_shows (text : String) :
    Keeps (World.Shows s) (prepareCached id text) := by
  intro w shows
  obtain ⟨c, connection, found⟩ := shows.connected here opened
  rw [prepareCached, outcome_bind_ok (outcome_connection connection)]
  have one : Keeps (World.Shows s) (prepareOne id (Text.trim text) (c.kept.contains (Text.trim text))) := by
    refine .bind (keeps_prepare_shows here opened _ _) fun prepared => ?_
    cases prepared with
    | some p => exact .pure p
    | none => exact .throw _
  have keeps (f : List String → List String) : Keeps (World.Shows s) (modifyKept id f) := by
    intro w shows
    obtain ⟨v, done, after⟩ := yields_modifyKept here f w shows
    rw [done]
    exact after
  exact (Keeps.bind one fun p => .bind (keeps _) fun _ => .pure p) w shows

/-! ## Prepared statements -/

theorem yields_runWith {p : Prepared} {program : Program} {parameters : List Datum}
    {outcome : Outcome} (prepares : p.program = some program)
    (counted : p.parameters = parameters.length)
    (runs : h.run [] program parameters = (.ok outcome, next)) :
    Yields (World.Shows s) (runWith id p parameters) outcome (World.Shows (s.put id next)) := by
  have enough : Yields (World.Shows s) (checkParameters p.parameters parameters.length) ()
      (World.Shows s) := by
    rw [checkParameters, if_pos counted.symm]
    exact .pure ()
  refine .bind enough ?_
  rw [prepares]
  exact yields_execute here opened runs

/-- A text with one statement and nothing after it. -/
theorem yields_executeBatch {text : String} {p : Prepared} {program : Program} {outcome : Outcome}
    (read : prepareText h.current text false = .ok (some p)) (alone : p.rest = "")
    (prepares : p.program = some program)
    (runs : h.run [] program [] = (.ok outcome, next)) :
    Yields (World.Shows s) (executeBatch id text) () (World.Shows (s.put id next)) := by
  rw [executeBatch]
  cases length : text.length with
  | zero =>
    rw [text_empty length, prepareText_empty] at read
    cases read
  | succ count =>
    rw [executeUpTo]
    have ran : Yields (World.Shows s) (runPrepared id p) () (World.Shows (s.put id next)) := by
      rw [runPrepared, prepares]
      exact .bind (yields_execute here opened runs) (.pure ())
    refine .bind (yields_prepare here opened read) (.bind ran ?_)
    rw [alone]
    exact .pure ()

end

/-! ## Databases that connections see -/

end Session

structure Engine.Handle.Sees (h : Handle) (alone : Bool) (db : Database) : Prop where
  isAutocommit : h.isAutocommit = alone
  current : h.current = db

/-- A program that runs while nobody is in the way opens no transaction and ends none. -/
theorem Engine.Handle.Sees.run {alone : Bool} {db : Database} (sees : h.Sees alone db) {p : Program}
    {parameters : List Datum} {outcome : Outcome} (runs : p.run parameters db = .ok outcome) :
    ∃ next, h.run [] p parameters = (.ok outcome, next)
      ∧ next.Sees alone (if p.writes then outcome.database else db) := by
  obtain ⟨rfl, rfl⟩ := sees
  cases opened : h.transaction with
  | none =>
    have same : h.current = h.image := by simp only [Handle.current, opened]; rfl
    rw [same] at runs ⊢
    simp only [Handle.run, opened, Handle.runAlone, mayWrite, mayRead, mayCommit, List.all_nil, ite_self,
      Bool.not_true, Bool.false_eq_true, ↓reduceIte, runs]
    cases p.writes with
    | true => exact ⟨_, rfl, by simp only [Handle.isAutocommit, opened], by simp [Handle.current]⟩
    | false => exact ⟨_, rfl, rfl, same⟩
  | some t =>
    have same : t.changed.getD h.image = h.current := by simp only [Handle.current, opened]; rfl
    simp only [Handle.run, opened, Handle.runWithin, mayWrite, mayRead, List.all_nil, Bool.or_true, ite_self,
      Bool.not_true, Bool.false_eq_true, ↓reduceIte, runs]
    cases p.writes with
    | true => exact ⟨_, rfl, by simp only [Handle.isAutocommit, opened]; rfl, rfl⟩
    | false => exact ⟨_, rfl, by simp only [Handle.isAutocommit, opened]; rfl, same⟩

/-- Whatever a query comes to, the database is as it was. -/
theorem Engine.Handle.Sees.ask {alone : Bool} {db : Database} (sees : h.Sees alone db) {p : Program}
    (asks : p.Asks) (parameters : List Datum) : (h.run [] p parameters).2.Sees alone db := by
  obtain ⟨rfl, rfl⟩ := sees
  cases opened : h.transaction with
  | none =>
    have same : (h.run [] p parameters).2 = h := by
      simp only [Handle.run, opened, Handle.runAlone, asks.1, mayRead, List.all_nil, Bool.not_true,
        Bool.false_eq_true, ↓reduceIte]
      cases ran : p.run parameters h.image with
      | ok outcome => rfl
      | error stop => simp only [asks.2 _ _ _ ran]
    rw [same]
    exact ⟨rfl, rfl⟩
  | some t =>
    have same : t.changed.getD h.image = h.current := by simp only [Handle.current, opened]; rfl
    simp only [Handle.run, opened, Handle.runWithin, asks.1, mayRead, List.all_nil, Bool.or_true,
      Bool.not_true, Bool.false_eq_true, ↓reduceIte]
    exact ⟨by simp only [Handle.isAutocommit, opened]; rfl, same⟩

def World.Sees (s : Scene) (id : Nat) (alone : Bool) (db : Database) (w : World) : Prop :=
  ∃ h : Handle, h.Sees alone db ∧ w.Shows (s.put id h)

theorem Engine.Handle.Sees.refuse {alone : Bool} {db : Database} (sees : h.Sees alone db) {q : Engine.Query}
    {parameters : List Datum} {fault : Engine.Fault} (stops : q.run parameters db = .error fault) :
    (h.run [] q.program parameters).1 = .error ⟨fault.code, fault.text, false⟩ := by
  obtain ⟨rfl, rfl⟩ := sees
  have stopped : q.program.run parameters h.current = .error { fault := fault } := by
    simp only [Query.program, stops]
    rfl
  have reads : q.program.writes = false := rfl
  cases opened : h.transaction with
  | none =>
    have same : h.current = h.image := by simp only [Handle.current, opened]; rfl
    rw [same] at stopped
    simp only [Handle.run, opened, Handle.runAlone, reads, mayRead, List.all_nil, Bool.not_true,
      Bool.false_eq_true, ↓reduceIte, stopped]
  | some t =>
    simp only [Handle.run, opened, Handle.runWithin, reads, mayRead, List.all_nil, Bool.or_true,
      Bool.not_true, Bool.false_eq_true, ↓reduceIte, stopped]
    rfl

namespace Session

section
variable {alone : Bool} {db : Database} (opened : (s.lives id).2 = true)
include opened

theorem yields_query {p : Prepared} {program : Program} {parameters : List Datum}
    {outcome : Outcome} (prepares : p.program = some program)
    (counted : p.parameters = parameters.length) (reads : program.writes = false)
    (runs : program.run parameters db = .ok outcome) :
    Yields (World.Sees s id alone db) (runWith id p parameters) outcome (World.Sees s id alone db) := by
  rintro w ⟨h, sees, shows⟩
  obtain ⟨next, ran, after⟩ := sees.run runs
  rw [reads, if_neg (by simp)] at after
  obtain ⟨v, done, shown⟩ :=
    yields_runWith (s.put_handles id h) opened prepares counted ran w shows
  rw [Scene.put_put] at shown
  exact ⟨v, done, next, after, shown⟩

theorem refuses_query {p : Prepared} {q : Engine.Query} {parameters : List Datum} {fault : Engine.Fault}
    (prepares : p.program = some q.program) (counted : p.parameters = parameters.length)
    (stops : q.run parameters db = .error fault) :
    Refuses (World.Sees s id alone db) (runWith id p parameters)
      (Refusal.toFailure ⟨fault.code, fault.text, false⟩) (World.Sees s id alone db) := by
  have enough : Yields (World.Sees s id alone db) (checkParameters p.parameters parameters.length) ()
      (World.Sees s id alone db) := by
    rw [checkParameters, if_pos counted.symm]
    exact .pure ()
  refine enough.bind_refuses ?_
  rw [prepares]
  rintro w ⟨h, sees, shows⟩
  obtain ⟨u, allowed, between⟩ := yields_countStatement w shows
  obtain ⟨v, done, after⟩ := outcome_onHandle_shows between (s.put_handles id h) opened
    fun others h => h.run others q.program parameters
  rw [sees.refuse stops] at done
  rw [Scene.put_put] at after
  exact ⟨v, (outcome_bind_ok allowed _).trans done, _, sees.ask (Engine.query_asks q) parameters, after⟩

theorem yields_write {p : Prepared} {program : Program} {parameters : List Datum}
    {outcome : Outcome} (prepares : p.program = some program)
    (counted : p.parameters = parameters.length) (writes : program.writes = true)
    (runs : program.run parameters db = .ok outcome) :
    Yields (World.Sees s id alone db) (runWith id p parameters) outcome
      (World.Sees s id alone outcome.database) := by
  rintro w ⟨h, sees, shows⟩
  obtain ⟨next, ran, after⟩ := sees.run runs
  rw [writes, if_pos rfl] at after
  obtain ⟨v, done, shown⟩ :=
    yields_runWith (s.put_handles id h) opened prepares counted ran w shows
  rw [Scene.put_put] at shown
  exact ⟨v, done, next, after, shown⟩

/-- Whatever a query comes to, it changes nothing. -/
theorem keeps_query {p : Prepared} {program : Program} (prepares : p.program = some program)
    (asks : program.Asks) (parameters : List Datum) :
    Keeps (World.Sees s id alone db) (runWith id p parameters) := by
  refine .bind ?_ fun _ => ?_
  · rw [checkParameters]
    split
    · exact .pure _
    · exact .throw _
  · rw [prepares]
    refine .bind ?_ fun _ => ?_
    · rintro w ⟨h, sees, shows⟩
      obtain ⟨v, done, after⟩ := yields_countStatement w shows
      rw [done]
      exact ⟨h, sees, after⟩
    · rintro w ⟨h, sees, shows⟩
      obtain ⟨v, done, after⟩ := outcome_onHandle_shows shows (s.put_handles id h) opened
        fun others h => h.run others program parameters
      rw [done]
      rw [Scene.put_put] at after
      exact ⟨_, sees.ask asks parameters, after⟩

/-- A statement that is kept for later, on the database that is seen. -/
theorem yields_cached {text : String} {p : Prepared} (solid : Text.trim text = text)
    (read : ∀ again, prepareText db text again = .ok (some p)) :
    Yields (World.Sees s id alone db) (prepareCached id text) p (World.Sees s id alone db) := by
  rintro w ⟨h, sees, shows⟩
  obtain ⟨v, done, shown⟩ := yields_prepareCached (s.put_handles id h) opened solid
    (fun again => sees.current ▸ read again) w shows
  exact ⟨v, done, h, sees, shown⟩

theorem keeps_cached (text : String) : Keeps (World.Sees s id alone db) (prepareCached id text) := by
  rintro w ⟨h, sees, shows⟩
  exact ⟨h, sees, keeps_prepareCached_shows (s.put_handles id h) opened text w shows⟩

end

theorem gives_prepareCached_select {P : World → Prop} {text : String}
    (starts : StartsWith "select" text) :
    Gives P (fun p => ∃ program, p.program = some program ∧ program.Asks) (prepareCached id text) := by
  have asks {db : Database} {again : Bool} {p : Prepared}
      (read : prepareText db (Text.trim text) again = .ok (some p)) :
      ∃ program, p.program = some program ∧ program.Asks := by
    obtain ⟨following, tokens⟩ := starts.tokens_trim (by decide) (by decide)
    simp only [prepareText] at read
    split at read
    · cases read
    · cases read
    · next parsed found =>
      change Sql.parse (Sql.tokens (Text.trim text).toList) = _ at found
      rw [tokens] at found
      obtain ⟨q, d, same, selects⟩ := Sql.parse_eq_ok (by simp) found
      cases same
      rw [Sql.readStatement_select] at selects
      obtain ⟨select, _, statement⟩ := Sql.run_map_eq_ok selects
      split at read
      · cases read
      · next program prepares =>
        cases read
        rw [← statement, Engine.Database.prepare] at prepares
        cases query : db.query select with
        | error fault => rw [query] at prepares; cases prepares
        | ok found => rw [query] at prepares; cases prepares; exact ⟨_, rfl, Engine.query_asks found⟩
  intro w p v _ done
  -- The text is read only once there is a connection and its database can be seen.
  rw [prepareCached, outcome_bind] at done
  rcases connected : (connection id).outcome w with ⟨result, u⟩
  rw [connected] at done
  cases result with
  | error failure => cases done
  | ok c =>
    dsimp only at done
    rw [prepareOne, prepare, outcome_bind, outcome_bind, outcome_bind] at done
    rcases looked : (database id).outcome u with ⟨seen, x⟩
    rw [looked] at done
    cases seen with
    | error failure => cases done
    | ok db =>
      dsimp only at done
      cases read : prepareText db (Text.trim text) (c.kept.contains (Text.trim text)) with
      | error r => rw [read] at done; cases done
      | ok prepared =>
        rw [read] at done
        cases prepared with
        | none => cases done
        | some found =>
          cases done
          exact asks read

end Session

end EntityStore
