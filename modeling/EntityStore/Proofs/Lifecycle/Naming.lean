import EntityStore.Proofs.Lifecycle.Continuing

/-! # Which database a context is on

The name of the database of a context follows from the calls that have named it, and whenever the
context is open its connection is on the file of that name:

* `NamedFile` — the path of the file of a name in a directory, which is no URI.
* `Naming`, `databaseName` — calls that name databases, and the name that they leave.
* `Session.Call`, `Session.Traces` — the calls of an application, and the moments that a run of it
  comes to.
* `Session.Roams` — what an application does, made of calls and write transactions.
* `World.Course` — how the connection of a context goes on from moment to moment.
* `World.OnNamed`, `World.Named`, `World.Lasts` — what holds at every moment, and between two of them.
-/

namespace EntityStore

open Session (Keeps)
open World (Continues Onward Opening Deleting)

/-! ## Paths -/

namespace Text

variable {sep : Char}

theorem splitChars_ne_nil (sep : Char) (cs : List Char) : splitChars sep cs ≠ [] := by
  cases cs with
  | nil => nofun
  | cons c rest =>
    rw [splitChars]
    split
    · nofun
    · split <;> nofun

theorem splitChars_append (a b : List Char) :
    splitChars sep (a ++ sep :: b) = splitChars sep a ++ splitChars sep b := by
  induction a with
  | nil => simp [splitChars]
  | cons c rest ih =>
    rw [List.cons_append, splitChars, splitChars, ih]
    split
    · rfl
    · cases pieces : splitChars sep rest with
      | nil => exact absurd pieces (splitChars_ne_nil sep rest)
      | cons piece pieces => rfl

end Text

/-- Names without characters lead nowhere. -/
theorem normalize_nameless (a b : List String) : normalize (a ++ "" :: b) = normalize (a ++ b) := by
  simp [normalize, List.foldl_append]

theorem pathParts_append {path : String} {a b : List Char} (path_eq : path.toList = a ++ '/' :: b) :
    pathParts path = normalize ((Text.splitChars '/' a).map String.ofList
      ++ (Text.splitChars '/' b).map String.ofList) := by
  rw [pathParts, Text.splitAt, path_eq, Text.splitChars_append, List.map_append]

theorem pathParts_joinPath {directory file : String} (relative : file.toList.head? ≠ some '/') :
    pathParts (joinPath directory file) = pathParts (directory ++ "/" ++ file) := by
  have root : "/".toList.isPrefixOf file.toList = false := by
    change ['/'].isPrefixOf file.toList = false
    cases chars : file.toList with
    | nil => rfl
    | cons c rest =>
      have other : '/' ≠ c := fun same => relative (by rw [chars, same]; rfl)
      simp [List.isPrefixOf, other]
  have joined : (directory ++ "/" ++ file).toList = directory.toList ++ '/' :: file.toList := by
    simp [String.toList_append]
  rw [pathParts_append joined, joinPath, root, Bool.false_or]
  -- Where no slash is put in, there is a name without characters before or after the one that is there.
  split
  · next empty =>
    rw [String.isEmpty_iff.mp empty]
    exact (normalize_nameless [] _).symm
  · split
    · next slash =>
      obtain ⟨before, split⟩ := List.getLast?_eq_some_iff.mp slash
      have ended : (directory ++ file).toList = before ++ '/' :: file.toList := by
        simp [String.toList_append, split]
      rw [pathParts_append ended, split, Text.splitChars_append, List.map_append, List.append_assoc]
      exact (normalize_nameless _ _).symm
    · exact pathParts_append joined

/-- The path of the file of a name in a directory, which is no URI.  A name that starts at the root
    stands for a file there, whatever the directory is. -/
structure NamedFile (directory name text : String) : Prop where
  joined : text = joinPath directory (name ++ ".db")
  literal : isUri text = false
  inside : name.toList.head? ≠ some '/' → pathParts text = pathParts (directory ++ "/" ++ name ++ ".db")
  outside : name.toList.head? = some '/' → text = name ++ ".db"

theorem NamedFile.of_joinPath {directory name : String}
    (literal : isUri (joinPath directory (name ++ ".db")) = false) :
    NamedFile directory name (joinPath directory (name ++ ".db")) where
  joined := rfl
  literal := literal
  inside relative := by
    rw [String.append_assoc]
    refine pathParts_joinPath fun root => ?_
    rw [String.toList_append, List.head?_append] at root
    cases chars : name.toList with
    | nil => rw [chars] at root; exact absurd root (by decide)
    | cons c rest => rw [chars] at root relative; exact relative root
  outside root := by
    obtain ⟨rest, chars⟩ := List.head?_eq_some_iff.mp root
    have starts : "/".toList.isPrefixOf (name ++ ".db").toList = true := by
      change ['/'].isPrefixOf (name ++ ".db").toList = true
      simp [String.toList_append, chars, List.isPrefixOf]
    rw [joinPath, starts]
    rfl

example : joinPath "d" ("/x" ++ ".db") = "/x.db" := rfl

theorem not_uri_append {path before after : List Char} (literal : ¬"file:".toList <+: before)
    (split : path = before ++ after) (slash : '/' ∈ before) : ¬"file:".toList <+: path := by
  subst split
  intro starts
  rcases List.prefix_or_prefix_of_prefix starts (List.prefix_append before after) with same | shorter
  · exact literal same
  · exact absurd (shorter.subset slash) (by decide)

theorem isUri_joinPath {directory : String} (named : directory ≠ "") (literal : isUri directory = false)
    (file : String) : isUri (joinPath directory file) = false := by
  have outside : ¬"file:".toList <+: directory.toList := by
    rw [← List.isPrefixOf_iff_prefix]
    exact Bool.eq_false_iff.mp literal
  have full : directory.isEmpty = false := by
    rw [Bool.eq_false_iff, ne_eq, String.isEmpty_iff]
    exact named
  rw [isUri, Bool.eq_false_iff, ne_eq, List.isPrefixOf_iff_prefix, joinPath, full, Bool.or_false]
  split
  · next root =>
    obtain ⟨rest, starts⟩ := List.isPrefixOf_iff_prefix.mp root
    rw [← starts]
    rintro ⟨_, absurd⟩
    cases absurd
  · split
    · next slash =>
      exact not_uri_append outside (String.toList_append ..) (List.mem_of_getLast? slash)
    · have parts : (directory ++ "/" ++ file).toList = directory.toList ++ ['/'] ++ file.toList := by
        simp [String.toList_append]
      refine not_uri_append ?_ parts (by simp)
      rw [List.prefix_concat_iff]
      rintro (same | starts)
      · exact absurd (congrArg List.getLast? same) (by simp)
      · exact outside starts

/-! ## Names -/

/-- A call that names the database of a context. -/
inductive Naming where
  /-- Another database is opened in the place of the configured one. -/
  | named (name : String)
  /-- The context is opened again under its own name. -/
  | reopened
  /-- The context turns to a user. -/
  | user (user : String)

/-- The name in the place of the configured one, if a call decides about it. -/
def Naming.override? : Naming → Option (Option String)
  | .named name => some (some name)
  | .reopened => some none
  | .user _ => none

def Naming.user? : Naming → Option String
  | .user id => some id
  | _ => none

/-- The name that was asked for last, if the context has not been opened under its own since. -/
def lastNamed (calls : List Naming) : Option String := (calls.filterMap Naming.override?).getLast?.join

def lastUser (config : ContextConfig) (calls : List Naming) : Option String :=
  (calls.filterMap Naming.user?).getLast? <|> config.userId

def databaseName (config : ContextConfig) (calls : List Naming) : Option String :=
  lastNamed calls <|> config.name <|> (lastUser config calls).map ("user_" ++ ·)

/-- The path of the database is no URI. -/
def LiteralPath (config : ContextConfig) (calls : List Naming) : Prop :=
  ∀ directory name, config.storage = .directory directory → databaseName config calls = some name →
    isUri (joinPath directory (name ++ ".db")) = false

def settingsAfter (config : ContextConfig) (calls : List Naming) :
    ContextConfig × Option String × Option String :=
  (config, lastNamed calls, lastUser config calls)

/-- The settings after one more call, which may name a database. -/
def renamed (settings : ContextConfig × Option String × Option String) :
    Option Naming → ContextConfig × Option String × Option String
  | none => settings
  | some (.named name) => (settings.1, some name, settings.2.2)
  | some .reopened => (settings.1, none, settings.2.2)
  | some (.user user) => (settings.1, settings.2.1, some user)

theorem settingsAfter_append (config : ContextConfig) (calls : List Naming) (call : Option Naming) :
    settingsAfter config (calls ++ call.toList) = renamed (settingsAfter config calls) call := by
  cases call with
  | none => simp [renamed]
  | some call =>
    cases call <;>
      simp [settingsAfter, renamed, lastNamed, lastUser, Naming.override?, Naming.user?]

theorem Context.name?_of_settings {c : Context} {config : ContextConfig} {calls : List Naming}
    (settings : c.settings = settingsAfter config calls) : c.name? = databaseName config calls := by
  simp only [Context.settings, settingsAfter, Prod.mk.injEq] at settings
  obtain ⟨config, override, user⟩ := settings
  rw [name?, config, override, user, databaseName]

/-! ## Runs -/

namespace Session

/-- What is done on the connections of contexts: operations of mappers, and statements in texts or about
    transactions. -/
inductive Work : {α : Type} → Session α → Prop
  | operation {α : Type} {m : Mapper} {op : Session α} (operation : m.Operation op) : Work op
  | reset (m : Mapper) : Work m.reset
  | batch (id : Nat) (text : String) : Work (withConnection id fun _ => executeBatch id text)
  | control (id : Nat) (s : Sql.Statement) : Work (control id s)

/-- Another call of an application that works with a context, among others, and how it names the
    database of the context.  Files are deleted through the context only. -/
inductive Call (id : Nat) : {α : Type} → Session α → Option Naming → Prop
  | report (e : Event) : Call id (report e) none
  | request : Call id newRequestId none
  | openContext (j : Nat) : Call id (openContext j) none
  | closeContext (j : Nat) : Call id (closeContext j) none
  | forceClose (j : Nat) : Call id (forceClose j) none
  | databasePath (j : Nat) : Call id (databasePath j) none
  | databaseExists (j : Nat) : Call id (databaseExists j) none
  | isOpen (j : Nat) : Call id (isOpen j) none
  | deleteFile : Call id (deleteFile id) none
  | reopen : Call id (reopen id) (some .reopened)
  | openNamed (name : String) : Call id (openNamed id name) (some (.named name))
  | setUser (user : String) : Call id (setUser id user) (some (.user user))
  | reopenOther {j : Nat} (other : id ≠ j) : Call id (Session.reopen j) none
  | openNamedOther {j : Nat} (other : id ≠ j) (name : String) : Call id (Session.openNamed j name) none
  | setUserOther {j : Nat} (other : id ≠ j) (user : String) : Call id (Session.setUser j user) none

/-- A moment of a run: how the call that led to it has named the database, and what the world is
    like. -/
structure Moment where
  call : Option Naming
  world : World

def callsOf (trace : List Moment) : List Naming := trace.filterMap (·.call)

/-- The world at the last moment. -/
def lastWorld (start : World) : List Moment → World
  | [] => start
  | m :: rest => lastWorld m.world rest

/-- The moments that a run comes to in a world: after each call, and after each step on the connections
    of contexts. -/
inductive Traces (id : Nat) : {α : Type} → Session α → World → List Moment → Prop
  | pure {α : Type} (a : α) (w : World) : Traces id (Pure.pure a) w []
  | throw {α : Type} (failure : Failure) (w : World) :
      Traces id (MonadExcept.throw failure : Session α) w []
  | work {α : Type} {op : Session α} {w : World} {worlds : List World} (work : Work op)
      (steps : w.Steps worlds (op.outcome w).2) : Traces id op w (worlds.map (⟨none, ·⟩))
  | call {α : Type} {op : Session α} {naming : Option Naming} (call : Call id op naming) (w : World) :
      Traces id op w [⟨naming, (op.outcome w).2⟩]
  | bind {α β : Type} {op : Session α} {next : α → Session β} {a : α} {w u : World}
      {first rest : List Moment} (done : op.outcome w = (.ok a, u)) (before : Traces id op w first)
      (after : Traces id (next a) u rest) : Traces id (op >>= next) w (first ++ rest)
  | broken {α β : Type} {op : Session α} {next : α → Session β} {failure : Failure} {w u : World}
      {trace : List Moment} (failed : op.outcome w = (.error failure, u)) (before : Traces id op w trace) :
      Traces id (op >>= next) w trace
  | attempt {α : Type} {op : Session α} {w : World} {trace : List Moment}
      (traces : Traces id op w trace) : Traces id (Session.attempt op) w trace
  | annotate {α : Type} (note : Failure → Failure) {op : Session α} {w : World} {trace : List Moment}
      (traces : Traces id op w trace) : Traces id (Session.annotate note op) w trace
  | choose {α : Type} {next : World → Session α} {w : World} {trace : List Moment}
      (traces : Traces id (next w) w trace) : Traces id (MonadState.get >>= next) w trace

/-- What an application does that works with a context: calls, and write transactions around them, one
    after the other, with failures passed on or caught, as it chooses by what the world is like. -/
inductive Roams (id : Nat) : {α : Type} → Session α → Prop
  | pure {α : Type} (a : α) : Roams id (Pure.pure a)
  | throw {α : Type} (failure : Failure) : Roams id (MonadExcept.throw failure : Session α)
  | work {α : Type} {op : Session α} (work : Work op) : Roams id op
  | call {α : Type} {op : Session α} {naming : Option Naming} (call : Call id op naming) : Roams id op
  | bind {α β : Type} {op : Session α} {next : α → Session β} (first : Roams id op)
      (rest : ∀ a, Roams id (next a)) : Roams id (op >>= next)
  | attempt {α : Type} {op : Session α} (roams : Roams id op) : Roams id (Session.attempt op)
  | choose {α : Type} {next : World → Session α} (rest : ∀ w, Roams id (next w)) :
      Roams id (MonadState.get >>= next)
  | update {α : Type} (j : Nat) {block : Session α} (roams : Roams id block) :
      Roams id (Session.update j block)

/-! ### Every run has a trace -/

/-- Wherever it starts, a computation comes to moments. -/
def Traced (id : Nat) (α : Type) (op : Session α) : Prop := ∀ w, ∃ trace, Traces id op w trace

variable {id : Nat} {α β : Type} {op : Session α}

theorem Traced.bind {next : α → Session β} (first : Traced id α op)
    (rest : ∀ a, Traced id β (next a)) : Traced id β (op >>= next) := by
  intro w
  obtain ⟨before, traces⟩ := first w
  rcases ran : op.outcome w with ⟨result, u⟩
  cases result with
  | error failure => exact ⟨before, .broken ran traces⟩
  | ok a =>
    obtain ⟨after, goes_on⟩ := rest a u
    exact ⟨before ++ after, .bind ran traces goes_on⟩

/-- What survives every step of mappers survives what is done on connections. -/
theorem Work.keeps {P : World → Prop} (work : Work op) (endures : Endures P) : Keeps P op := by
  cases work with
  | operation operation => exact endures.operation operation
  | reset m => exact endures.reset m
  | batch j text =>
    exact endures.withConnection j fun _ => (endures.withstands j).executeBatch (fun _ => True)
      (fun _ h p _ _ => ⟨p.allowedAt_true h [], fun _ => trivial⟩) trivial
  | control j s => exact (endures.withstands j).control fun _ _ _ => trivial

theorem Traced.work (work : Work op) : Traced id α op := by
  intro w
  -- That steps have led there from the start is itself what every step keeps.
  obtain ⟨_, steps⟩ := work.keeps (.steps w) w ⟨[], .done w⟩
  exact ⟨_, .work work steps⟩

theorem Traced.call {naming : Option Naming} (call : Call id op naming) : Traced id α op :=
  fun w => ⟨_, .call call w⟩

theorem Traced.transacts (id j : Nat) : Transacts (Traced id) j where
  reports e := .call (.report e)
  opens := .call (.openContext j)
  closes := .call (.forceClose j)
  controls s := .work (.control j s)
  context w := ⟨[], .choose (.pure _ w)⟩
  pure a w := ⟨[], .pure a w⟩
  throw failure w := ⟨[], .throw failure w⟩
  bind := .bind
  attempt traced w := (traced w).imp fun _ => .attempt
  annotate note _ traced w := (traced w).imp fun _ => .annotate note

theorem Roams.traced {run : Session α} (roams : Roams id run) : Traced id α run := by
  induction roams with
  | pure a => exact fun w => ⟨[], .pure a w⟩
  | throw failure => exact fun w => ⟨[], .throw failure w⟩
  | work work => exact .work work
  | call call => exact .call call
  | bind _ _ first rest => exact .bind first rest
  | attempt _ traced => exact fun w => (traced w).imp fun _ => .attempt
  | choose _ rest => exact fun w => (rest w w).imp fun _ => .choose
  | update j _ traced => exact (Traced.transacts id j).update (.call .request) traced

end Session

/-! ## The course of a connection -/

namespace World

variable {id : Nat} {u v w : World} {α : Type} {op : Session α} {naming : Option Naming}

open Session (Call Moment Traces callsOf lastWorld)

/-- Whatever a call does, the connection goes on from it, and the settings say which database it has
    named. -/
theorem onward_of_call (call : Call id op naming) (listed : id < w.contexts.length) :
    Onward id w (op.outcome w).2
      ∧ ((op.outcome w).2.context id).settings = renamed (w.context id).settings naming := by
  have governs (j : Nat) := Continues.governs id j w
  -- What names no database leaves the settings alone.
  have quiet {β : Type} {op : Session β} (kept : Keeps (Continues id w) op) :
      Onward id w (op.outcome w).2
        ∧ ((op.outcome w).2.context id).settings = renamed (w.context id).settings none :=
    have continues := kept w (.refl id w)
    ⟨continues.toOnward, continues.settings⟩
  have beside {j : Nat} (other : id ≠ j) (f : Context → Context) :
      Keeps (Continues id w) (Session.modifyContext j f) :=
    fun v continues => continues.trans (.changed v j fun same => absurd same other)
  cases call with
  | report e => exact quiet ((governs id).reports e)
  | request =>
    exact quiet fun v continues => continues.trans (.aside rfl (fun _ has => has) rfl)
  | openContext j => exact quiet (governs j).opens
  | closeContext j => exact quiet (governs j).closeContext
  | forceClose j => exact quiet (governs j).closes
  | databasePath j => exact quiet (Continues.resolvePath j)
  | databaseExists j => exact quiet (Continues.databaseExists j)
  | isOpen j => exact quiet (.bind (fun _ continues => continues) fun _ => .pure _)
  | deleteFile =>
    obtain ⟨result, v, done, continues, _⟩ := deleteFile_cases id w
    rw [done]
    exact ⟨continues.toOnward, continues.settings⟩
  | reopen =>
    obtain ⟨result, v, done, onward, settings, _⟩ := exchange listed none
    rw [show (Session.reopen id).outcome w = (result, v) from done]
    exact ⟨onward, settings⟩
  | openNamed name =>
    obtain ⟨result, v, done, onward, settings, _⟩ := exchange listed (some name)
    rw [show (Session.openNamed id name).outcome w = (result, v) from done]
    exact ⟨onward, settings⟩
  | setUser user =>
    obtain ⟨v, done, onward, settings⟩ := outcome_setUser listed user
    rw [done]
    exact ⟨onward, settings⟩
  | reopenOther other => exact quiet ((governs _).reopen (beside other _))
  | openNamedOther other name => exact quiet ((governs _).openNamed (beside other _))
  | setUserOther other user => exact quiet ((governs _).setUser (beside other _))

/-- How the connection of a context goes on along a trace. -/
inductive Course (id : Nat) : World → List Moment → World → Prop
  | done (w : World) : Course id w [] w
  | step {w v : World} {m : Moment} {rest : List Moment} (onward : Onward id w m.world)
      (settings : (m.world.context id).settings = renamed (w.context id).settings m.call)
      (later : Course id m.world rest v) : Course id w (m :: rest) v

namespace Course

variable {trace first second : List Moment}

theorem onward (course : Course id w trace v) : Onward id w v := by
  induction course with
  | done w => exact .refl id w
  | step onward _ _ ih => exact onward.trans ih

theorem of_steps {worlds : List World} (steps : w.Steps worlds v) :
    Course id w (worlds.map (⟨none, ·⟩)) v := by
  induction steps with
  | done w => exact .done w
  | step works _ ih =>
    have continues := Continues.of_works id works
    exact .step continues.toOnward continues.settings ih

theorem append (before : Course id w first u) (after : Course id u second v) :
    Course id w (first ++ second) v := by
  induction before with
  | done => exact after
  | step onward settings _ ih => exact .step onward settings (ih after)

theorem last (course : Course id w trace v) : lastWorld w trace = v := by
  induction course with
  | done => rfl
  | step _ _ _ ih => exact ih

theorem split (course : Course id w (first ++ second) v) :
    Course id w first (lastWorld w first) ∧ Course id (lastWorld w first) second v := by
  induction first generalizing w with
  | nil => exact ⟨.done w, course⟩
  | cons m rest ih =>
    cases course with
    | step onward settings later =>
      obtain ⟨before, after⟩ := ih later
      exact ⟨.step onward settings before, after⟩

theorem settings {config : ContextConfig} {calls : List Naming} (course : Course id w trace v)
    (before : (w.context id).settings = settingsAfter config calls) :
    (v.context id).settings = settingsAfter config (calls ++ callsOf trace) := by
  -- The first call of the rest becomes the last one of those before.
  induction course generalizing calls with
  | done w => rw [callsOf, List.filterMap_nil, List.append_nil]; exact before
  | @step w v m rest _ settings _ ih =>
    have now := ih (settings.trans (before ▸ (settingsAfter_append config calls m.call).symm))
    rw [List.append_assoc] at now
    rw [now]
    congr 2
    cases named : m.call <;> simp [callsOf, named]

end Course

/-- The moments of a run follow one another as connections go on. -/
theorem course_of_traces {trace : List Moment} (traces : Traces id op w trace)
    (listed : id < w.contexts.length) : Course id w trace (op.outcome w).2 := by
  -- One case for each rule of a trace; only a call can name the database anew.
  induction traces with
  | pure _ w => exact .done w
  | throw _ w => exact .done w
  | work _ steps => exact .of_steps steps
  | call call w =>
    obtain ⟨onward, settings⟩ := onward_of_call call listed
    exact .step onward settings (.done _)
  | bind done _ _ first rest =>
    have first := first listed
    rw [done] at first
    rw [Session.outcome_bind_ok done]
    exact first.append (rest (first.onward.length ▸ listed))
  | broken failed _ first =>
    have first := first listed
    rw [failed] at first
    rw [Session.outcome_bind_error failed]
    exact first
  | attempt _ ih =>
    rw [Session.outcome_attempt]
    exact ih listed
  | annotate note _ ih =>
    rw [Session.outcome_annotate]
    exact ih listed
  | choose _ ih => exact ih listed

/-! ## What holds at every moment -/

/-- A context with files, if it is open, is on the file that calls have named, and answers its path. -/
def OnNamed (config : ContextConfig) (calls : List Naming) (id : Nat) (w : World) : Prop :=
  ∀ directory, config.storage = .directory directory → (w.context id).connection.isSome = true →
    ∃ name text v, databaseName config calls = some name ∧ NamedFile directory name text
      ∧ (Session.databasePath id).outcome w = (.ok text, v)
      ∧ w.fileOf id = some (some (pathParts text))

/-- The calls that open a new connection, if nothing hinders them. -/
inductive Opens (id : Nat) (w : World) : Session Unit → Prop
  | first (closed : (w.context id).connection = none) : Opens id w (Session.openContext id)
  | reopen : Opens id w (Session.reopen id)
  | openNamed (name : String) : Opens id w (Session.openNamed id name)

/-- What holds of a context at a moment, after calls that have named its database. -/
structure Named (config : ContextConfig) (calls : List Naming) (id : Nat) (w : World) : Prop where
  file : w.OnNamed config calls id
  /-- The path that is answered, whether the context is open or not. -/
  path : ∀ directory text v, config.storage = .directory directory →
    (Session.databasePath id).outcome w = (.ok text, v) →
      ∃ name, databaseName config calls = some name ∧ NamedFile directory name text
  /-- What is run on the connection starts on the file, or the context is closed and stays so. -/
  serves : ∀ {β : Type} (op : Nat → Session β),
    (∃ failure v, (Session.withConnection id op).outcome w = (.error failure, v)
      ∧ (v.context id).connection = none)
    ∨ ∃ u, (Session.withConnection id op).outcome w = (op (u.context id).generation).outcome u
      ∧ (u.context id).connection.isSome = true ∧ u.OnNamed config calls id
  opens : ∀ call, w.Opens id call → Opening id w (call.outcome w).2 (call.outcome w).1
  /-- The file that goes is that of the name. -/
  deletes : ∃ result v, (Session.deleteFile id).outcome w = (result, v)
    ∧ (v.context id).connection = none ∧ Deleting id w v result
  place : (w.context id).place? = match config.storage with
    | .memory => none
    | .directory directory =>
      (databaseName config calls).map fun name => pathParts (joinPath directory (name ++ ".db"))

/-- From one moment to a later one, with those between: the generation never decreases, and if a
    connection has been opened it has increased.  If both have one connection of the same generation,
    it has been there all the time, on the same file. -/
structure Lasts (id : Nat) (w : World) (between : List World) (v : World) : Prop where
  counts : (w.context id).generation ≤ (v.context id).generation
  opened : (w.context id).connection = none → (v.context id).connection.isSome = true →
    (w.context id).generation < (v.context id).generation
  same : (w.context id).connection.isSome = true → (v.context id).connection.isSome = true →
    (v.context id).generation = (w.context id).generation → ∀ u ∈ between,
      (u.context id).connection.isSome = true ∧ (u.context id).generation = (w.context id).generation
        ∧ u.fileOf id = w.fileOf id

section Moments

variable {config : ContextConfig} {calls : List Naming}

theorem onNamed (literal : LiteralPath config calls) (settled : w.Settled id)
    (settings : (w.context id).settings = settingsAfter config calls) : w.OnNamed config calls id := by
  intro directory stored opened
  have storage : (w.context id).config.storage = .directory directory :=
    (congrArg (fun s => s.1.storage) settings).trans stored
  rw [isSome_fileOf] at opened
  -- The directory is there, so that nothing hinders the answer.
  obtain ⟨there, has⟩ := settled.directory directory storage opened
  obtain ⟨file, own⟩ := Option.isSome_iff_exists.mp opened
  obtain ⟨disk, made⟩ := Disk.createDirectories_of_isDirectory has
  cases named : (w.context id).requireName with
  | error failure =>
    rw [Context.place?, storage, named] at there
    cases there
  | ok name =>
    have called : databaseName config calls = some name := by
      rw [← Context.name?_of_settings settings]
      exact Context.requireName_ok.mp named
    refine ⟨name, _, { w with disk := disk }, called,
      .of_joinPath (literal directory name stored called), ?_, ?_⟩
    · rw [Session.databasePath, Session.outcome_resolvePath_eq storage, made, named]
      rfl
    · rw [own, settled.place file own, Context.place?, storage, named]

theorem answersNamed {directory text : String} (literal : LiteralPath config calls)
    (settings : (w.context id).settings = settingsAfter config calls)
    (stored : config.storage = .directory directory)
    (answered : (Session.databasePath id).outcome w = (.ok text, v)) :
    ∃ name, databaseName config calls = some name ∧ NamedFile directory name text := by
  have storage : (w.context id).config.storage = .directory directory :=
    (congrArg (fun s => s.1.storage) settings).trans stored
  rw [Session.databasePath, Session.outcome_resolvePath_eq storage] at answered
  cases made : w.disk.createDirectories (pathParts directory) with
  | error reason => rw [made] at answered; cases answered
  | ok disk =>
    cases named : (w.context id).requireName with
    | error failure => rw [made, named] at answered; cases answered
    | ok name =>
      rw [made, named] at answered
      cases answered
      have called : databaseName config calls = some name := by
        rw [← Context.name?_of_settings settings]
        exact Context.requireName_ok.mp named
      exact ⟨name, called, .of_joinPath (literal directory name stored called)⟩

/-- What is run on the connection starts on the file of the name, or the context stays closed. -/
theorem servesNamed {β : Type} (literal : LiteralPath config calls) (listed : id < w.contexts.length)
    (settled : w.Settled id) (settings : (w.context id).settings = settingsAfter config calls) (op : Nat → Session β) :
    (∃ failure v, (Session.withConnection id op).outcome w = (.error failure, v)
        ∧ (v.context id).connection = none)
      ∨ ∃ u, (Session.withConnection id op).outcome w = (op (u.context id).generation).outcome u
        ∧ (u.context id).connection.isSome = true ∧ u.OnNamed config calls id := by
  cases closed : (w.context id).connection with
  | some c =>
    refine .inr ⟨w, ?_, by rw [closed]; rfl, onNamed literal settled settings⟩
    rw [Session.withConnection, Session.outcome_bind_ok (Session.openContext_open closed)]
    rfl
  | none =>
    have continues := Continues.openContext id id w
    have opening := Opening.of_closed listed closed
    rcases ran : (Session.openContext id).outcome w with ⟨result, v⟩
    rw [ran] at continues opening
    cases opening with
    | refused failure closed _ => exact .inl ⟨failure, v, Session.outcome_bind_error ran _, closed⟩
    | opened opened _ =>
      exact .inr ⟨v, Session.outcome_bind_ok ran _, opened,
        onNamed literal (continues.toOnward.settled settled) (continues.settings.trans settings)⟩

theorem named (literal : LiteralPath config calls) (listed : id < w.contexts.length)
    (settled : w.Settled id) (settings : (w.context id).settings = settingsAfter config calls) : w.Named config calls id where
  file := onNamed literal settled settings
  path _ _ _ storage answered := answersNamed literal settings storage answered
  serves op := servesNamed literal listed settled settings op
  opens call opens := by
    cases opens with
    | first closed => exact .of_closed listed closed
    | reopen =>
      obtain ⟨result, v, done, _, _, opening⟩ := exchange listed none
      rw [show (Session.reopen id).outcome w = (result, v) from done]
      exact opening
    | openNamed name =>
      obtain ⟨result, v, done, _, _, opening⟩ := exchange listed (some name)
      rw [show (Session.openNamed id name).outcome w = (result, v) from done]
      exact opening
  deletes := by
    obtain ⟨result, v, done, _, closed, deleting⟩ := deleteFile_cases id w
    exact ⟨result, v, done, closed, deleting⟩
  place := by
    have storage := congrArg (fun s => s.1.storage) settings
    change (w.context id).config.storage = config.storage at storage
    rw [Context.place?, storage, ← Context.name?_of_settings settings, Context.requireName]
    cases config.storage with
    | memory => rfl
    | directory directory => cases (w.context id).name? <;> rfl

/-- Between two moments with one generation a connection is there all the time. -/
theorem Onward.same (first : Onward id w u) (second : Onward id u v)
    (before : (w.fileOf id).isSome = true) (after : (v.fileOf id).isSome = true)
    (generation : (v.context id).generation = (w.context id).generation) :
    (u.fileOf id).isSome = true ∧ (u.context id).generation = (w.context id).generation
      ∧ u.fileOf id = w.fileOf id := by
  have later := second.generation_le
  cases first.goes with
  | stays _ same file => exact ⟨file ▸ before, same, file⟩
  | opens less _ => omega
  | closes least closed =>
    -- It has been opened since, with a later generation.
    cases second.goes with
    | stays _ _ file => rw [file, closed] at after; cases after
    | closes _ closed => rw [closed] at after; cases after
    | opens less _ => omega

theorem Course.member {trace : List Moment} {m : Moment} (course : Course id w trace v)
    (member : m ∈ trace) : Onward id w m.world ∧ Onward id m.world v := by
  induction course with
  | done => cases member
  | step onward _ later ih =>
    cases member with
    | head => exact ⟨onward, later.onward⟩
    | tail _ member => exact ⟨onward.trans (ih member).1, (ih member).2⟩

theorem Course.lasts {trace : List Moment} (course : Course id w trace v) :
    Lasts id w (trace.map (·.world)) v where
  counts := course.onward.generation_le
  opened closed opened := by
    have none : w.fileOf id = none := by rw [fileOf, closed]; rfl
    rw [isSome_fileOf] at opened
    cases course.onward.goes with
    | stays _ _ file => rw [file, none] at opened; cases opened
    | closes _ closed => rw [closed] at opened; cases opened
    | opens less _ => exact less
  same before after generation u between := by
    obtain ⟨m, member, rfl⟩ := List.mem_map.mp between
    obtain ⟨first, second⟩ := course.member member
    rw [isSome_fileOf] at before after ⊢
    exact first.same second before after generation

end Moments

def userConfig : ContextConfig := { storage := .directory "d", userId := some "7" }

def userWorld : World := { contexts := [.ofConfig userConfig] }

/-- Another database for a while, and then that of the eighth user. -/
def wanders : Session Unit := do
  Session.openNamed 0 "x"
  Session.setUser 0 "8"
  Session.reopen 0

end World

end EntityStore
