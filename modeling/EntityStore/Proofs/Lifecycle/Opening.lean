import EntityStore.Proofs.Sql.Reading
import EntityStore.Proofs.Transaction.Control
import EntityStore.Store.Lifecycle

/-! # Opening contexts

What a context is like when its connection has been opened, wherever its database is kept:

* `Disk.Made` — what making a directory does to a disk.
* `Context.place?` — the file that a context opens.
* `prepareText_key` — the statement that gives the engine a secret does nothing else, whatever the
  secret is.
* `World.Alike` — worlds with the same contexts, the same databases and the same mappers.
* `World.Still` — a world in which a step of the engine has left the database as it was.
* `Context.Opens` — a connection that has just been opened, and the database behind it.
* `World.reconnected` — a world in which a context has a new connection, of the next generation.
* `Session.openContext_cases` — opening changes nothing, or it leads to such a world.
-/

namespace EntityStore

open EntityStore.Engine (Database Handle Program)
open EntityStore.Sql

/-! ## Directories -/

/-- Making a directory leaves the files alone, and the directories that there are. -/
structure Disk.Made (path : List String) (d e : Disk) : Prop where
  files : e.files = d.files
  there : e.isDirectory path = true
  directories : ∀ other, d.isDirectory other = true → e.isDirectory other = true

theorem Disk.createDirectories_ok {d e : Disk} {path : List String}
    (made : d.createDirectories path = .ok e) : Made path d e := by
  have all : Made path d { d with directories :=
      d.directories ++ (outerPaths path).filter fun outer => !d.directories.contains outer } := by
    have own : path ∈ outerPaths path := List.mem_map.mpr ⟨path.length, by simp, List.take_length⟩
    refine ⟨rfl, ?_, fun other => ?_⟩
    · by_cases old : path ∈ d.directories <;> simp [isDirectory, old, own]
    · simp only [isDirectory, Bool.or_eq_true, List.contains_eq_mem, List.mem_append, decide_eq_true_eq]
      exact Or.imp_right .inl
  simp only [createDirectories] at made
  split at made
  · cases made; exact all
  · split at made
    · cases made
    · split at made
      · cases made
      · cases made; exact all

theorem Disk.createDirectories_of_isDirectory {d : Disk} {path : List String}
    (there : d.isDirectory path = true) : ∃ e, d.createDirectories path = .ok e :=
  ⟨_, if_pos there⟩

/-! ## Files of contexts -/

def Context.place? (c : Context) : Option (List String) :=
  match c.config.storage, c.requireName with
  | .directory directory, .ok name => some (pathParts (joinPath directory (name ++ ".db")))
  | _, _ => none

theorem Context.requireName_ok {c : Context} {name : String} :
    c.requireName = .ok name ↔ c.name? = some name := by
  rw [requireName]
  cases c.name? with
  | none => exact ⟨nofun, nofun⟩
  | some other => simp

theorem Context.place?_congr {c d : Context} (same : c.settings = d.settings) :
    c.place? = d.place? := by
  cases c
  cases d
  simp only [Context.settings, Prod.mk.injEq] at same
  obtain ⟨rfl, rfl, rfl⟩ := same
  rfl

/-! ## Secrets -/

theorem lexemes_key (secret : Secret) {q : List Char}
    (quoted : (quotedAs '\'' secret.exposed).toList = q) :
    lexemes (Session.keyStatement secret).toList =
      [⟨.word "PRAGMA", "PRAGMA".toList ++ ' ' :: ("key".toList ++ '=' :: q),
          ' ' :: ("key".toList ++ '=' :: q)⟩,
        ⟨.word "key", "key".toList ++ '=' :: q, '=' :: q⟩, ⟨.symbol "=", '=' :: q, q⟩,
        ⟨.text secret.exposed, q, []⟩] := by
  have split : (Session.keyStatement secret).toList =
      "PRAGMA".toList ++ ' ' :: ("key".toList ++ '=' :: q) := by
    simp [Session.keyStatement, String.toList_append, quoted]
  rw [quotedAs, String.toList_ofList, List.cons_append] at quoted
  rw [split, lexemes_word (by decide) rfl, lexemes_space, lexemes_word (by decide) rfl,
    lexemes_symbol (by decide) (by rw [← quoted]; simp), lexemes_quoted _ quoted.symm]

theorem readSetting_key (value : String) :
    readSetting.run ⟨[.word "key", .symbol "=", .text value], 0, []⟩ =
      .ok (.setting, ⟨[], 0, []⟩) := by
  have name : readObjectName.run ⟨[.word "key", .symbol "=", .text value], 0, []⟩ =
      .ok (⟨3, none, "key", "key"⟩, ⟨[.symbol "=", .text value], 0, []⟩) := rfl
  rw [readSetting, run_bind_ok name]
  rfl

/-- The statement that gives the engine a secret, prepared. -/
theorem prepareText_key (db : Database) (secret : Secret) (again : Bool) :
    prepareText db (Session.keyStatement secret) again = .ok (some {
      statement := .setting, program := some .nothing, parameters := 0, rest := "" }) := by
  have all := lexemes_key secret rfl
  have read : readStatement.run ⟨[.word "PRAGMA", .word "key", .symbol "=",
      .text secret.exposed], 0, []⟩ = .ok (.setting, ⟨[], 0, []⟩) := by
    rw [readStatement, run_unless_takeWord rfl, run_unless_takeWord rfl, run_unless_takeWord rfl,
      run_unless_takeWord rfl, run_unless_takeWord rfl, run_unless_takeWord rfl,
      run_unless_takeWord rfl, run_unless_takeWord rfl, run_after_takeWord rfl rfl]
    exact readSetting_key _
  have parsed : parse [.word "PRAGMA", .word "key", .symbol "=", .text secret.exposed] =
      .ok (some ⟨.setting, 0, []⟩) := by
    simp only [parse, List.dropWhile_cons, reduceCtorEq, decide_false, Bool.false_eq_true,
      ↓reduceIte]
    rw [read]
    rfl
  simp only [prepareText, all, List.map_cons, List.map_nil, parsed]
  rfl

namespace Session

variable {w : World} {id : Nat}

/-- Giving the engine a secret is a step that leaves a connection without a transaction as it is. -/
theorem Withstands.executeKey {Allows : Handle → Handle → Prop} {P : World → Prop}
    (withstands : Withstands Allows P id)
    (idle : ∀ h next : Handle, (h.transaction = none → next = h) → Allows h next) (secret : Secret) :
    Keeps P (Session.executeBatch id (keyStatement secret)) := by
  refine withstands.executeBatch (· = keyStatement secret) ?_ rfl
  rintro _ h p rfl prepares
  rw [prepareText_key] at prepares
  cases prepares
  refine ⟨fun others => idle h _ fun ended => ?_, nofun⟩
  simp only [Handle.run, ended, Handle.runAlone, Program.nothing, Bool.false_eq_true, ↓reduceIte]
  split <;> rfl

/-! ## Files -/

theorem stored_congr {w v : World} (files : v.disk.files = w.disk.files) (path : List String) :
    v.stored path = w.stored path := by
  rw [World.stored, World.stored, Disk.file?, files, Disk.file?]

theorem outcome_resolvePath_memory (storage : (w.context id).config.storage = .memory) :
    (resolvePath id).outcome w = (.error (w.context id).noFile, w) := by
  rw [resolvePath, outcome_bind_ok (outcome_context id w)]
  rw [World.context] at storage ⊢
  simp only [storage]
  rfl

theorem outcome_resolvePath_eq {directory : String}
    (storage : (w.context id).config.storage = .directory directory) : (resolvePath id).outcome w =
      match w.disk.createDirectories (pathParts directory) with
      | .error reason => (.error (fileFailure "database_path" reason), w)
      | .ok disk => ((w.context id).requireName.map fun name => joinPath directory (name ++ ".db"),
          { w with disk := disk }) := by
  rw [resolvePath, outcome_bind_ok (outcome_context id w)]
  rw [World.context] at storage ⊢
  simp only [storage]
  rw [outcome_bind_ok (outcome_get w)]
  cases w.disk.createDirectories (pathParts directory) with
  | error reason => rfl
  | ok disk =>
    dsimp only
    rw [outcome_bind_ok (outcome_modify _ w)]
    cases (w.contexts.getD id default).requireName <;> rfl

theorem outcome_resolvePath {directory : String}
    (storage : (w.context id).config.storage = .directory directory) :
    ∃ result disk, (resolvePath id).outcome w = (result, { w with disk := disk })
      ∧ disk.files = w.disk.files
      ∧ ∀ text, result = .ok text → (w.context id).place? = some (pathParts text) := by
  rw [outcome_resolvePath_eq storage]
  cases made : w.disk.createDirectories (pathParts directory) with
  | error reason => exact ⟨_, w.disk, rfl, rfl, nofun⟩
  | ok disk =>
    refine ⟨_, disk, rfl, (Disk.createDirectories_ok made).files, fun text found => ?_⟩
    rw [Context.place?, storage]
    cases named : (w.context id).requireName with
    | error failure => rw [named] at found; cases found
    | ok name => rw [named] at found; cases found; rfl

theorem outcome_connectFile (w : World) (text : String) :
    ∃ result disk, (connectFile text).outcome w = (result, { w with disk := disk })
      ∧ (∀ path, World.stored { w with disk := disk } path = w.stored path)
      ∧ ∀ c, result = .ok c → c = { backing := .file (pathParts text) } := by
  rw [connectFile, outcome_bind_ok (outcome_get w)]
  -- A file that is created anew holds an empty database, which is what no file stands for.
  cases made : w.disk.create (pathParts text) with
  | none => exact ⟨_, w.disk, rfl, fun _ => rfl, fun _ found => by cases found⟩
  | some disk =>
    refine ⟨_, disk, rfl, fun path => ?_, ?_⟩
    · simp only [Disk.create] at made
      split at made
      · cases made
      · split at made
        · cases made; rfl
        · next absent =>
          cases made
          simp only [World.stored, Disk.file?_write]
          by_cases same : path = pathParts text
          · rw [if_pos same, same, absent]
          · rw [if_neg same]
    · rintro _ ⟨⟩
      rfl

theorem outcome_connect {directory : String}
    (storage : (w.context id).config.storage = .directory directory) :
    ∃ result disk, (connect id).outcome w = (result, { w with disk := disk })
      ∧ (∀ path, World.stored { w with disk := disk } path = w.stored path)
      ∧ ∀ c, result = .ok c →
        ∃ path, c = { backing := .file path } ∧ (w.context id).place? = some path := by
  obtain ⟨resolved, first, found, files, place⟩ := outcome_resolvePath storage
  rw [connect, outcome_bind_ok (outcome_context id w)]
  rw [World.context] at storage
  simp only [storage]
  cases resolved with
  | error failure =>
    rw [outcome_bind_error found]
    exact ⟨_, first, rfl, stored_congr files, fun _ connected => by cases connected⟩
  | ok text =>
    obtain ⟨result, second, connected, stored, made⟩ :=
      outcome_connectFile { w with disk := first } text
    rw [outcome_bind_ok found, connected]
    refine ⟨result, second, rfl, fun path => (stored path).trans (stored_congr files path), ?_⟩
    intro c same
    exact ⟨_, made c same, place text rfl⟩

end Session

/-! ## Worlds -/

namespace World

/-- Worlds in which the contexts, the databases on the disk and what mappers remember are the
    same. -/
structure Alike (w v : World) : Prop where
  contexts : v.contexts = w.contexts
  stored : ∀ path, v.stored path = w.stored path
  bindings : v.bindings = w.bindings

variable {u v w : World} {id : Nat} {c : Connection} {h : Handle}

namespace Alike

theorem refl (w : World) : Alike w w := ⟨rfl, fun _ => rfl, rfl⟩

theorem trans (first : Alike u v) (second : Alike v w) : Alike u w where
  contexts := second.contexts.trans first.contexts
  stored path := (second.stored path).trans (first.stored path)
  bindings := second.bindings.trans first.bindings

variable (alike : Alike w v)
include alike

theorem context (id : Nat) : v.context id = w.context id := by
  rw [World.context, alike.contexts, World.context]

theorem changed (id : Nat) (f : Context → Context) : Alike (w.changed id f) (v.changed id f) where
  contexts := by rw [World.changed, World.changed, alike.contexts]
  stored := alike.stored
  bindings := alike.bindings

end Alike

theorem handle?_eq (w : World) (c : Connection) : w.handle? c =
    match c.backing with
    | .memory image => some ⟨image, c.transaction⟩
    | .file path => (w.stored path).map fun image => ⟨image, c.transaction⟩ := by
  cases backing : c.backing with
  | memory image => simp only [handle?, backing]
  | file path =>
    simp only [handle?, stored, backing]
    cases w.disk.file? path with
    | none => rfl
    | some content => cases content <;> rfl

theorem handle?_congr (stored : ∀ path, c.file? = some path → v.stored path = w.stored path) :
    v.handle? c = w.handle? c := by
  rw [handle?_eq, handle?_eq]
  cases backing : c.backing with
  | memory image => rfl
  | file path =>
    dsimp only
    rw [stored path (by rw [Connection.file?, backing])]

theorem Alike.handleOf (alike : Alike w v) (id : Nat) : v.handleOf id = w.handleOf id := by
  rw [World.handleOf, World.handleOf, alike.context]
  cases (w.context id).connection with
  | none => rfl
  | some c => exact handle?_congr fun path _ => alike.stored path

theorem stored_own {path : List String} (file : w.fileOf id = some (some path)) :
    w.stored path = (w.handleOf id).map (·.image) := by
  obtain ⟨c, opened, own⟩ := Option.map_eq_some_iff.mp file
  rw [handleOf, opened, Option.bind_some, handle?_eq]
  cases backing : c.backing with
  | memory image => rw [Connection.file?, backing] at own; cases own
  | file place =>
    rw [Connection.file?, backing] at own
    cases own
    dsimp only
    cases w.stored path <;> rfl

/-- A step of the engine that has not changed the database.  A transaction that was open is still open,
    perhaps with another lock, or it has been undone. -/
structure Still (id : Nat) (w v : World) : Prop extends Step id w v where
  image : (v.handleOf id).map (·.image) = (w.handleOf id).map (·.image)
  idle : w.transactionOf id = none → v.handleOf id = w.handleOf id ∧ v.transactionOf id = none
  seen : v.transactionOf id ≠ none → v.seen id = w.seen id

namespace Still

theorem refl (id : Nat) (w : World) : Still id w w :=
  ⟨.refl id w, rfl, fun idle => ⟨rfl, idle⟩, fun _ => rfl⟩

theorem of_spares {next : Engine.Handle} (step : Step id w v) (before : w.handleOf id = some h)
    (after : v.handleOf id = some next) (spares : h.Spares next) : Still id w v where
  toStep := step
  image := by rw [before, after, Option.map_some, Option.map_some, spares.image]
  idle idle := by
    rw [transactionOf_handle before] at idle
    have same := spares.idle idle
    rw [transactionOf_handle after, same]
    exact ⟨(same ▸ after).trans before.symm, idle⟩
  seen opened := by
    rw [transactionOf_handle after] at opened
    rw [World.seen, World.seen, before, after, Option.map_some, Option.map_some, spares.current opened]

theorem stored_same (still : Still id w v) (path : List String) : v.stored path = w.stored path := by
  by_cases own : w.fileOf id = some (some path)
  · rw [stored_own own, stored_own (still.file.trans own), still.image]
  · exact still.stored path own

end Still

theorem modify_same {α : Type} {items : List α} {i : Nat} {f : α → α}
    (same : ∀ a, items[i]? = some a → f a = a) : items.modify i f = items := by
  refine List.ext_getElem? fun j => ?_
  rw [List.getElem?_modify]
  by_cases here : i = j
  · subst here
    cases found : items[i]? with
    | none => rfl
    | some a => simp [same a found]
  · simp [here]

/-- A step of the engine that leaves the database and the transaction alone. -/
theorem Alike.putHandle (opened : (w.context id).connection = some c) (found : w.handle? c = some h) :
    Alike w (w.putHandle id c h) := by
  have bound := lt_of_connection opened
  have here : w.contexts[id]? = some (w.context id) := by
    rw [World.context, List.getD_eq_getElem?_getD, List.getElem?_eq_getElem bound, Option.getD_some]
  have transaction := handle?_transaction found
  -- The connection is put back as it is, whether its database is in memory or in a file.
  refine ⟨?_, fun path => ?_, rfl⟩
  · refine modify_same fun context same => ?_
    cases here.symm.trans same
    have image : { c with
        backing := match c.backing with
          | .memory _ => .memory h.image
          | .file path => .file path
        transaction := h.transaction } = c := by
      rw [transaction]
      rcases c with ⟨backing, _, _⟩
      cases backing with
      | memory image => rw [handle?_eq] at found; cases found; rfl
      | file path => rfl
    exact (congrArg (fun c => { w.context id with connection := some c }) image).trans (by rw [← opened])
  · rw [stored_putHandle]
    split
    · next own =>
      refine (handle?_image found ?_).symm
      cases backing : c.backing <;> simp_all [Connection.file?]
    · rfl

end World

/-- Steps of the engine that leave an idle connection as it is. -/
theorem World.Alike.withstands {w : World} {id : Nat} (idle : w.transactionOf id = none) :
    Session.Withstands (fun h next => h.transaction = none → next = h) (World.Alike w) id where
  same _ _ := rfl
  aside {u v} alike disk contexts bindings :=
    have same : World.Alike u v := ⟨contexts, fun path => by rw [World.stored, disk, World.stored], bindings⟩
    alike.trans same
  step {u c h next} opened found allowed alike := by
    have ended : h.transaction = none := by
      rw [handle?_transaction found]
      rw [transactionOf, ← alike.context, opened] at idle
      exact idle
    cases allowed ended
    exact alike.trans (.putHandle opened found)

namespace Session

open World (Alike)

variable {w : World} {id : Nat}

/-- The connection is set up, or it is closed again. -/
theorem configure_cases (idle : w.transactionOf id = none) :
    (∃ v, (configure id).outcome w = (.ok (), v) ∧ Alike w v)
      ∨ ∃ failure v, (configure id).outcome w = (.error failure, v)
        ∧ Alike (w.changed id fun c => { c with connection := none }) v := by
  rw [configure, outcome_bind_ok (outcome_context id w)]
  cases secret : (w.contexts.getD id default).config.secret with
  | none => exact .inl ⟨w, rfl, .refl w⟩
  | some key =>
    have kept := (Alike.withstands idle).executeKey (fun _ _ same => same) key w (.refl w)
    dsimp only
    rw [outcome_tryCatch]
    rcases ran : (executeBatch id (keyStatement key)).outcome w with ⟨result, v⟩
    rw [ran] at kept
    cases result with
    | ok _ => exact .inl ⟨v, rfl, kept⟩
    | error failure => exact .inr ⟨failure, _, outcome_bind_ok (outcome_modifyContext id _ v) _, kept.changed id _⟩

end Session

/-! ## New connections -/

/-- A connection that a context has just opened: to an empty database in memory, or to the file that
    its name stands for. -/
inductive Context.Opens (context : Context) : Connection → Prop
  | memory (storage : context.config.storage = .memory) : Opens context { backing := .memory {} }
  | file {path : List String} (place : context.place? = some path) :
      Opens context { backing := .file path }

theorem Context.Opens.place {context : Context} {c : Connection} (opens : context.Opens c) :
    c.file? = context.place? := by
  cases opens with
  | memory storage => rw [Context.place?, storage]; rfl
  | file place => rw [place]; rfl

theorem Context.Opens.place_isSome {context : Context} {c : Connection} {directory : String}
    (opens : context.Opens c) (storage : context.config.storage = .directory directory) :
    context.place?.isSome = true := by
  cases opens with
  | memory other => rw [storage] at other; cases other
  | file place => rw [place]; rfl

theorem Context.Opens.idle {context : Context} {c : Connection} (opens : context.Opens c) :
    c.transaction = none := by
  cases opens <;> rfl

def World.reconnected (w : World) (id : Nat) (c : Connection) : World :=
  w.changed id fun context =>
    { context with connection := some c, generation := context.generation + 1 }

namespace Session

open World (Alike)

variable {w : World} {id : Nat} {c : Connection}

theorem openContext_open (opened : (w.context id).connection = some c) :
    (openContext id).outcome w = (.ok (), w) := by
  rw [openContext, outcome_bind_ok (outcome_context id w)]
  change outcome (if (w.context id).connection.isNone then _ else pure ()) w = _
  rw [opened]
  rfl

theorem connect_cases (id : Nat) (w : World) :
    ∃ result v, (connect id).outcome w = (result, v) ∧ Alike w v
      ∧ ∀ c, result = .ok c → (w.context id).Opens c := by
  cases storage : (w.context id).config.storage with
  | memory =>
    rw [connect, outcome_bind_ok (outcome_context id w)]
    rw [World.context] at storage
    simp only [storage]
    refine ⟨_, w, rfl, .refl w, ?_⟩
    rintro _ ⟨⟩
    exact .memory storage
  | directory directory =>
    obtain ⟨result, disk, connected, stored, made⟩ := outcome_connect storage
    refine ⟨result, _, connected, ⟨rfl, stored, rfl⟩, fun c done => ?_⟩
    obtain ⟨path, rfl, place⟩ := made c done
    exact .file place

theorem outcome_closeContext (id : Nat) (w : World) :
    ∃ v, (closeContext id).outcome w = (.ok (), v)
      ∧ v.contexts = (w.changed id fun c => { c with connection := none }).contexts
      ∧ v.disk = w.disk := by
  rw [closeContext, outcome_bind_ok (outcome_context id w)]
  change ∃ v, (if (w.context id).connection.isSome then _ else _ : Session Unit).outcome w = _ ∧ _
  cases opened : (w.context id).connection with
  | some c => exact ⟨_, rfl, rfl, rfl⟩
  | none =>
    refine ⟨w, rfl, (World.modify_same fun context here => ?_).symm, rfl⟩
    rw [World.context, List.getD_eq_getElem?_getD, here, Option.getD_some] at opened
    rw [← opened]

theorem changed_twice (w : World) (id : Nat) (f g : Context → Context) :
    (w.changed id f).changed id g = w.changed id fun c => g (f c) := by
  simp only [World.changed, List.modify_modify_eq]
  rfl

/-- Opening a context that is closed.  Without success it is closed afterwards as well. -/
theorem openContext_cases (closed : (w.context id).connection = none) :
    (∃ failure v, (openContext id).outcome w = (.error failure, v) ∧ Alike w v)
      ∨ ∃ c v, (openContext id).outcome w = (.ok (), v) ∧ (w.context id).Opens c
        ∧ Alike (w.reconnected id c) v := by
  rw [openContext, outcome_bind_ok (outcome_context id w)]
  change (∃ failure v, outcome (if (w.context id).connection.isNone then _ else pure ()) w = _ ∧ _)
    ∨ ∃ c v, outcome (if (w.context id).connection.isNone then _ else pure ()) w = _ ∧ _
  rw [closed]
  simp only [Option.isNone_none, ↓reduceIte]
  obtain ⟨result, u, connected, alike, made⟩ := connect_cases id w
  cases result with
  | error failure => exact .inl ⟨failure, u, outcome_bind_error connected _, alike⟩
  | ok c =>
    have opens := made c rfl
    rw [outcome_bind_ok connected, outcome_bind_ok (outcome_modifyContext id _ u)]
    -- The connection has not been counted yet when the secret is given to it.
    let joined := u.changed id fun context => { context with connection := some c }
    have idle : joined.transactionOf id = none := by
      rcases Nat.lt_or_ge id u.contexts.length with bound | beyond
      · rw [World.transactionOf, World.context_changed bound]
        exact opens.idle
      · rw [World.transactionOf, World.context_beyond (by simpa [joined, World.changed] using beyond)]
        rfl
    rcases configure_cases idle with ⟨v, configured, same⟩ | ⟨failure, v, failed, same⟩
    · refine .inr ⟨c, _, by
        rw [show ({ u with contexts := _ } : World) = joined from rfl, outcome_bind_ok configured]
        rfl, opens, ?_⟩
      have counted := same.changed id fun context => { context with generation := context.generation + 1 }
      rw [changed_twice] at counted
      exact (alike.changed id _).trans ⟨counted.contexts, counted.stored, counted.bindings⟩
    · refine .inl ⟨failure, v, by
        rw [show ({ u with contexts := _ } : World) = joined from rfl, outcome_bind_error failed], ?_⟩
      -- What has been opened has been closed again.
      rw [changed_twice] at same
      refine alike.trans (.trans ?_ same)
      refine ⟨World.modify_same fun context here => ?_, fun _ => rfl, rfl⟩
      have none : (u.context id).connection = none := by rw [alike.context, closed]
      rw [World.context, List.getD_eq_getElem?_getD, here, Option.getD_some] at none
      rw [← none]

/-- Opening a context changes neither what is stored nor what mappers know. -/
theorem openContext_aside (id : Nat) (w : World) :
    (∀ path, ((openContext id).outcome w).2.stored path = w.stored path)
      ∧ ((openContext id).outcome w).2.bindings = w.bindings := by
  cases closed : (w.context id).connection with
  | some c =>
    rw [openContext_open closed]
    exact ⟨fun _ => rfl, rfl⟩
  | none =>
    rcases openContext_cases closed with ⟨failure, v, failed, alike⟩ | ⟨c, v, opened, _, alike⟩
    · rw [failed]
      exact ⟨alike.stored, alike.bindings⟩
    · rw [opened]
      exact ⟨alike.stored, alike.bindings⟩

end Session

end EntityStore
