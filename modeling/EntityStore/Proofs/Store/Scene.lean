import Mathlib.Logic.Function.Basic
import EntityStore.Proofs.Lifecycle.Opening

/-! # Scenes

What a world comes down to while the engine refuses nothing and nobody else is in the way:

* `World.standing` — the database behind a context, as its next statement will find it.
* `Scene` — the databases behind some contexts, and what mappers remember of them.
* `World.Shows` — a world that looks like a scene.
* `World.Turn` — what may change when a context takes its turn, and `World.Shows.turn`, the scene
  after it.
-/

namespace EntityStore

open EntityStore.Engine (Database Handle Lock)

namespace World

/-- The database behind a context: that of its connection, or the one that it will open. -/
def standing (w : World) (id : Nat) : Option Handle :=
  match (w.context id).connection with
  | some c => w.handle? c
  | none =>
    match (w.context id).config.storage with
    | .memory => some ⟨{}, none⟩
    | .directory _ => ((w.context id).place?.bind w.stored).map fun db => ⟨db, none⟩

/-- The same as its next statement will see it. -/
def databaseOf (w : World) (id : Nat) : Option Database := (w.standing id).map (·.current)

/-- A file that a context can open in a directory, or create there. -/
structure Reachable (w : World) (directory : String) (path : List String) : Prop where
  named : path ≠ []
  file : path ∉ w.disk.directories
  inside : path.dropLast = [] ∨ path.dropLast ∈ w.disk.directories
    ∨ path.dropLast ∈ outerPaths (pathParts directory)
  outer : ∀ around ∈ outerPaths (pathParts directory), w.disk.file? around = none

structure Site (w : World) (id : Nat) (h : Handle) (place : Option (List String)) : Prop where
  bound : id < w.contexts.length
  located : (w.context id).place? = place
  standing : w.standing id = some h
  file : ∀ c, (w.context id).connection = some c → c.file? = place
  reachable : ∀ directory, (w.context id).config.storage = .directory directory →
    ∃ path, place = some path ∧ w.Reachable directory path

end World

/-- What a world comes down to. -/
structure Scene where
  /-- The databases behind the contexts that matter. -/
  handles : Nat → Option Handle
  /-- The files that they are kept in; in memory there is none. -/
  places : Nat → Option (List String)
  /-- How often each context has been opened, and whether it is open. -/
  lives : Nat → Nat × Bool
  registries : List RegistryState
  groups : List (List (String × Nat))

/-- A world that looks like a scene: the engine refuses nothing, and every database belongs to one
    context alone. -/
structure World.Shows (s : Scene) (w : World) : Prop where
  faults : w.faults = {}
  guests : w.guests = []
  registries : w.registries = s.registries
  groups : w.groups = s.groups
  lives : ∀ id, ((w.context id).generation, (w.context id).connection.isSome) = s.lives id
  site : ∀ {id h}, s.handles id = some h → w.Site id h (s.places id)
  apart : ∀ {id h j path}, s.handles id = some h → s.places id = some path → j ≠ id →
    w.fileOf j ≠ some (some path)
  separate : ∀ {i j h k path}, s.handles i = some h → s.handles j = some k →
    s.places i = some path → s.places j = some path → i = j
  /-- No file stands where the directory of another has to be. -/
  clear : ∀ {i j h k path directory}, s.handles i = some h → s.handles j = some k →
    s.places i = some path → (w.context j).config.storage = .directory directory →
      path ∉ outerPaths (pathParts directory)

namespace Scene

/-- The scene with another database behind a context. -/
def put (s : Scene) (id : Nat) (h : Handle) : Scene :=
  { s with handles := Function.update s.handles id (some h) }

def opened (s : Scene) (id : Nat) : Scene :=
  { s with
    lives := Function.update s.lives id
      (if (s.lives id).2 then s.lives id else ((s.lives id).1 + 1, true)) }

def closed (s : Scene) (id : Nat) : Scene :=
  { s with lives := Function.update s.lives id ((s.lives id).1, false) }

@[simp] theorem put_handles (s : Scene) (id : Nat) (h : Handle) :
    (s.put id h).handles id = some h := Function.update_self ..

@[simp] theorem put_lives (s : Scene) (id : Nat) (h : Handle) : (s.put id h).lives = s.lives := rfl

@[simp] theorem put_put (s : Scene) (id : Nat) (h k : Handle) :
    (s.put id h).put id k = s.put id k := by
  simp [put, Function.update_idem]

theorem put_same {s : Scene} {id : Nat} {h : Handle} (here : s.handles id = some h) :
    s.put id h = s := by
  rw [put, ← here, Function.update_eq_self]

end Scene

namespace World

/-- What a world comes down to whose contexts are in memory and not open. -/
def unopened (w : World) : Scene where
  handles id := if id < w.contexts.length then some ⟨{}, none⟩ else none
  places _ := none
  lives id := ((w.context id).generation, false)
  registries := w.registries
  groups := w.groups

theorem shows_unopened {w : World} (faults : w.faults = {}) (guests : w.guests = [])
    (closed : ∀ c ∈ w.contexts, c.connection = none ∧ c.config.storage = .memory) :
    w.Shows w.unopened := by
  have context (id : Nat) : (w.context id).connection = none
      ∧ (w.context id).config.storage = .memory := by
    rw [World.context, List.getD_eq_getElem?_getD]
    cases here : w.contexts[id]? with
    | none => exact ⟨rfl, rfl⟩
    | some c => exact closed c (List.mem_of_getElem? here)
  refine ⟨faults, guests, rfl, rfl, fun id => by rw [(context id).1]; rfl, fun {id h} here => ?_,
    fun _ own => (by cases own), fun _ _ own => (by cases own), fun _ _ own => (by cases own)⟩
  simp only [unopened, Option.ite_none_right_eq_some, Option.some.injEq] at here
  obtain ⟨bound, rfl⟩ := here
  obtain ⟨connection, storage⟩ := context id
  refine ⟨bound, ?_, ?_, ?_, ?_⟩
  · simp only [Context.place?, storage, unopened]
  · simp only [World.standing, connection, storage]
  · rw [connection]
    rintro _ ⟨⟩
  · rw [storage]
    rintro _ ⟨⟩

/-- What may change when a context takes its turn: the context, its file, and the directories around
    the file. -/
structure Turn (id : Nat) (place : Option (List String)) (w v : World) : Prop where
  faults : v.faults = w.faults
  guests : v.guests = w.guests
  length : v.contexts.length = w.contexts.length
  others : ∀ j, j ≠ id → v.context j = w.context j
  settings : (v.context id).settings = (w.context id).settings
  files : ∀ path, place ≠ some path → v.disk.file? path = w.disk.file? path
  directories : ∀ path ∈ v.disk.directories, path ∈ w.disk.directories
    ∨ ∃ directory, (w.context id).config.storage = .directory directory
      ∧ path ∈ outerPaths (pathParts directory)
  kept : ∀ path ∈ w.disk.directories, path ∈ v.disk.directories

variable {s : Scene} {w v : World} {id : Nat} {h : Handle}

/-- What a context would find is the same as long as the context and its file are. -/
theorem standing_congr {place : Option (List String)} (site : w.Site id h place)
    (same : v.context id = w.context id)
    (files : ∀ path, place = some path → v.disk.file? path = w.disk.file? path) :
    v.standing id = some h := by
  have standing := site.standing
  rw [World.standing] at standing ⊢
  rw [same]
  -- A connection reads its own file, a closed context the file that it would open.
  cases opened : (w.context id).connection with
  | some c =>
    rw [opened] at standing
    dsimp only at standing ⊢
    rw [← standing]
    simp only [handle?]
    cases kept : c.backing with
    | memory image => rfl
    | file path =>
      have own : c.file? = some path := by rw [Connection.file?, kept]
      rw [site.file c opened] at own
      dsimp only
      rw [files path own]
  | none =>
    rw [opened] at standing
    dsimp only at standing ⊢
    rw [← standing]
    cases storage : (w.context id).config.storage with
    | memory => rfl
    | directory directory =>
      rw [site.located]
      cases own : place with
      | none => rfl
      | some path => simp only [Option.bind_some, stored, files path own]

section
variable {place : Option (List String)} (turn : Turn id place w v) (j : Nat)
include turn

theorem Turn.config : (v.context j).config = (w.context j).config := by
  by_cases same : j = id
  · rw [same]
    exact congrArg Prod.fst turn.settings
  · rw [turn.others j same]

theorem Turn.place? : (v.context j).place? = (w.context j).place? := by
  by_cases same : j = id
  · rw [same]
    exact Context.place?_congr turn.settings
  · rw [turn.others j same]

omit j

/-- A file that could be reached still can be: the directories that have been made do not take its
    place, and the file of the turn does not take theirs. -/
theorem Turn.reachable {directory : String} {path : List String} (reachable : w.Reachable directory path)
    (file : ∀ made, (w.context id).config.storage = .directory made → path ∉ outerPaths (pathParts made))
    (clear : ∀ taken, place = some taken → taken ∉ outerPaths (pathParts directory)) :
    v.Reachable directory path where
  named := reachable.named
  file listed := by
    rcases turn.directories path listed with old | ⟨made, stored, outer⟩
    · exact reachable.file old
    · exact file made stored outer
  inside := reachable.inside.imp_right (Or.imp_left (turn.kept _))
  outer around outer := by
    rw [turn.files around fun same => clear around same outer]
    exact reachable.outer around outer

/-- The other contexts find what they have found before, if their files are others. -/
theorem Turn.site {j : Nat} (other : j ≠ id) {own : Option (List String)} (site : w.Site j h own)
    (elsewhere : ∀ path, own = some path → place ≠ some path)
    (reachable : ∀ directory, (w.context j).config.storage = .directory directory →
      ∃ path, own = some path ∧ v.Reachable directory path) : v.Site j h own where
  bound := turn.length ▸ site.bound
  located := (turn.place? j).trans site.located
  standing := standing_congr site (turn.others j other) fun path same =>
    turn.files path (elsewhere path same)
  file := by
    rw [turn.others j other]
    exact site.file
  reachable directory storage := reachable directory (turn.config j ▸ storage)

end

theorem Shows.turn (shows : w.Shows s) (here : s.handles id = some h)
    (turn : Turn id (s.places id) w v) {next : Handle} {life : Nat × Bool}
    {registries : List RegistryState} (standing : v.standing id = some next)
    (file : ∀ c, (v.context id).connection = some c → c.file? = s.places id)
    (remembered : v.registries = registries) (groups : v.groups = w.groups)
    (lives : ((v.context id).generation, (v.context id).connection.isSome) = life) :
    v.Shows { s with handles := Function.update s.handles id (some next)
                     lives := Function.update s.lives id life, registries := registries } := by
  have mine := shows.site here
  -- A context that matters after the turn has mattered before it.
  have before {j : Nat} {k : Handle} (there : Function.update s.handles id (some next) j = some k) :
      ∃ k, s.handles j = some k := by
    by_cases same : j = id
    · exact ⟨h, same ▸ here⟩
    · rw [Function.update_of_ne same] at there
      exact ⟨k, there⟩
  have reachable {j : Nat} {k : Handle} (there : s.handles j = some k) (directory : String)
      (storage : (w.context j).config.storage = .directory directory) :
      ∃ path, s.places j = some path ∧ v.Reachable directory path := by
    obtain ⟨path, own, reachable⟩ := (shows.site there).reachable directory storage
    exact ⟨path, own, turn.reachable reachable (fun made stored => shows.clear there here own stored)
      fun taken same => shows.clear here there same storage⟩
  refine ⟨turn.faults.trans shows.faults, turn.guests.trans shows.guests, remembered,
    groups.trans shows.groups, fun j => ?_, fun {j k} there => ?_, ?_, ?_, ?_⟩
  · dsimp only
    by_cases same : j = id
    · rw [same, lives, Function.update_self]
    · rw [turn.others j same, shows.lives, Function.update_of_ne same]
  · dsimp only at there ⊢
    by_cases same : j = id
    · rw [same, Function.update_self, Option.some.injEq] at there
      rw [same, ← there]
      exact ⟨turn.length ▸ mine.bound, (turn.place? id).trans mine.located, standing, file,
        fun directory storage => reachable here directory (turn.config id ▸ storage)⟩
    · rw [Function.update_of_ne same] at there
      exact turn.site same (shows.site there)
        (fun path own taken => same (shows.separate there here own taken)) (reachable there)
  · intro j k other path there own apart
    obtain ⟨k, there⟩ := before there
    by_cases same : other = id
    · rw [same, fileOf, Ne, Option.map_eq_some_iff]
      rintro ⟨c, opened, taken⟩
      rw [file c opened] at taken
      exact apart (same.trans (shows.separate here there taken own))
    · rw [fileOf, turn.others other same, ← fileOf]
      exact shows.apart there own apart
  · intro i j h k path first second
    obtain ⟨_, first⟩ := before first
    obtain ⟨_, second⟩ := before second
    exact shows.separate first second
  · intro i j h k path directory first second own storage
    obtain ⟨_, first⟩ := before first
    obtain ⟨_, second⟩ := before second
    rw [turn.config] at storage
    exact shows.clear first second own storage

theorem Shows.changed (shows : w.Shows s) (here : s.handles id = some h) {f : Context → Context}
    (settings : ∀ c, (f c).settings = c.settings) {next : Handle}
    (standing : (w.changed id f).standing id = some next)
    (file : ∀ c, (f (w.context id)).connection = some c → c.file? = s.places id) :
    (w.changed id f).Shows { s with
      handles := Function.update s.handles id (some next)
      lives := Function.update s.lives id
        ((f (w.context id)).generation, (f (w.context id)).connection.isSome) } := by
  have context := context_changed (shows.site here).bound f
  have turned : Turn id (s.places id) w (w.changed id f) := by
    exact ⟨rfl, rfl, List.length_modify .., fun j apart => context_changed_of_ne apart w f,
      by rw [context, settings], fun _ _ => rfl, fun _ listed => .inl listed, fun _ listed => listed⟩
  exact shows.turn here turned standing (by rw [context]; exact file) shows.registries rfl
    (by rw [context])

end World

end EntityStore
