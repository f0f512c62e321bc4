import EntityStore.Proofs.Outcome
import EntityStore.Store.Statement

/-! # Connections of a world

What the contexts of a world see of their databases, and what is on the disk:

* `World.handleOf` — the database behind the connection of a context, with its transaction.
* `World.seen`, `World.transactionOf` — what it sees of the database, and the transaction.
* `World.bindings` — what mappers know of contexts.
* `World.stored` — the database in a file, as another connection would find it.
* `World.Beside` — a world that differs from another in the database of one context only.
* `World.Step` — one that mappers know nothing else of, as after a step of the engine.
* `Session.outcome_onHandle` — a step of the engine changes the handle of one context and, on disk,
  at most the database of its file.
-/

namespace EntityStore

open EntityStore.Engine (Database Lock Handle Transaction)

/-! ## Disks -/

theorem Disk.file?_remove (d : Disk) (path other : List String) :
    (d.remove path).file? other = if other = path then none else d.file? other := by
  simp only [Disk.remove, Disk.file?]
  induction d.files with
  | nil => exact (ite_self none).symm
  | cons file rest ih =>
    by_cases dropped : file.1 = path
    · rw [List.filter_cons_of_neg (by simp [dropped]), ih, List.lookup_cons]
      by_cases same : other = path
      · rw [if_pos same, if_pos same]
      · rw [if_neg same, if_neg same, beq_eq_false_iff_ne.mpr (dropped ▸ same)]
    · rw [List.filter_cons_of_pos (by simp [dropped]), List.lookup_cons, List.lookup_cons, ih]
      by_cases same : other = path
      · rw [if_pos same, if_pos same, beq_eq_false_iff_ne.mpr (same ▸ Ne.symm dropped)]
      · rw [if_neg same, if_neg same]

theorem Disk.file?_write (d : Disk) (path other : List String) (content : Content) :
    (d.write path content).file? other = if other = path then some content else d.file? other := by
  simp only [Disk.write, Disk.file?, List.lookup_cons]
  by_cases same : other = path
  · simp [same]
  · rw [if_neg same, beq_eq_false_iff_ne.mpr same]
    exact (file?_remove d path other).trans (if_neg same)

/-! ## Worlds -/

def Context.settings (c : Context) : ContextConfig × Option String × Option String :=
  (c.config, c.nameOverride, c.userId)

namespace World

def context (w : World) (id : Nat) : Context := w.contexts.getD id default

/-- The database behind the connection of a context; nothing if it is closed. -/
def handleOf (w : World) (id : Nat) : Option Handle := (w.context id).connection.bind w.handle?

/-- What mappers remember, and the contexts that they look up. -/
def bindings (w : World) : List RegistryState × List (List (String × Nat)) :=
  (w.registries, w.groups)

def transactionOf (w : World) (id : Nat) : Option Transaction :=
  (w.context id).connection.bind (·.transaction)

/-- The database as a context sees it. -/
def seen (w : World) (id : Nat) : Option Database := (w.handleOf id).map (·.current)

/-- The file behind a context, if it is open; a database in memory has none. -/
def fileOf (w : World) (id : Nat) : Option (Option (List String)) :=
  (w.context id).connection.map Connection.file?

/-- The database in a file, which is empty if there is no file yet; nothing if the file holds
    something else. -/
def stored (w : World) (path : List String) : Option Database :=
  match w.disk.file? path with
  | none => some {}
  | some (.database image) => some image
  | some .foreign => none

def changed (w : World) (id : Nat) (f : Context → Context) : World :=
  { w with contexts := w.contexts.modify id f }

theorem context_changed {w : World} {id : Nat} (bound : id < w.contexts.length)
    (f : Context → Context) : (w.changed id f).context id = f (w.context id) := by
  simp [context, changed, List.getD_eq_getElem?_getD, List.getElem?_eq_getElem bound]

theorem context_changed_of_ne {id other : Nat} (different : other ≠ id) (w : World)
    (f : Context → Context) : (w.changed id f).context other = w.context other := by
  simp [context, changed, List.getD_eq_getElem?_getD, Ne.symm different]

/-- A number beyond those of the contexts stands for a closed context in memory. -/
theorem context_beyond {w : World} {id : Nat} (beyond : w.contexts.length ≤ id) :
    w.context id = default := by
  simp [context, List.getD_eq_getElem?_getD, List.getElem?_eq_none beyond]

theorem context_changed_cases (w : World) (id : Nat) (f : Context → Context) :
    (w.changed id f).context id = f (w.context id)
      ∨ (w.changed id f).context id = w.context id ∧ w.context id = default := by
  rcases Nat.lt_or_ge id w.contexts.length with bound | beyond
  · exact .inl (context_changed bound f)
  · refine .inr ⟨?_, context_beyond beyond⟩
    rw [context_beyond beyond]
    exact context_beyond (by simpa [changed] using beyond)

theorem lt_of_connection {w : World} {id : Nat} {c : Connection}
    (opened : (w.context id).connection = some c) : id < w.contexts.length := by
  refine Nat.lt_of_not_le fun beyond => ?_
  rw [context_beyond beyond] at opened
  cases opened

theorem handle?_transaction {w : World} {c : Connection} {h : Handle}
    (found : w.handle? c = some h) : h.transaction = c.transaction := by
  simp only [handle?] at found
  split at found
  · cases found; rfl
  · split at found
    · cases found; rfl
    · cases found
    · cases found; rfl

theorem handle?_image {w : World} {c : Connection} {h : Handle} {path : List String}
    (found : w.handle? c = some h) (file : c.backing = .file path) :
    w.stored path = some h.image := by
  simp only [handle?, file] at found
  simp only [stored]
  split at found
  · next same => cases found; rw [same]
  · cases found
  · next same => cases found; rw [same]

variable {w : World} {id : Nat} {c : Connection} {h : Handle}

theorem connection_of_handle (found : w.handleOf id = some h) :
    ∃ c, (w.context id).connection = some c ∧ w.handle? c = some h := by
  simpa only [handleOf, Option.bind_eq_some_iff] using found

theorem transactionOf_handle (found : w.handleOf id = some h) :
    w.transactionOf id = h.transaction := by
  obtain ⟨c, opened, found⟩ := connection_of_handle found
  rw [transactionOf, opened, handle?_transaction found]
  rfl

theorem stored_handle {path : List String} (found : w.handleOf id = some h)
    (file : w.fileOf id = some (some path)) : w.stored path = some h.image := by
  obtain ⟨c, opened, found⟩ := connection_of_handle found
  rw [fileOf, opened, Option.map_some, Option.some.injEq] at file
  refine handle?_image found ?_
  cases kind : c.backing <;> simp_all [Connection.file?]

theorem context_putHandle (opened : (w.context id).connection = some c) (h : Handle) :
    ∃ connection, (w.putHandle id c h).context id =
        { w.context id with connection := some connection }
      ∧ connection.file? = c.file? ∧ (w.putHandle id c h).handle? connection = some h := by
  refine ⟨_, context_changed (lt_of_connection opened) _, ?_, ?_⟩
  · cases backing : c.backing <;> simp [Connection.file?, backing]
  · cases backing : c.backing with
    | memory image => rfl
    | file path => simp [handle?, putHandle, backing, Disk.file?_write]

theorem handleOf_putHandle (opened : (w.context id).connection = some c) (h : Handle) :
    (w.putHandle id c h).handleOf id = some h := by
  obtain ⟨connection, same, _, found⟩ := context_putHandle opened h
  rw [handleOf, same]
  exact found

/-- On disk, a step of the engine changes at most the database behind the connection. -/
theorem stored_putHandle (h : Handle) (path : List String) :
    (w.putHandle id c h).stored path =
      if c.file? = some path then some h.image else w.stored path := by
  cases backing : c.backing with
  | memory image => simp [putHandle, stored, Connection.file?, backing]
  | file place =>
    simp only [putHandle, stored, backing, Disk.file?_write, Connection.file?, Option.some.injEq]
    by_cases same : path = place
    · simp [same]
    · simp [same, Ne.symm same]

/-- A world that differs from another in the database behind a context, in nothing else that
    lasts. -/
structure Beside (id : Nat) (w v : World) : Prop where
  settings : (v.context id).settings = (w.context id).settings
  generation : (v.context id).generation = (w.context id).generation
  file : v.fileOf id = w.fileOf id
  stored : ∀ path, w.fileOf id ≠ some (some path) → v.stored path = w.stored path

namespace Beside

variable {u v : World}

theorem refl (id : Nat) (w : World) : Beside id w w := ⟨rfl, rfl, rfl, fun _ _ => rfl⟩

theorem trans (first : Beside id u v) (second : Beside id v w) : Beside id u w where
  settings := second.settings.trans first.settings
  generation := second.generation.trans first.generation
  file := second.file.trans first.file
  stored path other :=
    (second.stored path (first.file ▸ other)).trans (first.stored path other)

end Beside

/-- A step of the engine behind a context, which mappers do not notice. -/
structure Step (id : Nat) (w v : World) : Prop extends Beside id w v where
  bindings : v.bindings = w.bindings

namespace Step

variable {u v : World}

theorem refl (id : Nat) (w : World) : Step id w w := ⟨.refl id w, rfl⟩

theorem trans (first : Step id u v) (second : Step id v w) : Step id u w :=
  ⟨first.toBeside.trans second.toBeside, second.bindings.trans first.bindings⟩

theorem putHandle (opened : (w.context id).connection = some c) (next : Handle) :
    Step id w (w.putHandle id c next) := by
  obtain ⟨connection, context, file, _⟩ := context_putHandle opened next
  refine ⟨⟨by rw [context]; rfl, by rw [context], ?_, ?_⟩, rfl⟩
  · rw [fileOf, context, fileOf, opened, Option.map_some, Option.map_some, file]
  · intro path other
    rw [stored_putHandle, if_neg]
    intro same
    exact other (by rw [fileOf, opened, Option.map_some, same])

/-- Neither the disk nor the contexts nor the bindings have changed. -/
theorem aside (disk : v.disk = w.disk) (contexts : v.contexts = w.contexts)
    (bindings : v.bindings = w.bindings) : Step id w v ∧ v.handleOf id = w.handleOf id := by
  have context : v.context id = w.context id := by rw [World.context, contexts, World.context]
  refine ⟨⟨⟨by rw [context], by rw [context], by rw [fileOf, context, fileOf], fun path _ => ?_⟩,
    bindings⟩, ?_⟩
  · rw [World.stored, disk, World.stored]
  · simp only [handleOf, context]
    cases (w.context id).connection with
    | none => rfl
    | some c => simp only [Option.bind_some, handle?, disk]

end Step

end World

/-! ## Steps of the engine -/

namespace Session

variable {α : Type} {w : World} {id : Nat} {c : Connection}

theorem outcome_connection (opened : (w.context id).connection = some c) :
    (connection id).outcome w = (.ok c, w) := by
  rw [connection, outcome_bind_ok (outcome_context id w)]
  rw [World.context] at opened
  simp only [opened]
  rfl

theorem outcome_connection_none (closed : (w.context id).connection = none) :
    ∃ failure, (connection id).outcome w = (.error failure, w) := by
  rw [connection, outcome_bind_ok (outcome_context id w)]
  rw [World.context] at closed
  simp only [closed]
  exact ⟨_, rfl⟩

theorem outcome_onHandle {h : Handle} (opened : (w.context id).connection = some c)
    (found : w.handle? c = some h) (step : List Lock → Handle → Except Refusal α × Handle) :
    (onHandle id step).outcome w =
      ((step (w.others id c) h).1.mapError Refusal.toFailure,
        w.putHandle id c (step (w.others id c) h).2) := by
  rw [onHandle, outcome_bind_ok (outcome_connection opened), outcome_bind_ok (outcome_get w)]
  simp only [found]
  rcases step (w.others id c) h with ⟨result, next⟩
  rw [outcome_bind_ok (outcome_set w _)]
  cases result <;> rfl

theorem outcome_onHandle_none (absent : w.handleOf id = none)
    (step : List Lock → Handle → Except Refusal α × Handle) :
    ∃ failure, (onHandle id step).outcome w = (.error failure, w) := by
  cases opened : (w.context id).connection with
  | none =>
    obtain ⟨failure, failed⟩ := outcome_connection_none opened
    exact ⟨failure, outcome_bind_error failed _⟩
  | some c =>
    have found : w.handle? c = none := by simpa [World.handleOf, opened] using absent
    rw [onHandle, outcome_bind_ok (outcome_connection opened), outcome_bind_ok (outcome_get w)]
    simp only [found]
    exact ⟨_, rfl⟩

end Session

end EntityStore
