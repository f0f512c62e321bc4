import EntityStore.Proofs.Lifecycle.Opening

/-! # Idle contexts

A context with files on which no transaction is open, while nothing has changed on disk:

* `World.Uses`, `World.DirectoryBacked` — the files of a context.
* `World.Idle` — a world in which nothing has changed on disk, and no transaction is open.
* `Session.keeps_openContext_idle` — opening the context leaves it so.
-/

namespace EntityStore

namespace World

/-- The files that a context is connected to or will be. -/
def Uses (w : World) (id : Nat) (path : List String) : Prop :=
  w.fileOf id = some (some path) ∨ (w.context id).place? = some path

/-- A context that keeps its database in a directory. -/
structure DirectoryBacked (w : World) (id : Nat) : Prop where
  storage : ∃ directory, (w.context id).config.storage = .directory directory
  file : ∀ file, w.fileOf id = some file → ∃ path, file = some path

/-- Nothing has changed on disk since the world `base`, and no transaction is open on a context. -/
structure Idle (B : Bindings) (base : World) (id : Nat) (w : World) : Prop where
  settings : (w.context id).settings = (base.context id).settings
  stored : ∀ path, w.stored path = base.stored path
  bindings : B w.bindings
  idle : w.transactionOf id = none
  file : ∀ file, w.fileOf id = some file → ∃ path, file = some path ∧ base.Uses id path

variable {B : Bindings} {base w v : World} {id : Nat}

theorem Idle.start (backed : w.DirectoryBacked id) (bindings : B w.bindings)
    (idle : w.transactionOf id = none) : Idle B w id w := by
  refine ⟨rfl, fun _ => rfl, bindings, idle, fun file opened => ?_⟩
  obtain ⟨path, rfl⟩ := backed.file file opened
  exact ⟨path, rfl, .inl opened⟩

theorem Idle.still (idle : Idle B base id w) (still : Still id w v) : Idle B base id v where
  settings := still.settings.trans idle.settings
  stored path := (still.stored_same path).trans (idle.stored path)
  bindings := still.bindings ▸ idle.bindings
  idle := (still.idle idle.idle).2
  file file opened := idle.file file (still.file ▸ opened)

/-- The disk holds the same, the contexts are the same, and the bindings are as they may be. -/
theorem Idle.congr (idle : Idle B base id w) (bindings : B v.bindings)
    (stored : ∀ path, v.stored path = w.stored path) (contexts : v.contexts = w.contexts) :
    Idle B base id v := by
  have context : v.context id = w.context id := by rw [World.context, contexts, World.context]
  refine ⟨context ▸ idle.settings, fun path => (stored path).trans (idle.stored path), bindings,
    ?_, fun file opened => idle.file file ?_⟩
  · rw [transactionOf, context]
    exact idle.idle
  · rw [fileOf, ← context]
    exact opened

end World

namespace Session

open World (Idle)

variable {B : Bindings} {base w : World} {id : Nat}

theorem idle_changed {f : Context → Context} (settings : ∀ c, (f c).settings = c.settings)
    (same : (w.context id).settings = (base.context id).settings)
    (stored : ∀ path, w.stored path = base.stored path) (bindings : B w.bindings)
    (idle : ∀ c, (f (w.context id)).connection = some c → c.transaction = none
      ∧ ∃ path, c.file? = some path ∧ base.Uses id path) :
    Idle B base id (w.changed id f) := by
  rcases Nat.lt_or_ge id w.contexts.length with bound | beyond
  · have context := World.context_changed bound f
    refine ⟨?_, stored, bindings, ?_, fun file opened => ?_⟩
    · rw [context, settings, same]
    · rw [World.transactionOf, context]
      cases found : (f (w.context id)).connection with
      | none => rfl
      | some c => exact (idle c found).1
    · rw [World.fileOf, context, Option.map_eq_some_iff] at opened
      obtain ⟨c, found, rfl⟩ := opened
      exact (idle c found).2
  · have context : (w.changed id f).context id = default :=
      World.context_beyond (by simpa [World.changed] using beyond)
    refine ⟨?_, stored, bindings, ?_, fun file opened => ?_⟩
    · rw [context, ← World.context_beyond beyond, same]
    · rw [World.transactionOf, context]
      rfl
    · rw [World.fileOf, context] at opened
      cases opened

theorem idle_close (same : (w.context id).settings = (base.context id).settings)
    (stored : ∀ path, w.stored path = base.stored path) (bindings : B w.bindings) :
    Idle B base id ((forceClose id).outcome w).2 :=
  idle_changed (fun _ => rfl) same stored bindings nofun

/-- Opening a context changes no database and opens no transaction. -/
theorem keeps_openContext_idle {directory : String}
    (storage : (base.context id).config.storage = .directory directory) :
    Keeps (Idle B base id) (openContext id) := by
  intro w idle
  cases closed : (w.context id).connection with
  | some c =>
    rw [openContext_open closed]
    exact idle
  | none =>
    rcases openContext_cases closed with ⟨failure, v, failed, alike⟩ | ⟨c, v, opened, opens, alike⟩
    · rw [failed]
      exact idle.congr (alike.bindings ▸ idle.bindings) alike.stored alike.contexts
    · rw [opened]
      have reconnected : Idle B base id (w.reconnected id c) := by
        refine idle_changed (fun _ => rfl) idle.settings idle.stored idle.bindings ?_
        rintro _ ⟨⟩
        cases opens with
        | memory memory =>
          have config : (w.context id).config = (base.context id).config := congrArg Prod.fst idle.settings
          rw [config, storage] at memory
          cases memory
        | @file path place =>
          exact ⟨rfl, path, rfl, .inr (Context.place?_congr idle.settings ▸ place)⟩
      exact reconnected.congr (alike.bindings ▸ idle.bindings) alike.stored alike.contexts

end Session

end EntityStore
