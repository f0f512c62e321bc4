import EntityStore.Proofs.Migration.Steps

/-! # Atomicity of migrations

A migration that fails is undone, with one exception: when its own savepoint has opened the
transaction, giving the savepoint up commits, and if another connection prevents that the savepoint
stays open.

* `Session.ReleaseRefused`, `Session.UndoRefused` — the exception, after success and after failure.
* `Session.MigrationEnd` — what a migration can come to.
* `Session.migrate_atomic_iff` — a migration that fails is undone unless the release is refused.
-/

namespace EntityStore

open EntityStore.Engine (Database Handle)

namespace Session

open World (Inside)

variable {id : Nat} {p : MappingPlan} {u v w : World}

/-- All definitions of a migration are done, but its savepoint cannot be given up. -/
def ReleaseRefused (id : Nat) (p : MappingPlan) (w done : World) : Prop :=
  ∃ u report failure, (control id (.savepoint migrationPoint)).outcome w = (.ok (), u)
    ∧ (migrateWithin id p).outcome u = (.ok report, done)
    ∧ ((control id (.release migrationPoint)).outcome done).1 = .error failure

/-- A definition of a migration has failed, and after the way back its savepoint cannot be given up. -/
def UndoRefused (id : Nat) (p : MappingPlan) (w : World) : Prop :=
  ∃ u failed back failure refusal, (control id (.savepoint migrationPoint)).outcome w = (.ok (), u)
    ∧ (migrateWithin id p).outcome u = (.error failure, failed)
    ∧ (control id (.rollbackTo migrationPoint)).outcome failed = (.ok (), back)
    ∧ ((control id (.release migrationPoint)).outcome back).1 = .error refusal

/-- The definitions of a migration are done or not before the savepoint is given up. -/
theorem ReleaseRefused.unique {done : World} {result : Except Failure MigrationReport}
    (marked : (control id (.savepoint migrationPoint)).outcome w = (.ok (), u))
    (ran : (migrateWithin id p).outcome u = (result, v)) (refused : ReleaseRefused id p w done) :
    (∃ report, result = .ok report) ∧ v = done
      ∧ ∃ failure, ((control id (.release migrationPoint)).outcome v).1 = .error failure := by
  obtain ⟨u', report, failure, again, ranAgain, released⟩ := refused
  rw [marked] at again
  cases again
  rw [ran] at ranAgain
  cases ranAgain
  exact ⟨⟨report, rfl⟩, rfl, failure, released⟩

theorem UndoRefused.unique {result : Except Failure MigrationReport}
    (marked : (control id (.savepoint migrationPoint)).outcome w = (.ok (), u))
    (ran : (migrateWithin id p).outcome u = (result, v)) (refused : UndoRefused id p w) :
    (∃ failure, result = .error failure) ∧ ∃ back refusal,
      (control id (.rollbackTo migrationPoint)).outcome v = (.ok (), back)
        ∧ ((control id (.release migrationPoint)).outcome back).1 = .error refusal := by
  obtain ⟨u', failed, back, failure, refusal, again, ranAgain, undone, released⟩ := refused
  rw [marked] at again
  cases again
  rw [ran] at ranAgain
  cases ranAgain
  exact ⟨⟨failure, rfl⟩, back, refusal, undone, released⟩

/-- The release of the savepoint of a migration is not refused. -/
structure Unrefused (id : Nat) (p : MappingPlan) (w : World) : Prop where
  done : ∀ done, ¬ ReleaseRefused id p w done
  undone : ¬ UndoRefused id p w

theorem unrefused_of_unmarked {failure : Failure}
    (refused : (control id (.savepoint migrationPoint)).outcome w = (.error failure, u)) :
    Unrefused id p w := by
  refine ⟨?_, ?_⟩
  · rintro _ ⟨_, _, _, marked, _⟩
    rw [refused] at marked
    cases marked
  · rintro ⟨_, _, _, _, _, marked, _⟩
    rw [refused] at marked
    cases marked

/-- Where the savepoint is given up after success. -/
theorem unrefused_of_done {report : MigrationReport} {x : World}
    (marked : (control id (.savepoint migrationPoint)).outcome w = (.ok (), u))
    (ran : (migrateWithin id p).outcome u = (.ok report, v))
    (released : (control id (.release migrationPoint)).outcome v = (.ok (), x)) : Unrefused id p w := by
  refine ⟨fun _ refused => ?_, fun refused => ?_⟩
  · obtain ⟨_, _, _, failed⟩ := refused.unique marked ran
    rw [released] at failed
    cases failed
  · obtain ⟨⟨_, absurd⟩, _⟩ := refused.unique marked ran
    cases absurd

/-- Where the savepoint is given up after failure. -/
theorem unrefused_of_undone {failure : Failure} {x y : World}
    (marked : (control id (.savepoint migrationPoint)).outcome w = (.ok (), u))
    (ran : (migrateWithin id p).outcome u = (.error failure, v))
    (back : (control id (.rollbackTo migrationPoint)).outcome v = (.ok (), x))
    (released : (control id (.release migrationPoint)).outcome x = (.ok (), y)) : Unrefused id p w := by
  refine ⟨fun _ refused => ?_, fun refused => ?_⟩
  · obtain ⟨⟨_, absurd⟩, _⟩ := refused.unique marked ran
    cases absurd
  · obtain ⟨_, _, _, again, failed⟩ := refused.unique marked ran
    rw [back] at again
    cases again
    rw [released] at failed
    cases failed

/-- What a migration comes to: it is done, it is undone, or its savepoint, the outermost, stays open. -/
inductive MigrationEnd (id : Nat) (p : MappingPlan) (w : World) :
    Except Failure MigrationReport × World → Prop
  | done {report : MigrationReport} {v : World}
      (nesting : v.transactionOf id = none ↔ w.transactionOf id = none)
      (released : Unrefused id p w) : MigrationEnd id p w (.ok report, v)
  | undone {failure : Failure} {v : World} (seen : v.seen id = w.seen id)
      (nesting : v.transactionOf id = none ↔ w.transactionOf id = none)
      (released : Unrefused id p w) : MigrationEnd id p w (.error failure, v)
  | doneOpen {failure : Failure} {v done : World} (idle : w.transactionOf id = none)
      (stays : v.transactionOf id ≠ none) (seen : v.seen id = done.seen id)
      (refused : ReleaseRefused id p w done) : MigrationEnd id p w (.error failure, v)
  | undoneOpen {failure : Failure} {v : World} (idle : w.transactionOf id = none)
      (stays : v.transactionOf id ≠ none) (seen : v.seen id = w.seen id)
      (refused : UndoRefused id p w) : MigrationEnd id p w (.error failure, v)

/-! ## Without a transaction -/

section
variable {B : Bindings} {base : World} {image current : Database} {name : String} {saved : Option Database}

/-- Outside of transactions, the savepoint of a migration opens one. -/
theorem control_savepoint_alone {h : Handle} (found : w.handleOf id = some h)
    (idle : h.transaction = none) (name : String) :
    (∃ v, (control id (.savepoint name)).outcome w = (.ok (), v)
        ∧ Inside (fun _ => True) (fun _ => True) w id h.image false [(name, none)] v)
      ∨ ∃ failure v, (control id (.savepoint name)).outcome w = (.error failure, v)
        ∧ v.handleOf id = some h := by
  obtain ⟨result, v, done, step, cases⟩ := control_cases found (.savepoint name)
  rcases cases with ⟨_, r, rfl, same⟩ | ⟨others, rfl, next⟩
  · exact .inr ⟨_, v, done, same⟩
  · refine .inl ⟨v, done, trivial, ⟨_, next, ?_⟩, step.toBeside, fun _ file => World.stored_handle found file⟩
    simp only [Handle.control, Handle.savepoint, idle]
    exact ⟨rfl, ⟨_, rfl, rfl, rfl⟩, trivial⟩

/-- Giving up the outermost savepoint ends the transaction, or it is refused and the transaction goes on. -/
theorem control_release_alone (inside : Inside (· = current) B base id image false [(name, saved)] w) :
    (∃ v, (control id (.release name)).outcome w = (.ok (), v) ∧ v.handleOf id = some ⟨current, none⟩)
      ∨ ∃ failure v, (control id (.release name)).outcome w = (.error failure, v)
        ∧ Inside (· = current) B base id image false [(name, saved)] v := by
  obtain ⟨h, found, within⟩ := inside.handle
  obtain ⟨result, v, done, step, cases⟩ := control_cases found (.release name)
  rcases cases with ⟨_, r, rfl, next⟩ | ⟨others, rfl, next⟩
  · exact .inr ⟨_, v, done, inside.step step next (within.refused_release r name)⟩
  · rw [show h.control others (.release name) = h.release others name from rfl] at done next
    -- To release the outermost savepoint is to commit, which other connections may hinder.
    rcases within.releaseOutermost others with released | ⟨r, waits, refused, left⟩
    · rw [released] at done next
      exact .inl ⟨v, done, within.current ▸ next⟩
    · rw [refused] at done next
      exact .inr ⟨_, v, done, inside.step step next left⟩

end

theorem migrate_alone (definite : p.Definite) {h : Handle} (found : w.handleOf id = some h)
    (idle : h.transaction = none) : MigrationEnd id p w ((migrate id p).outcome w) := by
  have before : w.transactionOf id = none := by rw [World.transactionOf_handle found, idle]
  have seen : w.seen id = some h.image := by
    rw [World.seen, found, Option.map_some, Handle.current, idle]
    rfl
  -- The savepoint begins a transaction; its end commits, and a failure before that undoes all.
  rcases control_savepoint_alone found idle migrationPoint with
    ⟨u, marked, inside⟩ | ⟨failure, v, refused, same⟩
  · have kept := keeps_migrateWithin definite .true u inside
    rcases ran : (migrateWithin id p).outcome u with ⟨result, v⟩
    rw [ran] at kept
    cases result with
    | ok report =>
      have outcome := outcome_migrate_ok marked ran
      obtain ⟨current, _, kept⟩ := kept.exact
      rcases control_release_alone kept with ⟨x, released, next⟩ | ⟨failure, x, refused, left⟩
      · rw [released] at outcome
        rw [outcome]
        exact .done (iff_of_true (World.transactionOf_handle next) before)
          (unrefused_of_done marked ran released)
      · rw [refused] at outcome
        rw [outcome]
        exact .doneOpen before left.transactionOf_ne (left.seen.trans kept.seen.symm)
          ⟨u, report, failure, marked, ran, by rw [refused]⟩
    | error failure =>
      obtain ⟨raised, outcome⟩ := outcome_migrate_error marked ran
      obtain ⟨x, back, inside⟩ := control_rollbackTo (R := (· = h.image)) rfl kept
      rw [outcome_bind_ok back] at outcome
      rcases control_release_alone inside with ⟨y, released, next⟩ | ⟨refusal, y, refused, left⟩
      · rw [released] at outcome
        rw [outcome]
        refine .undone ?_ (iff_of_true (World.transactionOf_handle next) before)
          (unrefused_of_undone marked ran back released)
        rw [seen, World.seen, next]
        rfl
      · rw [refused] at outcome
        rw [outcome]
        exact .undoneOpen before left.transactionOf_ne (left.seen.trans seen.symm)
          ⟨u, v, x, failure, refusal, marked, ran, back, by rw [refused]⟩
  · rw [show (migrate id p).outcome w = (.error failure, v) from outcome_bind_error refused _]
    refine .undone (by rw [World.seen, same, World.seen, found]) (iff_of_true ?_ before)
      (unrefused_of_unmarked refused)
    rw [World.transactionOf_handle same, idle]

/-! ## Within a transaction -/

/-- Within another transaction the savepoint of a migration can always be given up. -/
theorem released_inside {base : World} {image current : Database} {begun : Bool}
    {points : List (String × Option Database)} (definite : p.Definite)
    (inside : Inside (· = current) B base id image begun points w) : Unrefused id p w := by
  have enclosed : begun = true ∨ points ≠ [] := by
    obtain ⟨_, _, within⟩ := inside.handle
    exact within.rooted
  rcases control_savepoint inside migrationPoint with
    ⟨u, saved, marked, same, inside⟩ | ⟨failure, u, failed, _⟩
  · have kept := keeps_migrateWithin definite .true u (inside.imp fun _ _ => trivial)
    rcases ran : (migrateWithin id p).outcome u with ⟨result, v⟩
    rw [ran] at kept
    cases result with
    | ok report =>
      obtain ⟨x, released, _⟩ := control_release enclosed kept
      exact unrefused_of_done marked ran released
    | error failure =>
      obtain ⟨x, back, inside⟩ := control_rollbackTo (R := (· = current)) same kept
      obtain ⟨y, released, _⟩ := control_release enclosed inside
      exact unrefused_of_undone marked ran back released
  · exact unrefused_of_unmarked failed

/-! ## The whole -/

theorem migrate_end (id : Nat) (definite : p.Definite) (w : World) :
    MigrationEnd id p w ((migrate id p).outcome w) := by
  cases found : w.handleOf id with
  | none =>
    obtain ⟨failure, refused⟩ := control_none found (.savepoint migrationPoint)
    rw [show (migrate id p).outcome w = (.error failure, w) from outcome_bind_error refused _]
    exact .undone rfl Iff.rfl (unrefused_of_unmarked refused)
  | some h =>
    -- Alone the migration has a transaction of its own; within another its savepoint is an inner one.
    cases opened : h.transaction with
    | none => exact migrate_alone definite found opened
    | some t =>
      have inside : Inside (· = h.current) (fun _ => True) w id h.image t.begun t.savepoints w :=
        .start trivial found ⟨rfl, ⟨t, opened, rfl, rfl⟩, rfl⟩
      have released := released_inside definite inside
      have before := inside.transactionOf_ne
      rcases migrate_inside definite .true trivial inside with
        ⟨report, v, outcome, after⟩ | ⟨failure, v, outcome, after⟩
      · rw [outcome]
        exact .done (iff_of_false after.transactionOf_ne before) released
      · rw [outcome]
        exact .undone (after.seen.trans inside.seen.symm) (iff_of_false after.transactionOf_ne before)
          released

/-- A migration leaves a transaction open if and only if one was open before, and if it fails the
    connection sees the database that it saw before — unless the savepoint, which then was the
    outermost, cannot be given up: in that case it stays open, with all definitions done or, after a
    definition that has failed, with all undone. -/
theorem migrate_atomic_iff (id : Nat) (p : MappingPlan) (definite : p.Definite) (w : World) :
    (∀ report v, (migrate id p).outcome w = (.ok report, v) →
        (v.transactionOf id = none ↔ w.transactionOf id = none))
      ∧ (∀ failure v, (migrate id p).outcome w = (.error failure, v) →
        ((v.seen id = w.seen id ∧ (v.transactionOf id = none ↔ w.transactionOf id = none))
          ↔ (∀ done, ¬ ReleaseRefused id p w done) ∧ ¬ UndoRefused id p w))
      ∧ (∀ done, ReleaseRefused id p w done → ∃ failure v,
        (migrate id p).outcome w = (.error failure, v) ∧ w.transactionOf id = none
          ∧ v.transactionOf id ≠ none ∧ v.seen id = done.seen id)
      ∧ (UndoRefused id p w → ∃ failure v,
        (migrate id p).outcome w = (.error failure, v) ∧ w.transactionOf id = none
          ∧ v.transactionOf id ≠ none ∧ v.seen id = w.seen id) := by
  -- Each of the four ends excludes the others, which gives both directions.
  have ends := migrate_end id definite w
  generalize (migrate id p).outcome w = outcome at ends
  cases ends with
  | done nesting released =>
    refine ⟨?_, nofun, fun done refused => absurd refused (released.done done),
      fun refused => absurd refused released.undone⟩
    rintro _ _ ⟨⟩
    exact nesting
  | undone seen nesting released =>
    refine ⟨nofun, ?_, fun done refused => absurd refused (released.done done),
      fun refused => absurd refused released.undone⟩
    rintro _ _ ⟨⟩
    exact iff_of_true ⟨seen, nesting⟩ ⟨released.done, released.undone⟩
  | doneOpen idle stays seen refused =>
    refine ⟨nofun, ?_, fun other again => ?_, fun again => ?_⟩
    · rintro _ _ ⟨⟩
      exact iff_of_false (fun both => stays (both.2.mpr idle)) fun never => never.1 _ refused
    · obtain ⟨u, report, _, marked, ran, _⟩ := refused
      obtain ⟨_, rfl, _⟩ := again.unique marked ran
      exact ⟨_, _, rfl, idle, stays, seen⟩
    · obtain ⟨u, report, _, marked, ran, _⟩ := refused
      obtain ⟨⟨_, absurd⟩, _⟩ := again.unique marked ran
      cases absurd
  | undoneOpen idle stays seen refused =>
    refine ⟨nofun, ?_, fun other again => ?_, fun _ => ⟨_, _, rfl, idle, stays, seen⟩⟩
    · rintro _ _ ⟨⟩
      exact iff_of_false (fun both => stays (both.2.mpr idle)) fun never => never.2 refused
    · obtain ⟨u, failed, _, _, _, marked, ran, _⟩ := refused
      obtain ⟨⟨_, absurd⟩, _⟩ := again.unique marked ran
      cases absurd

def notesPlan : MappingPlan where
  entity := "app.Note"
  table := "notes"
  tag := "main"
  columns := [{ field := "id", column := "id", semantic := .int64, affinity := .integer
                bind := .integer, decode := .int64, primaryKey := true, index := false }]
  primaryKey := 0
  keyColumn := "id"
  relations := []

/-- A world with an open context, whose first release of a savepoint is refused. -/
def refusingWorld : World where
  contexts := [{ config := {}, connection := some { backing := .memory {} } }]
  faults := { within n := if n = 5 then some .busy else none }

/-- All is done there, but the savepoint stays open. -/
theorem releaseRefused_notes : notesPlan.Definite ∧ ∃ done failure v,
    ReleaseRefused 0 notesPlan refusingWorld done
      ∧ (migrate 0 notesPlan).outcome refusingWorld = (.error failure, v)
      ∧ v.transactionOf 0 ≠ none ∧ v.seen 0 = done.seen 0 := by
  have definite : notesPlan.Definite := MappingPlan.Unbroken.definite ⟨by decide, by decide⟩
  have fails : ((do
      control 0 (.savepoint migrationPoint)
      let _ ← migrateWithin 0 notesPlan
      attempt (control 0 (.release migrationPoint)) : Session _).outcome refusingWorld).1.toOption.map
        (·.isOk) = some false := by decide +kernel
  obtain ⟨done, refused⟩ : ∃ done, ReleaseRefused 0 notesPlan refusingWorld done := by
    rcases marked : (control 0 (.savepoint migrationPoint)).outcome refusingWorld with ⟨_ | _, u⟩
    · rw [outcome_bind_error marked] at fails; cases fails
    rcases ran : (migrateWithin 0 notesPlan).outcome u with ⟨_ | report, done⟩
    · rw [outcome_bind_ok marked, outcome_bind_error ran] at fails; cases fails
    rw [outcome_bind_ok marked, outcome_bind_ok ran, outcome_attempt] at fails
    rcases released : (control 0 (.release migrationPoint)).outcome done with ⟨failure | _, v⟩
    · exact ⟨done, u, report, failure, marked, ran, by rw [released]⟩
    · rw [released] at fails; cases fails
  obtain ⟨failure, v, outcome, _, stays, seen⟩ :=
    (migrate_atomic_iff 0 notesPlan definite refusingWorld).2.2.1 done refused
  exact ⟨definite, done, failure, v, refused, outcome, stays, seen⟩

end Session

end EntityStore
