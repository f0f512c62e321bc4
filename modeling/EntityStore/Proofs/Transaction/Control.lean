import EntityStore.Proofs.Transaction.Inside

/-! # Statements about transactions

* `Session.control_cases` — a statement about transactions is refused, or it is one step of the
  engine.
* `Session.inside_savepoint`, `Session.inside_release` — savepoints within an open transaction.
-/

namespace EntityStore

open EntityStore.Engine (Database Handle Lock Transaction)
open EntityStore.Sql (Statement)

/-! ## Steps -/

namespace Session

open World (Step Inside)

variable {id : Nat} {w : World} {h : Handle} {α : Type}

/-- One step of the engine, in whatever way the world is put. -/
theorem onHandle_steps (found : w.handleOf id = some h)
    (step : List Lock → Handle → Except Refusal α × Handle) :
    ∃ others v, (onHandle id step).outcome w = ((step others h).1.mapError Refusal.toFailure, v)
      ∧ v.handleOf id = some (step others h).2 ∧ Step id w v := by
  obtain ⟨c, opened, found⟩ := World.connection_of_handle found
  exact ⟨w.others id c, _, outcome_onHandle opened found step, World.handleOf_putHandle opened _,
    .putHandle opened _⟩

/-- A statement about transactions is refused if it may be, or it is one step of the engine. -/
theorem control_cases (found : w.handleOf id = some h) (s : Statement) :
    ∃ result v, (control id s).outcome w = (result, v) ∧ Step id w v ∧
      ((mayFail h s = true ∧ ∃ r : Refusal, result = .error r.toFailure
          ∧ v.handleOf id = some (h.refused r s)) ∨
        ∃ others, result = (h.control others s).1.mapError Refusal.toFailure
          ∧ v.handleOf id = some (h.control others s).2) := by
  obtain ⟨c, opened, there⟩ := World.connection_of_handle found
  obtain ⟨refusal, count, may, outcome⟩ := outcome_control opened there s
  let counted : World := { w.putHandle id c h with statements := count }
  have foundAgain : counted.handleOf id = some h := World.handleOf_putHandle opened h
  have before : Step id w counted :=
    (Step.putHandle opened h).trans ⟨⟨rfl, rfl, rfl, fun _ _ => rfl⟩, rfl⟩
  obtain ⟨others, v, done, after, step⟩ :=
    onHandle_steps foundAgain fun others h => h.controlUnless refusal others s
  refine ⟨_, v, outcome.trans done, before.trans step, ?_⟩
  cases refusal with
  | none => exact .inr ⟨others, rfl, after⟩
  | some r => exact .inl ⟨may rfl, r, rfl, after⟩

/-! ## Savepoints -/

variable {Q R : Database → Prop} {B : Bindings} {base : World} {image current : Database} {begun : Bool}
  {points morePoints : List (String × Option Database)} {name : String} {saved : Option Database}

/-- A statement about transactions that never ends an open one, unless it may be refused. -/
theorem control_inside {s : Statement} (inside : Inside Q B base id image begun points w)
    (steps : ∀ (others : List Lock) (h : Handle), h.Within Q image begun points →
      (h.control others s).1 = .ok () ∧ (h.control others s).2.Within R image begun morePoints) :
    (∃ v, (control id s).outcome w = (.ok (), v) ∧ Inside R B base id image begun morePoints v)
      ∨ ∃ h, w.handleOf id = some h ∧ mayFail h s = true := by
  obtain ⟨h, found, within⟩ := inside.handle
  obtain ⟨result, v, done, beside, cases⟩ := control_cases found s
  rcases cases with ⟨fails, _⟩ | ⟨others, rfl, next⟩
  · exact .inr ⟨h, found, fails⟩
  · obtain ⟨succeeds, there⟩ := steps others h within
    rw [succeeds] at done
    exact .inl ⟨v, done, inside.step beside next there⟩

/-- A new savepoint, at which the database is as it is seen. -/
theorem control_savepoint (inside : Inside (· = current) B base id image begun points w)
    (name : String) :
    (∃ v saved, (control id (.savepoint name)).outcome w = (.ok (), v) ∧ saved.getD image = current
        ∧ Inside (· = current) B base id image begun ((name, saved) :: points) v)
      ∨ ∃ failure v, (control id (.savepoint name)).outcome w = (.error failure, v)
        ∧ Inside (· = current) B base id image begun points v := by
  obtain ⟨h, found, within⟩ := inside.handle
  obtain ⟨result, v, done, beside, cases⟩ := control_cases found (.savepoint name)
  rcases cases with ⟨_, r, rfl, left⟩ | ⟨others, rfl, next⟩
  · exact .inr ⟨_, v, done, inside.step beside left within⟩
  · obtain ⟨saved, holds, there⟩ := within.savepoint name
    exact .inl ⟨v, saved, done, holds, inside.step beside next there⟩

/-- A savepoint within another transaction is given up without fail. -/
theorem control_release (enclosed : begun = true ∨ points ≠ [])
    (inside : Inside Q B base id image begun ((name, saved) :: points) w) :
    ∃ v, (control id (.release name)).outcome w = (.ok (), v)
      ∧ Inside Q B base id image begun points v := by
  rcases control_inside (s := .release name) inside
    fun others _ within => within.release enclosed others with
    done | ⟨h, found, fails⟩
  · exact done
  · obtain ⟨_, again, within⟩ := inside.handle
    rw [found] at again
    cases again
    obtain ⟨_, ⟨t, opened, rfl, at_points⟩, _⟩ := within
    simp only [mayFail, opened, at_points, Engine.Handle.savepointsFrom_cons, List.drop_one,
      List.tail_cons, Bool.and_eq_true, Bool.not_eq_true', List.isEmpty_iff] at fails
    rcases enclosed with begun | nonempty
    · rw [begun] at fails; cases fails.1.2
    · exact absurd fails.2 nonempty

/-- The way back to the innermost savepoint is always open. -/
theorem control_rollbackTo (holds : R (saved.getD image))
    (inside : Inside Q B base id image begun ((name, saved) :: points) w) :
    ∃ v, (control id (.rollbackTo name)).outcome w = (.ok (), v)
      ∧ Inside R B base id image begun ((name, saved) :: points) v := by
  rcases control_inside (s := .rollbackTo name) inside
    fun _ _ within => within.rollbackTo holds with
    done | ⟨_, _, fails⟩
  · exact done
  · cases fails

end Session

end EntityStore
