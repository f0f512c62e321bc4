import EntityStore.Engine.Transaction

/-! # Transactions on one database

What a statement does to an open transaction:

* `Program.Keeps` — a program that leaves the transaction open, and a property of the database true.
* `Handle.Within` — a database with a transaction that is open, and what of it only its end can
  change.
* `Handle.Within.run` — a program leaves all of that as it is.
* `Handle.Within.savepoint`, `Handle.Within.release`, `Handle.Within.rollbackTo` — so do savepoints,
  their own list apart.
* `Handle.Within.commit`, `Handle.Within.releaseOutermost` — a transaction ends, or it goes on.
* `Handle.begin_cases` — a transaction begins, or the one that is open is spared.
-/

namespace EntityStore.Engine

open EntityStore (Refusal)
open EntityStore.Sql (Datum sameName)

variable {Q : Database → Prop} {image : Database} {begun : Bool}
  {points : List (String × Option Database)} {h : Handle} {name : String}

/-! ## Programs -/

/-- What a statement that stops leaves of a property; the end of the transaction leaves nothing. -/
def StopEffect.Keeps (Q : Database → Prop) : StopEffect → Prop
  | .undo => True
  | .keep db => Q db
  | .endTransaction => False

/-- Whatever a program does to a database, a property stays true and the transaction open. -/
def Program.Keeps (Q : Database → Prop) (p : Program) : Prop :=
  ∀ parameters db, Q db →
    match p.run parameters db with
    | .ok outcome => Q outcome.database
    | .error stop => stop.effect.Keeps Q

/-- A program whose stops undo what it has done, and whose changes keep a property. -/
theorem Program.Keeps.define {change : Database → Database} (kept : ∀ db, Q db → Q (change db)) :
    (Program.define change).Keeps Q := fun _ db holds => kept db holds

theorem Program.Keeps.nothing : Program.nothing.Keeps Q := fun _ _ holds => holds

/-! ## Open transactions -/

/-- A database with an open transaction: what others see of it, how the transaction has begun, its
    savepoints, and a property of what the connection itself sees. -/
structure Handle.Within (Q : Database → Prop) (image : Database) (begun : Bool)
    (points : List (String × Option Database)) (h : Handle) : Prop where
  image_eq : h.image = image
  transaction : ∃ t, h.transaction = some t ∧ t.begun = begun ∧ t.savepoints = points
  current : Q h.current

namespace Handle

theorem Within.imp {R : Database → Prop} (weaker : ∀ db, Q db → R db)
    (within : h.Within Q image begun points) : h.Within R image begun points :=
  ⟨within.image_eq, within.transaction, weaker _ within.current⟩

/-- What has opened the transaction is still there. -/
theorem Within.rooted (within : h.Within Q image begun points) : begun = true ∨ points ≠ [] := by
  obtain ⟨_, ⟨t, _, rfl, rfl⟩, _⟩ := within
  exact t.rooted

theorem current_some (image : Database) (t : Transaction) :
    (Handle.mk image (some t)).current = t.changed.getD image := rfl

/-- A statement of a transaction changes the transaction, and of it neither how it has begun nor
    the savepoints. -/
theorem Within.run (within : h.Within Q image begun points) {p : Program} (kept : p.Keeps Q)
    (others : List Lock) (parameters : List Datum) :
    (h.run others p parameters).2.Within Q image begun points := by
  obtain ⟨rfl, ⟨t, opened, rfl, rfl⟩, holds⟩ := within
  have kept := kept parameters h.current holds
  have unchanged : h.Within Q h.image t.begun t.savepoints := ⟨rfl, ⟨t, opened, rfl, rfl⟩, holds⟩
  have same : t.changed.getD h.image = h.current := by simp only [Handle.current, opened]; rfl
  simp only [Handle.run, opened, runWithin]
  -- A program that stops may undo what it has done or keep it, but it may not end the transaction.
  cases p.writes with
  | true =>
    simp only [↓reduceIte]
    split
    · exact unchanged
    · split
      · next outcome ran =>
        rw [ran] at kept
        exact ⟨rfl, ⟨_, rfl, rfl, rfl⟩, kept⟩
      · next stop ran =>
        rw [ran] at kept
        rcases stop with ⟨fault, effect⟩
        cases effect with
        | undo => exact ⟨rfl, ⟨_, rfl, rfl, rfl⟩, holds⟩
        | keep db => exact ⟨rfl, ⟨_, rfl, rfl, rfl⟩, kept⟩
        | endTransaction => exact kept.elim
  | false =>
    simp only [Bool.false_eq_true, ↓reduceIte]
    split
    · exact unchanged
    · -- A statement that only reads may still take a lock.
      exact ⟨rfl, ⟨_, rfl, rfl, rfl⟩, by rw [current_some, same]; exact holds⟩

/-! ## Savepoints -/

theorem savepointsFrom_cons (saved : Option Database) (rest : List (String × Option Database)) :
    savepointsFrom name ((name, saved) :: rest) = (name, saved) :: rest := by
  simp [savepointsFrom, sameName]

/-- A savepoint within a transaction is the innermost from then on. -/
theorem Within.savepoint (within : h.Within Q image begun points) (name : String) :
    ∃ saved, Q (saved.getD image) ∧
      (h.savepoint name).Within Q image begun ((name, saved) :: points) := by
  obtain ⟨rfl, ⟨t, opened, rfl, rfl⟩, holds⟩ := within
  have same : t.changed.getD h.image = h.current := by simp only [Handle.current, opened]; rfl
  simp only [Handle.savepoint, opened]
  exact ⟨t.changed, same ▸ holds, rfl, ⟨_, rfl, rfl, rfl⟩, by rw [current_some, same]; exact holds⟩

/-- Giving up the innermost savepoint of a transaction that something else has opened. -/
theorem Within.release {saved : Option Database} (enclosed : begun = true ∨ points ≠ [])
    (others : List Lock) (within : h.Within Q image begun ((name, saved) :: points)) :
    (h.release others name).1 = .ok () ∧ (h.release others name).2.Within Q image begun points := by
  obtain ⟨rfl, ⟨t, opened, rfl, at_points⟩, holds⟩ := within
  have same : t.changed.getD h.image = h.current := by simp only [Handle.current, opened]; rfl
  have inner : ¬ (points.isEmpty && !t.begun) = true := by
    cases enclosed with
    | inl begun => simp [begun]
    | inr nonempty => simp [nonempty]
  simp only [Handle.release, opened, at_points, savepointsFrom_cons]
  rw [dif_neg inner]
  exact ⟨rfl, rfl, ⟨_, rfl, rfl, rfl⟩, by rw [current_some, same]; exact holds⟩

/-- Coming back to the innermost savepoint brings back what has been changed then. -/
theorem Within.rollbackTo {saved : Option Database} {R : Database → Prop}
    (savedHolds : R (saved.getD image))
    (within : h.Within Q image begun ((name, saved) :: points)) :
    (h.rollbackTo name).1 = .ok ()
      ∧ (h.rollbackTo name).2.Within R image begun ((name, saved) :: points) := by
  obtain ⟨rfl, ⟨t, opened, rfl, at_points⟩, holds⟩ := within
  simp only [Handle.rollbackTo, opened, at_points, savepointsFrom_cons]
  exact ⟨trivial, rfl, ⟨_, rfl, rfl, rfl⟩, savedHolds⟩

/-! ## The end of a transaction -/

/-- A transaction that waits for others is as it was but for its lock. -/
theorem Within.waiting {t : Transaction} (within : h.Within Q image begun points)
    (opened : h.transaction = some t) :
    Handle.Within Q image begun points { h with transaction := some t.waiting } := by
  obtain ⟨rfl, ⟨u, same, rfl, rfl⟩, holds⟩ := within
  cases opened.symm.trans same
  have current : t.changed.getD h.image = h.current := by simp only [Handle.current, opened]; rfl
  exact ⟨rfl, ⟨_, rfl, rfl, rfl⟩, by rw [current_some]; exact current ▸ holds⟩

theorem commitChanges_cases (h : Handle) (t : Transaction) (others : List Lock) :
    h.commitChanges t others = (.ok (), ⟨t.changed.getD h.image, none⟩)
      ∨ ∃ r, h.commitChanges t others = (.error r, { h with transaction := some t.waiting }) := by
  rw [commitChanges]
  split
  · exact .inr ⟨_, rfl⟩
  · exact .inl rfl

theorem Within.commit (within : h.Within Q image begun points) (others : List Lock) :
    h.commit others = (.ok (), ⟨h.current, none⟩)
      ∨ ∃ r next, h.commit others = (.error r, next) ∧ next.Within Q image begun points := by
  obtain ⟨t, opened, _⟩ := within.transaction
  have same : t.changed.getD h.image = h.current := by simp only [Handle.current, opened]; rfl
  simp only [Handle.commit, opened]
  rw [← same]
  exact (commitChanges_cases h t others).imp id fun ⟨r, refused⟩ => ⟨r, _, refused, within.waiting opened⟩

theorem Within.releaseOutermost {saved : Option Database}
    (within : h.Within Q image false [(name, saved)]) (others : List Lock) :
    h.release others name = (.ok (), ⟨h.current, none⟩)
      ∨ ∃ r next, h.release others name = (.error r, next) ∧ next.Within Q image false [(name, saved)] := by
  obtain ⟨t, opened, outermost, at_points⟩ := within.transaction
  have same : t.changed.getD h.image = h.current := by simp only [Handle.current, opened]; rfl
  simp only [Handle.release, opened, at_points, savepointsFrom_cons]
  rw [dif_pos (by simp [outermost]), ← same]
  exact (commitChanges_cases h t others).imp id fun ⟨r, refused⟩ => ⟨r, _, refused, within.waiting opened⟩

/-! ## Refusals of the engine's own -/

/-- A savepoint that cannot be given up is still there. -/
theorem Within.refused_release (within : h.Within Q image begun points) (r : Refusal) (name : String) :
    (h.refused r (.release name)).Within Q image begun points := by
  obtain ⟨t, opened, _⟩ := within.transaction
  simp only [Handle.refused, opened]
  exact within.waiting opened

/-- A transaction that cannot be committed is still open, or nothing of it is left. -/
theorem Within.refused_commit (within : h.Within Q image begun points) (r : Refusal) :
    (h.refused r .commit).Within Q image begun points ∨ h.refused r .commit = ⟨image, none⟩ := by
  obtain ⟨t, opened, _⟩ := within.transaction
  simp only [Handle.refused]
  split
  · simp only [opened]
    exact .inl (within.waiting opened)
  · rw [within.image_eq]
    exact .inr rfl

/-! ## Beginnings that are refused -/

/-- What is left where no transaction could begin: one that was open before is still open, or it has
    been undone. -/
structure Spares (h next : Handle) : Prop where
  image : next.image = h.image
  idle : h.transaction = none → next = h
  current : next.transaction ≠ none → next.current = h.current

theorem Spares.refl (h : Handle) : h.Spares h := ⟨rfl, fun _ => rfl, fun _ => rfl⟩

theorem refused_begin (h : Handle) (r : Refusal) (mode : Sql.TransactionMode) :
    h.Spares (h.refused r (.begin mode)) := by
  simp only [refused]
  split
  · exact .refl h
  · refine ⟨rfl, fun idle => ?_, fun opened => absurd rfl opened⟩
    obtain ⟨image, transaction⟩ := h
    cases idle
    rfl

theorem begin_cases (h : Handle) (others : List Lock) :
    (∃ r next, h.begin others .immediate = (.error r, next) ∧ h.Spares next)
      ∨ h.transaction = none ∧ (h.begin others .immediate).1 = .ok ()
        ∧ (h.begin others .immediate).2.Within (· = h.image) h.image true [] := by
  rw [Handle.begin]
  cases opened : h.transaction with
  | none =>
    dsimp only
    split
    · exact .inr ⟨rfl, rfl, rfl, ⟨_, rfl, rfl, rfl⟩, rfl⟩
    · exact .inl ⟨_, h, rfl, .refl h⟩
  | some t =>
    -- The lock of an open transaction may change, but nothing else of it.
    have locked (u : Transaction) (changed : u.changed = t.changed) :
        h.Spares { h with transaction := some u } := by
      refine ⟨rfl, fun idle => absurd (opened.symm.trans idle) nofun, fun _ => ?_⟩
      simp only [Handle.current, opened, Option.bind_some, changed]
    dsimp only
    split
    · exact .inl ⟨_, h, rfl, .refl h⟩
    split
    · exact .inl ⟨_, _, rfl, locked _ rfl⟩
    split
    · exact .inl ⟨_, _, rfl, locked _ rfl⟩
    · exact .inl ⟨_, h, rfl, .refl h⟩

end Handle

end EntityStore.Engine
