import EntityStore.Proofs.Transaction.Handle

/-! # What a connection can come back to

Statements about transactions only ever bring back states of a database that there have been:

* `Program.Leaves` — what a program makes of a database has a property.
* `Handle.snapshots` — the states that a connection can come back to.
* `Handle.control_snapshots` — a statement about transactions adds none.
* `Handle.run_snapshots` — any other statement adds what its program makes of the database.
-/

namespace EntityStore.Engine

open EntityStore.Sql (Datum Statement)

/-! ## Programs -/

def Program.Leaves (Q : Database → Prop) (p : Program) (parameters : List Datum) (db : Database) :
    Prop :=
  match p.run parameters db with
  | .ok outcome => p.writes = true → Q outcome.database
  | .error stop => ∀ next, stop.effect = .keep next → Q next

section
variable {Q : Database → Prop} {p : Program} {db : Database}

theorem Program.Keeps.leaves (kept : p.Keeps Q) (parameters : List Datum) (holds : Q db) :
    p.Leaves Q parameters db := by
  have kept := kept parameters db holds
  rw [Program.Leaves]
  cases ran : p.run parameters db with
  | ok outcome =>
    rw [ran] at kept
    exact fun _ => kept
  | error stop =>
    rw [ran] at kept
    intro next same
    dsimp only at kept
    rw [same] at kept
    exact kept

end

namespace Handle

variable {h : Handle} {Q : Database → Prop}

/-! ## Snapshots -/

/-- The states of a database that a connection can come back to: what others see, what its own
    transaction has made of that, and what had been made of it at the savepoints. -/
def snapshots (h : Handle) : List Database :=
  h.image :: match h.transaction with
    | none => []
    | some t => t.changed.toList ++ t.savepoints.filterMap (·.2)

theorem snapshots_none (image : Database) : (Handle.mk image none).snapshots = [image] := rfl

theorem snapshots_some (image : Database) (t : Transaction) : (Handle.mk image (some t)).snapshots =
    image :: (t.changed.toList ++ t.savepoints.filterMap (·.2)) := rfl

theorem image_snapshots (h : Handle) : h.image ∈ h.snapshots := List.mem_cons_self ..

theorem current_snapshots (h : Handle) : h.current ∈ h.snapshots := by
  obtain ⟨image, transaction⟩ := h
  cases transaction with
  | none => exact List.mem_singleton_self image
  | some t =>
    rw [current_some, snapshots_some]
    cases t.changed with
    | none => exact List.mem_cons_self ..
    | some db => exact List.mem_cons_of_mem _ (List.mem_cons_self ..)

/-! ## Statements about transactions -/

theorem savepointsFrom_subset (name : String) (points : List (String × Option Database)) :
    savepointsFrom name points ⊆ points := (List.dropWhile_sublist _).subset

theorem commitChanges_snapshots (image : Database) (t : Transaction) (others : List Lock) :
    ((Handle.mk image (some t)).commitChanges t others).2.snapshots ⊆
      (Handle.mk image (some t)).snapshots := by
  rcases commitChanges_cases ⟨image, some t⟩ t others with done | ⟨r, refused⟩
  · rw [done, snapshots_none, List.cons_subset]
    exact ⟨current_some image t ▸ current_snapshots _, List.nil_subset _⟩
  · rw [refused]
    exact List.Subset.refl _

theorem begin_snapshots (h : Handle) (others : List Lock) (mode : Sql.TransactionMode) :
    (h.begin others mode).2.snapshots ⊆ h.snapshots := by
  obtain ⟨image, _ | t⟩ := h
  · simp only [begin]
    split
    · cases mode <;> exact List.Subset.refl _
    · exact List.Subset.refl _
  · simp only [begin]
    split
    · exact List.Subset.refl _
    split
    · cases mode <;> exact List.Subset.refl _
    split <;> exact List.Subset.refl _

theorem commit_snapshots (h : Handle) (others : List Lock) :
    (h.commit others).2.snapshots ⊆ h.snapshots := by
  obtain ⟨image, _ | t⟩ := h
  · exact List.Subset.refl _
  · exact commitChanges_snapshots image t others

theorem rollback_snapshots (h : Handle) : h.rollback.2.snapshots ⊆ h.snapshots := by
  obtain ⟨image, _ | t⟩ := h
  · exact List.Subset.refl _
  · exact List.cons_subset_cons _ (List.nil_subset _)

theorem savepoint_snapshots (h : Handle) (name : String) :
    (h.savepoint name).snapshots ⊆ h.snapshots := by
  obtain ⟨image, _ | t⟩ := h
  · exact List.Subset.refl _
  simp only [savepoint, snapshots_some, List.filterMap_cons]
  refine List.cons_subset_cons _ ?_
  -- The new savepoint holds what the transaction has made of the database so far.
  cases t.changed with
  | none => exact List.Subset.refl _
  | some db => simp

theorem release_snapshots (h : Handle) (others : List Lock) (name : String) :
    (h.release others name).2.snapshots ⊆ h.snapshots := by
  obtain ⟨image, _ | t⟩ := h
  · exact List.Subset.refl _
  simp only [release]
  split
  · exact List.Subset.refl _
  · next _ outer found =>
    split
    · exact commitChanges_snapshots image t others
    · -- The savepoint goes, and so do the ones inside it.
      have within := savepointsFrom_subset name t.savepoints
      rw [found, List.cons_subset] at within
      exact List.cons_subset_cons _ (List.append_subset.mpr ⟨List.subset_append_left _ _,
        List.subset_append_of_subset_right _ (List.filterMap_subset _ within.2)⟩)

theorem rollbackTo_snapshots (h : Handle) (name : String) :
    (h.rollbackTo name).2.snapshots ⊆ h.snapshots := by
  obtain ⟨image, _ | t⟩ := h
  · exact List.Subset.refl _
  simp only [rollbackTo]
  split
  · exact List.Subset.refl _
  · next point outer found =>
    have within := savepointsFrom_subset name t.savepoints
    rw [found] at within
    have saved := List.filterMap_subset (·.2) within
    refine List.cons_subset_cons _ (List.append_subset.mpr
      ⟨fun db changed => ?_, List.subset_append_of_subset_right _ saved⟩)
    -- What the savepoint holds is now what the transaction has made of the database.
    have here : point.2 = some db := Option.mem_toList.mp changed
    refine List.mem_append_right _ (saved ?_)
    rw [List.filterMap_cons, here]
    exact List.mem_cons_self ..

/-- A statement about transactions leads to nothing that the connection cannot come back to. -/
theorem control_snapshots (h : Handle) (others : List Lock) (s : Statement) :
    (h.control others s).2.snapshots ⊆ h.snapshots := by
  cases s with
  | begin mode => exact begin_snapshots h others mode
  | commit => exact commit_snapshots h others
  | rollback => exact rollback_snapshots h
  | savepoint name => exact savepoint_snapshots h name
  | release name => exact release_snapshots h others name
  | rollbackTo name => exact rollbackTo_snapshots h name
  | _ => exact List.Subset.refl _

theorem refused_snapshots (h : Handle) (r : Refusal) (s : Statement) :
    (h.refused r s).snapshots ⊆ h.snapshots := by
  obtain ⟨image, transaction⟩ := h
  cases s with
  | begin mode =>
    simp only [refused]
    split
    · exact List.Subset.refl _
    · exact List.cons_subset_cons _ (List.nil_subset _)
  | commit =>
    simp only [refused]
    split
    · cases transaction <;> exact List.Subset.refl _
    · exact List.cons_subset_cons _ (List.nil_subset _)
  | release name => cases transaction <;> exact List.Subset.refl _
  | _ => exact List.Subset.refl _

/-- Nor does one that the engine may refuse. -/
theorem controlUnless_snapshots (refusal : Option Refusal) (h : Handle) (others : List Lock)
    (s : Statement) : (h.controlUnless refusal others s).2.snapshots ⊆ h.snapshots := by
  cases refusal with
  | none => exact control_snapshots h others s
  | some r => exact refused_snapshots h r s

/-! ## Other statements -/

section
variable {p : Program} {parameters : List Datum} {others : List Lock}

theorem runAlone_snapshots {image : Database} (holds : Q image) (leaves : p.Leaves Q parameters image) :
    ∀ db ∈ ((Handle.mk image none).runAlone others p parameters).2.snapshots, Q db := by
  have same : ∀ db ∈ (Handle.mk image none).snapshots, Q db := by simpa [snapshots_none] using holds
  have changed (next : Database) (holds : Q next) : ∀ db ∈ (Handle.mk next none).snapshots, Q db := by
    simpa [snapshots_none] using holds
  rw [Program.Leaves] at leaves
  -- The image changes when a write succeeds, or when what stops the program has an effect of its own.
  cases writes : p.writes with
  | true =>
    simp only [runAlone, writes, ↓reduceIte]
    split
    · exact same
    · split
      · next outcome ran =>
        rw [ran] at leaves
        split
        · exact changed _ (leaves writes)
        · exact same
      · next stop ran =>
        rw [ran] at leaves
        split
        · next next effect =>
          split
          · exact changed _ (leaves next effect)
          · exact same
        · exact same
  | false =>
    simp only [runAlone, writes, Bool.false_eq_true, ↓reduceIte]
    split
    · exact same
    · split
      · exact same
      · next stop ran =>
        rw [ran] at leaves
        split
        · next next effect =>
          split
          · exact changed _ (leaves next effect)
          · exact same
        · exact same

theorem runWithin_snapshots {image : Database} {t : Transaction}
    (holds : ∀ db ∈ (Handle.mk image (some t)).snapshots, Q db)
    (leaves : p.Leaves Q parameters (Handle.mk image (some t)).current) :
    ∀ db ∈ ((Handle.mk image (some t)).runWithin t others p parameters).2.snapshots, Q db := by
  have begins : Q image := holds _ (image_snapshots _)
  -- A transaction that has made something else of the database still has its savepoints.
  have changed (u : Transaction) (points : u.savepoints = t.savepoints)
      (now : ∀ db, u.changed = some db → Q db) : ∀ db ∈ (Handle.mk image (some u)).snapshots, Q db := by
    intro db member
    rw [snapshots_some, points] at member
    rcases List.mem_cons.mp member with rfl | member
    · exact begins
    rcases List.mem_append.mp member with here | saved
    · exact now db (Option.mem_toList.mp here)
    · exact holds db (List.mem_cons_of_mem _ (List.mem_append_right _ saved))
  have kept : ∀ db, t.changed = some db → Q db := fun db same => holds db
    (List.mem_cons_of_mem _ (List.mem_append_left _ (Option.mem_toList.mpr same)))
  have seen : Q (Handle.mk image (some t)).current := holds _ (current_snapshots _)
  rw [Program.Leaves] at leaves
  cases writes : p.writes with
  | true =>
    simp only [runWithin, writes, ↓reduceIte]
    split
    · exact holds
    · split
      · next outcome ran =>
        rw [ran] at leaves
        refine changed _ rfl fun db same => ?_
        cases same
        exact leaves writes
      · next stop ran =>
        rw [ran] at leaves
        split
        · refine changed _ rfl fun db same => ?_
          cases same
          exact seen
        · next next effect =>
          refine changed _ rfl fun db same => ?_
          cases same
          exact leaves next effect
        · simpa [snapshots_none] using begins
  | false =>
    simp only [runWithin, writes, Bool.false_eq_true, ↓reduceIte]
    split
    · exact holds
    · exact changed _ rfl kept

/-- A property of all states that a connection can come back to holds of them after a statement that
    is not about transactions, if its program leaves it. -/
theorem run_snapshots (holds : ∀ db ∈ h.snapshots, Q db) (leaves : p.Leaves Q parameters h.current)
    (others : List Lock) : ∀ db ∈ (h.run others p parameters).2.snapshots, Q db := by
  obtain ⟨image, transaction⟩ := h
  cases transaction with
  | none => exact runAlone_snapshots (holds image (image_snapshots _)) leaves
  | some t => exact runWithin_snapshots holds leaves

end

end Handle

end EntityStore.Engine
