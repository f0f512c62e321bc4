import EntityStore.Proofs.Transaction.Handle
import EntityStore.Proofs.Transaction.Withstanding

/-! # Statements inside a transaction

While a transaction is open on a context, nothing that the context does shows anywhere else:

* `World.Inside` — a world in which a context has an open transaction, seen from a world before.
* `World.Inside.withstands` — it is left as it is by statements that leave the transaction open.
-/

namespace EntityStore

open EntityStore.Engine (Database Lock Handle Program)
open EntityStore.Sql (Datum)

abbrev Bindings := List RegistryState × List (List (String × Nat)) → Prop

/-- A context has an open transaction, and all that lasts is as in the world `base`.  The
    connection sees a database with the property `Q`, and the bindings have the property `B`. -/
structure World.Inside (Q : Database → Prop) (B : Bindings) (base : World) (id : Nat)
    (image : Database) (begun : Bool) (points : List (String × Option Database)) (w : World) :
    Prop where
  bindings : B w.bindings
  handle : ∃ h, w.handleOf id = some h ∧ h.Within Q image begun points
  beside : World.Beside id base w
  /-- What others see of the database itself is as it was. -/
  kept : ∀ path, base.fileOf id = some (some path) → base.stored path = some image

variable {Q : Database → Prop} {B : Bindings} {base : World} {id : Nat} {image : Database} {begun : Bool}
  {points morePoints : List (String × Option Database)}

namespace World.Inside

/-- A transaction that is open already. -/
theorem start {w : World} {h : Handle} (bindings : B w.bindings) (found : w.handleOf id = some h)
    (within : h.Within Q image begun points) : Inside Q B w id image begun points w :=
  ⟨bindings, ⟨h, found, within⟩, .refl id w, fun _ file => within.image_eq ▸ stored_handle found file⟩

theorem stored {w : World} (inside : Inside Q B base id image begun points w) (path : List String) :
    w.stored path = base.stored path := by
  obtain ⟨h, found, within⟩ := inside.handle
  by_cases own : base.fileOf id = some (some path)
  · rw [stored_handle found (inside.beside.file.trans own), inside.kept path own, within.image_eq]
  · exact inside.beside.stored path own

theorem step {R : Database → Prop} {w v : World} {next : Handle}
    (inside : Inside Q B base id image begun points w) (step : Step id w v)
    (found : v.handleOf id = some next) (within : next.Within R image begun morePoints) :
    Inside R B base id image begun morePoints v :=
  ⟨step.bindings ▸ inside.bindings, ⟨next, found, within⟩, inside.beside.trans step.toBeside,
    inside.kept⟩

theorem imp {R : Database → Prop} {w : World} (weaker : ∀ db, Q db → R db)
    (inside : Inside Q B base id image begun points w) : Inside R B base id image begun points w := by
  obtain ⟨h, found, within⟩ := inside.handle
  exact inside.step (.refl id w) found (within.imp weaker)

/-- What the connection sees has a name. -/
theorem exact {w : World} (inside : Inside Q B base id image begun points w) :
    ∃ current, Q current ∧ Inside (· = current) B base id image begun points w := by
  obtain ⟨h, found, within⟩ := inside.handle
  exact ⟨h.current, within.current,
    inside.step (.refl id w) found ⟨within.image_eq, within.transaction, rfl⟩⟩

/-- Nothing has changed but what may hold of the bindings. -/
theorem congr {w v : World} (inside : Inside Q B base id image begun points w)
    (bindings : B v.bindings) (disk : v.disk = w.disk) (contexts : v.contexts = w.contexts) :
    Inside Q B base id image begun points v := by
  obtain ⟨h, found, within⟩ := inside.handle
  let u : World := { w with registries := v.registries, groups := v.groups }
  have rebound : Beside id w u := ⟨rfl, rfl, rfl, fun _ _ => rfl⟩
  obtain ⟨step, handle⟩ := Step.aside (w := u) disk contexts rfl
  exact ⟨bindings, ⟨h, handle.trans found, within⟩,
    inside.beside.trans (rebound.trans step.toBeside), inside.kept⟩

theorem seen {w : World} {current : Database}
    (inside : Inside (· = current) B base id image begun points w) : w.seen id = some current := by
  obtain ⟨h, found, within⟩ := inside.handle
  rw [World.seen, found, Option.map_some, within.current]

theorem transactionOf_ne {w : World} (inside : Inside Q B base id image begun points w) :
    w.transactionOf id ≠ none := by
  obtain ⟨h, found, within⟩ := inside.handle
  obtain ⟨t, opened, _⟩ := within.transaction
  rw [transactionOf_handle found, opened]
  exact nofun

theorem connection {w : World} (inside : Inside Q B base id image begun points w) :
    ∃ c h, (w.context id).connection = some c ∧ w.handle? c = some h
      ∧ h.Within Q image begun points := by
  obtain ⟨h, found, within⟩ := inside.handle
  obtain ⟨c, opened, found⟩ := connection_of_handle found
  exact ⟨c, h, opened, found, within⟩

/-- Statements that leave the transaction open leave it inside. -/
theorem withstands : Session.Withstands
    (fun h next => h.Within Q image begun points → next.Within Q image begun points)
    (Inside Q B base id image begun points) id where
  same _ within := within
  aside inside disk contexts bindings := inside.congr (bindings ▸ inside.bindings) disk contexts
  step opened found allowed inside := by
    obtain ⟨_, _, there, foundAgain, within⟩ := inside.connection
    cases opened.symm.trans there
    cases found.symm.trans foundAgain
    exact inside.step (.putHandle opened _) (handleOf_putHandle opened _) (allowed within)

theorem sees {w : World} {h : Handle} (inside : Inside Q B base id image begun points w)
    (found : w.handleOf id = some h) : Q h.current := by
  obtain ⟨_, again, within⟩ := inside.handle
  cases found.symm.trans again
  exact within.current

end World.Inside

namespace Session

open World (Inside)

/-- A change of the world that neither the disk nor the contexts are part of. -/
theorem Keeps.aside {f : World → World} (bindings : ∀ w, B w.bindings → B (f w).bindings)
    (disk : ∀ w, (f w).disk = w.disk) (contexts : ∀ w, (f w).contexts = w.contexts) :
    Keeps (Inside Q B base id image begun points) (modify f : Session Unit) :=
  .change fun w inside => inside.congr (bindings w inside.bindings) (disk w) (contexts w)

theorem keeps_report (e : Event) : Keeps (Inside Q B base id image begun points) (report e) :=
  Inside.withstands.report e

theorem keeps_execute {p : Program} (kept : p.Keeps Q) (parameters : List Datum) :
    Keeps (Inside Q B base id image begun points) (execute id p parameters) :=
  Inside.withstands.execute fun others _ within => within.run kept others parameters

theorem keeps_modifyKept (f : List String → List String) :
    Keeps (Inside Q B base id image begun points) (modifyKept id f) := by
  intro w inside
  obtain ⟨h, found, within⟩ := inside.handle
  obtain ⟨step, same⟩ := step_modifyKept id f w
  exact inside.step step (same.trans found) within

end Session

end EntityStore
