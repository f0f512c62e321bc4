import EntityStore.Proofs.Mapper.Held
import EntityStore.Proofs.Mapper.Keeping

/-! # Operations of mappers, statement by statement

What single statements keep, the operations of mappers keep:

* `Session.Carries` — a property that the statements of mappers on a context keep.
* `Session.Carries.query`, `Session.Carries.write` — so does what a mapper does to its table.
* `Mapper.bears` — so does all that the operations of a mapper are made of.
* `Mapper.bears_held` — one such property: a write transaction is open.
-/

namespace EntityStore

open EntityStore.Engine (Database Handle Program)
open EntityStore.Sql (Datum)
open World (Inside)

variable {P : World → Prop} {Stays : Prepared → Prop} {id : Nat} {α : Type}

/-! ## Statements -/

/-- A prepared statement that leaves transactions open, and definitions as they are. -/
def Prepared.ChangesRows (p : Prepared) : Prop :=
  ∃ program, p.program = some program ∧ program.KeepsRowwise

namespace Session

/-- A property of worlds that statements on a context keep.  What is prepared from the texts of
    mappers stays within what may be run. -/
structure Carries (P : World → Prop) (Stays : Prepared → Prop) (id : Nat) : Prop where
  connection : Keeps P (connection id)
  kept : ∀ f, Keeps P (modifyKept id f)
  prepareOne : ∀ text again, Keeps P (prepareOne id text again)
  stays : ∀ text again, LeavesOpen text → Gives P Stays (Session.prepareOne id text again)
  runWith : ∀ p parameters, Stays p → Keeps P (runWith id p parameters)

namespace Carries

variable (carries : Carries P Stays id)
include carries

theorem prepareCached (text : String) : Keeps P (prepareCached id text) :=
  .bind carries.connection fun _ => .bind (carries.prepareOne _ _) fun p =>
    .bind (carries.kept _) fun _ => .pure p

theorem gives_prepareCached {text : String} (leaves : LeavesOpen (Text.trim text)) :
    Gives P Stays (Session.prepareCached id text) := by
  intro w p v holds done
  obtain ⟨c, u, looked, done⟩ := outcome_bind_inv done
  have between := carries.connection w holds
  rw [looked] at between
  obtain ⟨found, x, prepared, done⟩ := outcome_bind_inv done
  cases done
  exact carries.stays _ _ leaves u p x between prepared

theorem change {text : String} (gives : Gives P Stays (Session.prepareOne id text false))
    (parameters : List StoredValue) : Keeps P (change id text parameters) := by
  refine .bind_gives (carries.prepareOne text false) gives fun p stays => ?_
  dsimp only
  split
  · exact .bind (.throw _) fun _ => .bind (carries.runWith p _ stays) fun _ => .pure _
  · exact .bind (carries.runWith p _ stays) fun _ => .pure _

/-! ## What mappers do to their tables -/

variable {m : Mapper}

theorem query (counted : Keeps P m.countQuery) {op : Nat → Session α} (query : m.Query op) :
    Keeps P (op id) := by
  cases query with
  | select starts parameters f =>
    exact .bind counted fun _ => .bind_gives (carries.prepareCached _)
      (carries.gives_prepareCached starts.select_leavesOpen) fun p stays =>
        .bind (carries.runWith p _ stays) fun _ => .pure _

theorem write_of (counted : Keeps P m.countWrite)
    (updates : ∀ assignments predicate,
      Gives P Stays (Session.prepareOne id (m.plan.updateWhere assignments predicate) false))
    {op : Nat → Session α} (write : m.Write op) : Keeps P (op id) := by
  have bound (row : Record) : Keeps P (m.bound row) :=
    .bind (Session.keeps_ofExcept _) fun _ => .pure _
  have changed {text : String} (gives : Gives P Stays (Session.prepareOne id text false))
      (parameters : List StoredValue) : Keeps P (m.changing text parameters id) :=
    .bind (carries.change gives parameters) fun _ => .bind counted fun _ => .pure _
  have inserts := carries.gives_prepareCached m.plan.insert_leavesOpen
  -- Every write prepares its text, runs it and counts; only where the text comes from differs.
  cases write with
  | save row =>
    exact .bind (bound row) fun parameters => .bind_gives (carries.prepareCached _) inserts
      fun p stays => .bind (carries.runWith p parameters stays) fun _ => .bind counted
        fun _ => .pure _
  | saveAll rows =>
    refine .bind_gives (carries.prepareCached _) inserts fun p stays => .bind ?_
      fun _ => .pure true
    exact .forIn (fun row => .bind (bound row) fun parameters =>
      .bind (carries.runWith p parameters stays) fun _ => .bind counted fun _ => .pure _) rows
  | delete key =>
    exact .bind_gives (carries.prepareCached _) (carries.gives_prepareCached
      (delete_leavesOpen (m.plan.startsWith_delete.tokens_trim (by decide) (by decide)).choose_spec))
        fun p stays => .bind (carries.runWith p _ stays) fun _ => .bind counted fun _ => .pure _
  | deleteWhere predicate parameters =>
    exact changed (carries.stays _ _ (delete_leavesOpen
      ((m.plan.startsWith_deleteWhere predicate).tokens (by decide)).choose_spec)) parameters
  | updateWhere assignments predicate parameters =>
    exact changed (updates assignments predicate) parameters

theorem write (counted : Keeps P m.countWrite) (named : m.plan.Named) {op : Nat → Session α}
    (write : m.Write op) : Keeps P (op id) :=
  carries.write_of counted
    (fun assignments predicate =>
      carries.stays _ _ (MappingPlan.updateWhere_leavesOpen named assignments predicate)) write

end Carries

/-- What the steps of the engine keep that statements of mappers consist of. -/
theorem Withstands.carries {Allows : Handle → Handle → Prop} (withstands : Withstands Allows P id)
    (kept : ∀ f, Keeps P (modifyKept id f))
    (stays : ∀ text again, LeavesOpen text → Gives P Stays (Session.prepareOne id text again))
    (runs : ∀ p parameters, Stays p → ∀ h, p.AllowedAt Allows h parameters) : Carries P Stays id where
  connection := keeps_connection
  kept := kept
  prepareOne := withstands.prepareOne
  stays := stays
  runWith p parameters stays := by
    refine .bind (keeps_checkParameters _ _) fun _ => ?_
    have allowed := runs p parameters stays
    simp only [Prepared.AllowedAt] at allowed
    cases prepares : p.program with
    | some program =>
      simp only [prepares] at allowed
      exact withstands.execute fun others h => allowed h others
    | none =>
      simp only [prepares] at allowed
      exact .bind (withstands.control fun refusal others h => allowed h refusal others) fun _ => .pure _

end Session

namespace Mapper

open Session (Keeps Gives Carries)

/-- What statements on the contexts of a mapper, and the way there, keep is kept by all that its
    operations are made of. -/
theorem bears {m : Mapper} {ids : Nat → Prop} (reports : ∀ e, Keeps P (Session.report e))
    (context : Keeps P m.contextId) (queries : Keeps P m.countQuery) (writes : Keeps P m.countWrite)
    (carries : ∀ id, ids id → Carries P Stays id) (prepare : Keeps P m.prepare)
    (table : ∀ {α : Type} (op : Nat → Session α), (∀ id, ids id → Keeps P (op id)) →
      Keeps P (m.withTable op)) (named : m.plan.Named) : m.Bears P where
  reports := reports
  context := context
  queries query := table _ fun id here => (carries id here).query queries query
  prepare := prepare
  writes write := table _ fun id here => (carries id here).write writes named write

theorem Reaches.bears {m : Mapper} (reaches : m.Reaches P id) (reports : ∀ e, Keeps P (Session.report e))
    (carries : Carries P Stays id) (named : m.plan.Named) : m.Bears P := by
  have there : ∀ i, i = id → Carries P Stays i := by
    rintro i rfl
    exact carries
  exact Mapper.bears reports reaches.contextId (reaches.remembers _ fun _ => .inl rfl)
    (reaches.remembers _ fun _ => .inl rfl) there reaches.prepare
    (fun op kept => reaches.withTable (kept id rfl)) named

/-! ## Inside a transaction -/

variable {among : Mapper → Prop} {base : World} {image : Database}

theorem carries_held : Carries (World.Held among base id image) Prepared.ChangesRows id :=
  Inside.withstands.carries Session.keeps_modifyKept
    (fun text again leaves w p v held done => by
      obtain ⟨db, steady, read⟩ := Session.gives_prepareOne (fun _ _ => Inside.sees) text again w p v held done
      exact leaves.prepared steady read)
    fun p parameters stays h => by
      obtain ⟨program, prepares, kept⟩ := stays
      rw [Prepared.AllowedAt, prepares]
      exact fun others within => within.run (kept _ Database.Steady.lasting.rowwise) others parameters

theorem bears_held {m : Mapper} (member : among m) (named : m.plan.Named) :
    m.Bears (World.Held among base id image) :=
  (reaches_held member named.definite).bears Session.keeps_report carries_held named

end Mapper

end EntityStore
