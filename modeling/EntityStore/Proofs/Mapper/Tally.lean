import EntityStore.Proofs.Mapper.Skipping
import EntityStore.Store.Read

/-! # How many statements a mapper has run

A mapper counts the statements that it reads rows with.  Keys are asked for in pieces, one statement
for each of them, until one fails:

* `Mapper.Counted` — a mapper has counted so many statements.
* `Mapper.Counted.load` — a query for rows is one statement.
* `Mapper.Asks` — pieces of keys that are asked for one after the other.
* `Mapper.gets_asks` — what is fetched is what all the pieces have come to, and nothing if one failed.
* `length_chunks` — how many pieces there are.
-/

namespace EntityStore

open Session (Keeps)

variable {m : Mapper} {n id : Nat} {w u v : World} {α : Type}

theorem Session.Keeps.after {P : World → Prop} {op : Session α} {result : Except Failure α}
    (kept : Keeps P op) (before : P w) (done : op.outcome w = (result, v)) : P v := by
  have now := kept w before
  rwa [done] at now

/-! ## Counting -/

/-- A mapper that has counted so many read statements. -/
structure Mapper.Counted (m : Mapper) (n : Nat) (w : World) : Prop where
  present : m.PresentIn w.registries
  queries : (m.stateIn w.registries).queries = n

namespace Mapper.Counted

theorem congr (counted : m.Counted n w) (same : v.bindings = w.bindings) : m.Counted n v := by
  have registries : v.registries = w.registries := congrArg Prod.fst same
  exact ⟨registries ▸ counted.present, registries ▸ counted.queries⟩

/-- Neither connections nor databases have to do with it. -/
theorem withstands : Session.Withstands (fun _ _ => True) (m.Counted n) id :=
  .of_steps fun _ _ step counted => counted.congr step.bindings

theorem openContext : Keeps (m.Counted n) (Session.openContext id) := fun w counted =>
  counted.congr (Session.openContext_aside id w).2

theorem remembering (counted : m.Counted n w) (f : MapperState → MapperState) :
    m.Counted (f (m.stateIn w.registries)).queries (w.remembering m f) where
  present := counted.present.rememberedBy f
  queries := by
    change (m.stateIn (m.rememberedBy f w.registries)).queries = _
    rw [stateIn_rememberedBy_self counted.present]

theorem modifyState {f : MapperState → MapperState} (same : ∀ s, (f s).queries = s.queries) :
    Keeps (m.Counted n) (m.modifyState f) := by
  intro w counted
  have now := counted.remembering f
  rwa [same, counted.queries] at now

theorem contextId : Keeps (m.Counted n) m.contextId := by
  refine .bind (fun _ counted => counted) fun state => ?_
  cases state.bound with
  | some id => exact .pure id
  | none =>
    have looks : Keeps (m.Counted n) (Session.contextOf m.registry.group m.plan.tag) := by
      refine .bind .get fun w => ?_
      split
      · exact .pure _
      · exact .throw _
    exact .bind (looks.annotate _) fun _ => .bind (modifyState fun _ => rfl) fun _ => .pure _

theorem markMigrated (generation : Nat) : Keeps (m.Counted n) (m.markMigrated id generation) := by
  refine .bind (.bind Session.keeps_connection fun _ => .pure _) fun autocommit => ?_
  split
  · exact modifyState fun _ => rfl
  · exact .pure _

/-- What is done on the table is done after all that brings it up to date. -/
theorem of_withTable {op : Nat → Session α} {a : α} (counted : m.Counted n w)
    (done : (m.withTable op).outcome w = (.ok a, v)) :
    ∃ id u, m.Counted n u ∧ (op id).outcome u = (.ok a, v) := by
  obtain ⟨id, w₁, found, done⟩ := Session.outcome_bind_inv done
  have bound := contextId.after counted found
  obtain ⟨_, w₂, opened, done⟩ := Session.outcome_bind_inv done
  have there := openContext.after bound opened
  obtain ⟨context, _, looked, done⟩ := Session.outcome_bind_inv done
  cases looked
  obtain ⟨state, _, looked, done⟩ := Session.outcome_bind_inv done
  cases looked
  dsimp only at done
  split at done
  · obtain ⟨_, w₃, migrated, done⟩ := Session.outcome_bind_inv done
    obtain ⟨_, w₄, marked, done⟩ := Session.outcome_bind_inv done
    have brought := (markMigrated _).after (withstands.migrate.after there migrated) marked
    exact ⟨id, w₄, brought, done⟩
  · exact ⟨id, w₂, there, done⟩

theorem prepareCached (text : String) : Keeps (m.Counted n) (Session.prepareCached id text) :=
  .bind Session.keeps_connection fun _ => .bind (withstands.prepareOne _ _) fun _ =>
    .bind (fun _ counted => counted.congr rfl) fun _ => .pure _

theorem runWith (p : Prepared) (parameters : List Sql.Datum) :
    Keeps (m.Counted n) (Session.runWith id p parameters) := by
  refine .bind (Session.keeps_checkParameters _ _) fun _ => ?_
  cases p.program with
  | some program => exact withstands.execute fun _ _ => trivial
  | none => exact .bind (withstands.control fun _ _ _ => trivial) fun _ => .pure _

theorem load {text : String} {parameters : List StoredValue} {records : List Record}
    (counted : m.Counted n w) (done : (m.load text parameters).outcome w = (.ok records, v)) :
    m.Counted (n + 1) v := by
  obtain ⟨answer, u, asked, done⟩ := Session.outcome_bind_inv done
  obtain ⟨id, x, here, asked⟩ := counted.of_withTable asked
  -- The statement is counted before it is run, and decoding its rows counts nothing more.
  have statement : m.Counted (n + 1) u := by
    have one := here.remembering fun s => { s with queries := s.queries + 1 }
    rw [here.queries] at one
    have rest : Keeps (m.Counted (n + 1)) (do
        Session.rows id (← Session.prepareCached id text) parameters) :=
      .bind (prepareCached text) fun p => .bind (runWith p _) fun _ => .pure _
    exact rest.after one asked
  have decoding : Keeps (m.Counted (n + 1)) (do
      let raw ← answer.mapM fun row => Session.ofExcept (readRow m.plan.columns.length row)
      let rows ← raw.mapM fun values => Session.ofExcept (m.entity.decodeRow values)
      let loaded := Event.remark .debug "loaded" [("rows", toString rows.length)]
      Session.report { loaded with table := some m.table }
      return rows) :=
    .bind (.mapM fun _ _ => Session.keeps_ofExcept _) fun _ =>
      .bind (.mapM fun _ _ => Session.keeps_ofExcept _) fun _ =>
        .bind (fun _ counted => counted.congr rfl) fun _ => .pure _
  exact decoding.after statement done

end Mapper.Counted

/-! ## Asking -/

/-- Pieces of keys are asked for one after the other: what that comes to, or nothing if a statement
    fails. -/
inductive Mapper.Asks (m : Mapper) : List (List Int64) → World → Option (List Record) → World → Prop
  | done (w : World) : m.Asks [] w (some []) w
  | next {piece : List Int64} {rest : List (List Int64)} {records : List Record}
      {found : Option (List Record)} {w u v : World}
      (loaded : (m.load (m.plan.gets piece.length) (piece.map .integer)).outcome w = (.ok records, u))
      (later : m.Asks rest u found v) : m.Asks (piece :: rest) w (found.map (records ++ ·)) v
  | fail {piece : List Int64} (rest : List (List Int64)) {failure : Failure} {w u : World}
      (failed : (m.load (m.plan.gets piece.length) (piece.map .integer)).outcome w =
        (.error failure, u)) : m.Asks (piece :: rest) w none u

namespace Mapper

variable {pieces : List (List Int64)} {found : Option (List Record)} {records : List Record}

/-- As many statements as there are pieces, if none fails. -/
theorem Asks.counted (asks : m.Asks pieces w (some records) v) (counted : m.Counted n w) :
    m.Counted (n + pieces.length) v := by
  generalize result : some records = found at asks
  induction asks generalizing n records with
  | done w => exact counted
  | @next piece rest records found w u v loaded later ih =>
    obtain ⟨more, rfl, _⟩ := Option.map_eq_some_iff.mp result.symm
    have rest := ih (counted.load loaded) rfl
    rwa [Nat.add_assoc, Nat.add_comm 1] at rest
  | fail => cases result

theorem asks_mapM (m : Mapper) (pieces : List (List Int64)) (w : World) :
    ∃ result v, (pieces.mapM fun piece => m.load (m.plan.gets piece.length) (piece.map .integer)).outcome w
        = (result, v) ∧ m.Asks pieces w (result.toOption.map List.flatten) v := by
  induction pieces generalizing w with
  | nil => exact ⟨.ok [], w, rfl, .done w⟩
  | cons piece rest ih =>
    rw [List.mapM_cons]
    rcases loaded : (m.load (m.plan.gets piece.length) (piece.map .integer)).outcome w with ⟨result, u⟩
    cases result with
    | error failure => exact ⟨_, u, Session.outcome_bind_error loaded _, .fail rest loaded⟩
    | ok records =>
      rw [Session.outcome_bind_ok loaded]
      obtain ⟨result, v, asked, asks⟩ := ih u
      cases result with
      | error failure => exact ⟨_, v, Session.outcome_bind_error asked _, .next loaded asks⟩
      | ok found => exact ⟨.ok (records :: found), v, Session.outcome_bind_ok asked _, .next loaded asks⟩

/-- Pieces of keys are asked for on the context of the mapper, if it has one. -/
def Fetches (m : Mapper) (pieces : List (List Int64)) (w : World) (found : Option (List Record)) : Prop :=
  (∃ failure u, m.contextId.outcome w = (.error failure, u) ∧ found = none)
    ∨ ∃ id u v, m.contextId.outcome w = (.ok id, u) ∧ m.Asks pieces u found v

/-- What is fetched on a context is what all pieces have come to, and nothing if one of them failed. -/
theorem gets_of_contextId (bound : m.contextId.outcome w = (.ok id, u)) (keys : List Int64) :
    ∃ result v x, ((chunks maxKeysPerQuery (distinct keys)).mapM fun piece =>
          m.load (m.plan.gets piece.length) (piece.map .integer)).outcome u = (result, v)
      ∧ m.Asks (chunks maxKeysPerQuery (distinct keys)) u (result.toOption.map List.flatten) v
      ∧ (m.gets keys).outcome w = (.ok ((result.toOption.map List.flatten).getD []), x)
      ∧ ∀ n, m.Counted n w → result.toOption.isSome = true →
        m.Counted (n + (chunks maxKeysPerQuery (distinct keys)).length) x := by
  obtain ⟨result, v, asked, asks⟩ := asks_mapM m (chunks maxKeysPerQuery (distinct keys)) u
  rw [gets]
  split
  · next none =>
    rw [none, chunks] at asked asks ⊢
    cases asked
    exact ⟨.ok [], u, w, rfl, asks, rfl, fun n counted _ => counted⟩
  · have found : (Session.attempt m.contextId).outcome w = (.ok (.ok id), u) := by
      rw [Session.outcome_attempt, bound]
    rw [read, Session.outcome_bind_ok found]
    dsimp only
    rw [Session.readOr, Session.outcome_bind, Session.outcome_attempt, Session.outcome_annotate]
    -- A failure in one of the pieces loses the records of all.
    cases result with
    | ok lists =>
      rw [Session.outcome_bind_ok asked]
      refine ⟨.ok lists, v, v, asked, asks, rfl, fun n counted _ => ?_⟩
      exact asks.counted (Counted.contextId.after counted bound)
    | error failure =>
      rw [Session.outcome_bind_error asked]
      exact ⟨.error failure, v, _, asked, asks, rfl, fun _ _ some => by cases some⟩

/-- The keys are asked for in pieces, in every world, and what comes of it is all or nothing. -/
theorem gets_fetches (m : Mapper) (keys : List Int64) (w : World) :
    ∃ found v, m.Fetches (chunks maxKeysPerQuery (distinct keys)) w found
      ∧ (m.gets keys).outcome w = (.ok (found.getD []), v) := by
  rcases bound : m.contextId.outcome w with ⟨result, u⟩
  cases result with
  | ok id =>
    obtain ⟨result, v, x, _, asks, done, _⟩ := gets_of_contextId bound keys
    exact ⟨_, x, .inr ⟨id, u, v, bound, asks⟩, done⟩
  | error failure =>
    have lost : (Session.attempt m.contextId).outcome w = (.ok (.error failure), u) := by
      rw [Session.outcome_attempt, bound]
    rw [gets]
    split
    · exact ⟨none, w, .inl ⟨failure, u, bound, rfl⟩, rfl⟩
    · rw [read, Session.outcome_bind_ok lost]
      exact ⟨none, _, .inl ⟨failure, u, bound, rfl⟩, rfl⟩

end Mapper

/-! ## Pieces -/

theorem length_chunks {α : Type} {size : Nat} (positive : 0 < size) (items : List α) :
    (chunks size items).length = (items.length + (size - 1)) / size := by
  induction items using chunks.induct size with
  | case1 => rw [chunks, List.length_nil, List.length_nil, Nat.div_eq_of_lt (by omega)]
  | case2 a rest ih =>
    rw [chunks, List.length_cons, ih, List.length_drop, List.length_cons]
    -- Either the first piece is full, or there is no other.
    rcases Nat.lt_or_ge rest.length size with short | long
    · have none : rest.length - (size - 1) = 0 := by omega
      have one : (rest.length + 1 + (size - 1)) / size = 1 := Nat.div_eq_of_lt_le (by omega) (by omega)
      rw [none, one, Nat.div_eq_of_lt (by omega)]
    · have split : rest.length + 1 + (size - 1) = rest.length - (size - 1) + (size - 1) + size := by omega
      rw [split, Nat.add_div_right _ positive]

theorem length_of_mem_chunks {α : Type} {size : Nat} (positive : 0 < size) {items piece : List α}
    (member : piece ∈ chunks size items) : 0 < piece.length ∧ piece.length ≤ size := by
  induction items using chunks.induct size with
  | case1 => rw [chunks] at member; cases member
  | case2 a rest ih =>
    rw [chunks] at member
    rcases List.mem_cons.mp member with rfl | later
    · rw [List.length_cons, List.length_take]
      omega
    · exact ih later

end EntityStore
