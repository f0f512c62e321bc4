import EntityStore.Proofs.Number.Order
import EntityStore.Proofs.Table.Query

/-! # Keys of rows

How the queries of mappers find rows by their keys:

* `Datum.IsKey` — what a key column keeps: a value as a column of integers has it, and not null.
* `MappingPlan.Fits`, `MappingPlan.Ordered` — rows as wide as the plan, each with a key, and their
  order.
* `MappingPlan.rowsOf` — the rows of keys.
* `MappingPlan.prepare_get`, `MappingPlan.prepare_gets`, `MappingPlan.prepare_select`,
  `MappingPlan.prepare_count` — the queries as programs.
-/

namespace EntityStore

open EntityStore.Engine (Database Table Row Scope Term Fault Plan Query Program ResultColumn Env)
open EntityStore.Sql (Datum Affinity Expr Output Select SortKey ObjectName)

namespace Sql

/-! ## Values -/

/-- What a column of integers keeps, if it may not be null. -/
structure Datum.IsKey (d : Datum) : Prop where
  present : d ≠ .null
  kept : Affinity.integer.store d = d
  number : ∀ x, d = .real x → x.isNaN = false

def Datum.isNumber (n : Int64) (d : Datum) : Bool := decide (d.compare (.integer n) = .eq)

theorem Datum.isKey_integer (n : Int64) : (Datum.integer n).IsKey where
  present := by simp
  kept := rfl
  number := by simp

@[simp] theorem Datum.isNumber_integer (n m : Int64) :
    (Datum.integer m).isNumber n = decide (m = n) := by
  have same : Ord.compare m.toInt n.toInt = .eq ↔ m = n := by
    rw [Int.compare_eq_eq, Int64.toInt_inj]
  simp only [isNumber, Datum.compare, same]

theorem Datum.compare_of_isNumber {n : Int64} {a b : Datum} (first : a.isNumber n = true)
    (second : b.isNumber n = true) : a.compare b = .eq := by
  rw [isNumber, decide_eq_true_eq] at first second
  -- An integer and a double are compared exactly, whichever comes first.
  have swapped {x : Number.Binary64} (same : (Datum.real x).compare (.integer n) = .eq) :
      Number.Binary64.compareInt n.toInt x = .eq := by simpa [Datum.compare] using same
  cases a with
  | integer m =>
    obtain rfl : m = n := by simpa [Datum.compare, Int64.toInt_inj] using first
    cases b with
    | integer k =>
      obtain rfl : k = m := by simpa [Datum.compare, Int64.toInt_inj] using second
      exact second
    | real y => exact swapped second
    | _ => cases second
  | real x =>
    cases b with
    | integer k =>
      obtain rfl : k = n := by simpa [Datum.compare, Int64.toInt_inj] using second
      exact first
    | real y => exact Number.Binary64.compareReal_of_compareInt (swapped first) (swapped second)
    | _ => cases second
  | _ => cases first

/-- The order of an integer and a value does not depend on which comes first, as far as it tells
    whether they are equal. -/
theorem Datum.compare_integer (n : Int64) (d : Datum) :
    ((Datum.integer n).compare d = .eq) = (d.compare (.integer n) = .eq) := by
  cases d with
  | integer m =>
    simp only [Datum.compare, Int.compare_eq_eq]
    exact propext eq_comm
  | real x => simp [Datum.compare]
  | _ => simp [Datum.compare, Datum.rank]

/-- What equals a value that is one integer to the engine is that integer as well. -/
theorem Datum.compare_eq_of_isNumber {n : Int64} {a : Datum} (number : a.isNumber n = true)
    (b : Datum) : a.compare b = .eq ↔ b.isNumber n = true := by
  refine ⟨fun same => ?_, fun other => Datum.compare_of_isNumber number other⟩
  rw [isNumber, decide_eq_true_eq] at number ⊢
  have flipped {x : Number.Binary64} {m : Int64} :
      (Datum.real x).compare (.integer m) = .eq ↔ Number.Binary64.compareInt m.toInt x = .eq := by
    simp [Datum.compare]
  -- No two integers equal one double, so the number is the only one.
  cases a with
  | integer m =>
    obtain rfl : m = n := by simpa [Datum.compare, Int64.toInt_inj] using number
    rwa [Datum.compare_integer] at same
  | real x =>
    rw [flipped] at number
    cases b with
    | integer k =>
      rw [flipped] at same
      rw [Datum.compare, Int.compare_eq_eq]
      exact Number.Binary64.compareInt_unique same number
    | real y =>
      rw [flipped]
      exact Number.Binary64.compareInt_of_compareReal number same
    | _ => cases same
  | _ => cases number

/-- No value is two integers to the engine. -/
theorem Datum.isNumber_unique {m n : Int64} {d : Datum} (number : d.isNumber m = true)
    (apart : m ≠ n) : d.isNumber n = false := by
  by_contra other
  rw [Bool.not_eq_false] at other
  rw [isNumber, decide_eq_true_eq] at number other
  cases d with
  | integer k =>
    simp only [Datum.compare, Int.compare_eq_eq, Int64.toInt_inj] at number other
    exact apart (number.symm.trans other)
  | real x =>
    simp only [Datum.compare, Ordering.swap_eq_eq] at number other
    exact apart (Int64.toInt_inj.mp (Number.Binary64.compareInt_unique number other))
  | _ => cases number

/-- Among keys nothing is converted before it is compared. -/
theorem Datum.IsKey.compareAs {d : Datum} (isKey : d.IsKey) : Affinity.integer.compareAs d = d := by
  have kept := isKey.kept
  cases d with
  | text b =>
    simp only [Affinity.compareAs]
    simp only [Affinity.store] at kept
    cases number : numberOf? b with
    | none => rfl
    | some n =>
      rw [number] at kept
      cases n with
      | real x =>
        simp only [condense] at kept
        split at kept <;> cases kept
      | _ => exact kept
  | _ => rfl

end Sql

namespace Engine

def Term.keyEquals (place number : Nat) : Term :=
  .binary .equal .integer (.column place .integer) (.parameter number)

theorem eval_keyEquals {env : Env} {place number : Nat} {n : Int64}
    (isKey : (env.row.getD place .null).IsKey)
    (given : env.parameters.getD (number - 1) .null = .integer n) :
    (Term.keyEquals place number).eval env = .ofBool ((env.row.getD place .null).isNumber n) := by
  have present := isKey.present
  simp only [Term.keyEquals, Term.eval, given, Sql.BinaryOp.apply, Datum.compareBy, present,
    isKey.compareAs, Datum.isNumber]
  rfl

theorem truth_ofBool (b : Bool) : (Datum.ofBool b).truth = some b := by
  cases b <;> rfl

theorem eval_memberOf {env : Env} {place : Nat} (isKey : (env.row.getD place .null).IsKey)
    {numbers : List (Nat × Int64)}
    (given : ∀ pair ∈ numbers, env.parameters.getD (pair.1 - 1) .null = .integer pair.2) :
    ((Term.column place .integer).memberOf (numbers.map fun pair => .parameter pair.1)).eval env =
      .ofBool (numbers.any fun pair => (env.row.getD place .null).isNumber pair.2) := by
  induction numbers with
  | nil => rfl
  | cons first rest ih =>
    have here := eval_keyEquals isKey (given first (List.mem_cons_self ..))
    have later := ih fun pair member => given pair (List.mem_cons_of_mem _ member)
    -- A list of one is a comparison, a longer one a disjunction with the rest.
    cases rest with
    | nil =>
      rw [List.any_cons, List.any_nil, Bool.or_false, ← here]
      rfl
    | cons second rest =>
      have split : ((Term.column place .integer).memberOf
          ((first :: second :: rest).map fun pair => .parameter pair.1)).eval env =
            .ofTruth (Sql.or3 ((Term.keyEquals place first.1).eval env).truth
              (((Term.column place .integer).memberOf
                ((second :: rest).map fun pair => .parameter pair.1)).eval env).truth) := rfl
      have either (a b : Bool) : Datum.ofTruth (Sql.or3 (some a) (some b)) = .ofBool (a || b) := by
        cases a <;> cases b <;> rfl
      rw [split, here, later, truth_ofBool, truth_ofBool, either]
      rfl

end Engine

namespace MappingPlan

variable {p : MappingPlan} {rows : List Row} {db : Database} {layout : List ColumnPlan}

/-! ## Rows -/

/-- Rows as wide as the plan, each with a key. -/
structure Fits (p : MappingPlan) (rows : List Row) : Prop where
  wide : ∀ row ∈ rows, row.length = p.columns.length
  keys : ∀ row ∈ rows, (p.keyAt row).IsKey

def Ordered (p : MappingPlan) (rows : List Row) : Prop :=
  rows.Pairwise fun a b => (p.keyAt a).compare (p.keyAt b) = .lt

def rowsOf (p : MappingPlan) (keys : List Int64) (rows : List Row) : List Row :=
  rows.filter fun row => keys.any fun key => (p.keyAt row).isNumber key

theorem rowsOf_single (ordered : p.Ordered rows) (key : Int64) :
    p.rowsOf [key] rows = []
      ∨ ∃ row ∈ rows, p.rowsOf [key] rows = [row] ∧ (p.keyAt row).isNumber key = true := by
  have sorted : (p.rowsOf [key] rows).Pairwise fun a b =>
      (p.keyAt a).compare (p.keyAt b) = .lt := ordered.sublist List.filter_sublist
  have each : ∀ row ∈ p.rowsOf [key] rows, row ∈ rows ∧ (p.keyAt row).isNumber key = true := by
    intro row member
    simpa [rowsOf] using member
  revert sorted each
  generalize p.rowsOf [key] rows = found
  intro sorted each
  match found with
  | [] => exact .inl rfl
  | [row] =>
    obtain ⟨member, number⟩ := each row (List.mem_cons_self ..)
    exact .inr ⟨row, member, rfl, number⟩
  | a :: b :: rest =>
    have before := (List.pairwise_cons.mp sorted).1 b (List.mem_cons_self ..)
    have same := Datum.compare_of_isNumber (each a (by simp)).2 (each b (by simp)).2
    rw [same] at before
    cases before

theorem holding_keyEquals (fits : p.Fits rows) (key : Int64) :
    holding (some (.keyEquals p.primaryKey 1)) [.integer key] rows = p.rowsOf [key] rows := by
  refine List.filter_congr fun row member => ?_
  have value : (Term.keyEquals p.primaryKey 1).eval { parameters := [.integer key], row := row } =
      .ofBool ((p.keyAt row).isNumber key) := Engine.eval_keyEquals (fits.keys row member) rfl
  simp only [Engine.holdsAll, Option.all_some, Term.holds]
  rw [value, Engine.truth_ofBool]
  simp

theorem holding_memberOf (fits : p.Fits rows) (keys : List Int64) :
    holding (some ((Term.column p.primaryKey .integer).memberOf
      ((List.range keys.length).map fun i => .parameter (i + 1)))) (keys.map .integer) rows =
        p.rowsOf keys rows := by
  -- Each key with the number of the parameter that it is given as.
  let numbers := keys.zipIdx.map fun pair => (pair.2 + 1, pair.1)
  have parameters : (List.range keys.length).map (fun i => Term.parameter (i + 1)) =
      numbers.map fun pair => .parameter pair.1 := by
    refine List.ext_getElem (by simp [numbers]) fun i _ _ => ?_
    simp [numbers]
  have found (row : Row) : (numbers.any fun pair => (p.keyAt row).isNumber pair.2) =
      keys.any fun key => (p.keyAt row).isNumber key := by
    have keysOf : numbers.map (·.2) = keys := by
      refine List.ext_getElem (by simp [numbers]) fun i _ _ => ?_
      simp [numbers]
    conv => rhs; rw [← keysOf, List.any_map]
    rfl
  refine List.filter_congr fun row member => ?_
  have given : ∀ pair ∈ numbers, (keys.map Datum.integer).getD (pair.1 - 1) .null =
      .integer pair.2 := by
    intro pair listed
    obtain ⟨⟨key, i⟩, place, rfl⟩ := List.mem_map.mp listed
    have here := List.mem_zipIdx_iff_getElem?.mp place
    simp [List.getD_eq_getElem?_getD, here]
  have value : ((Term.column p.primaryKey .integer).memberOf
      (numbers.map fun pair => .parameter pair.1)).eval
        { parameters := keys.map .integer, row := row } =
          .ofBool (numbers.any fun pair => (p.keyAt row).isNumber pair.2) := by
    refine Engine.eval_memberOf ?_ given
    exact fits.keys row member
  simp only [Engine.holdsAll, Option.all_some, Term.holds]
  rw [parameters, value, Engine.truth_ofBool, found row]
  cases keys.any fun key => (p.keyAt row).isNumber key <;> rfl

/-! ## Rows in the order of a table -/

section
variable (sound : p.Sound) (perm : layout.Perm p.columns)
include sound perm

theorem Fits.picked (fits : p.Fits rows) : (p.onto layout).Fits (rows.map (p.picked layout)) where
  wide row member := by
    obtain ⟨_, _, rfl⟩ := List.mem_map.mp member
    simp
  keys row member := by
    obtain ⟨row, listed, rfl⟩ := List.mem_map.mp member
    rw [sound.keyAt_picked perm]
    exact fits.keys row listed

theorem Ordered.picked (ordered : p.Ordered rows) :
    (p.onto layout).Ordered (rows.map (p.picked layout)) := by
  rw [Ordered, List.pairwise_map]
  simp only [sound.keyAt_picked perm]
  exact ordered

theorem rowsOf_picked (keys : List Int64) (rows : List Row) :
    (p.onto layout).rowsOf keys (rows.map (p.picked layout)) =
      (p.rowsOf keys rows).map (p.picked layout) := by
  simp [rowsOf, List.filter_map, Function.comp_def, sound.keyAt_picked perm]

/-- Rows that are read in the order of the plan are as they were. -/
theorem map_picked_picked (wide : ∀ row ∈ rows, row.length = p.columns.length) :
    (rows.map (p.picked layout)).map ((p.onto layout).picked p.columns) = rows := by
  rw [List.map_map]
  exact (List.map_congr_left fun row member => sound.picked_picked perm (wide row member)).trans
    (List.map_id _)

end

theorem rowsOf_wide (fits : p.Fits rows) (keys : List Int64) :
    ∀ row ∈ p.rowsOf keys rows, row.length = p.columns.length :=
  fun row member => fits.wide row (List.mem_filter.mp member).1

/-! ## Queries -/

theorem prepare_rows (sound : p.Sound) (stored : p.In layout rows db) {outputs : List Output}
    (columns : List.Forall₂ Output.IsColumn p.columns outputs) {condition : Option Expr}
    {term : Option Term} {orders : List SortKey} {terms : List Term} (place : Nat)
    (written : String)
    (resolves : ∀ scope : Scope,
      scope.sources = [((p.onto layout).shape (rows.map (p.picked layout))).source] →
        scope.resolve? condition = .ok term)
    (ordered : ∀ scope : Scope,
      scope.sources = [((p.onto layout).shape (rows.map (p.picked layout))).source] →
        Engine.resolveKeys "ORDER" scope ((p.onto layout).results p.columns) orders = .ok terms) :
    ∃ program, db.prepare (.select {
        outputs := outputs, source := some ⟨place, none, p.table, written⟩
        condition := condition, orders := orders }) = .ok (some program)
      ∧ program.writes = false ∧ ∀ parameters, program.run parameters db = (do
        return { database := db
                 rows := ← Engine.stopOn (Plan.run {
                  outputs := ((p.onto layout).results p.columns).map (·.term), condition := term
                  groups := none, orders := terms.zip (orders.map (·.descending)), limit := none
                  offset := none } parameters (rows.map (p.picked layout))) }) := by
  let q : Query := {
    columns := Engine.resultColumns ((p.onto layout).results p.columns)
    plan := { outputs := ((p.onto layout).results p.columns).map (·.term), condition := term
              groups := none, orders := terms.zip (orders.map (·.descending)), limit := none
              offset := none }
    rows := fun db => .ok (((db.table? p.table).map (·.rows)).getD []) }
  have known : ∀ c ∈ p.columns, c ∈ (p.onto layout).columns :=
    fun _ member => stored.perm.mem_iff.mpr member
  have query : db.query { outputs := outputs, source := some ⟨place, none, p.table, written⟩
                          condition := condition, orders := orders } = .ok q :=
    query_of_plan (p := p.onto layout) stored.found rfl rfl
      (preparePlan_rows (sound.onto stored.perm) known columns resolves ordered)
  refine ⟨q.program, congrArg (Except.map fun q : Query => some q.program) query, rfl,
    fun parameters => ?_⟩
  simp only [Query.program, Query.run, q, stored.found]
  rfl

theorem resolveKeys_none (p : MappingPlan) (columns : List ColumnPlan) (scope : Scope)
    (_ : scope.sources = [(p.shape rows).source]) :
    Engine.resolveKeys "ORDER" scope (p.results columns) [] = .ok [] := rfl

theorem resolve?_none (p : MappingPlan) (rows : List Row) (scope : Scope)
    (_ : scope.sources = [(p.shape rows).source]) : scope.resolve? none = .ok none := rfl

/-- Without an order that is asked for, rows are in order as they are. -/
theorem unordered {α : Type} {f : α → Row} (rows : List α) :
    rows.Pairwise fun a b => Engine.compareKeys ([] : List Bool) (f a) (f b) ≠ .gt :=
  List.pairwise_of_forall fun _ _ => by simp [Engine.compareKeys]

/-- What a query finds, as a program gives it. -/
def Finds (program : Program) (parameters : List Datum) (db : Database) (found : List Row) : Prop :=
  program.writes = false
    ∧ program.run parameters db = .ok { database := db, rows := found }

theorem prepare_get (sound : p.Sound) (stored : p.In layout rows db) (fits : p.Fits rows)
    {outputs : List Output} (columns : List.Forall₂ Output.IsColumn p.columns outputs)
    (place key : Nat) (written : String) :
    ∃ program, db.prepare (.select {
        outputs := outputs, source := some ⟨place, none, p.table, written⟩
        condition := some (.binary .equal (.column key none p.keyColumn false) (.parameter 1)) }) =
          .ok (some program)
      ∧ ∀ number, Finds program [.integer number] db (p.rowsOf [number] rows) := by
  have resolves (scope : Scope)
      (sources : scope.sources = [((p.onto layout).shape (rows.map (p.picked layout))).source]) :
      scope.resolve? (some (.binary .equal (.column key none p.keyColumn false) (.parameter 1))) =
        .ok (some (.keyEquals (p.onto layout).primaryKey 1)) := by
    have column := (sound.onto stored.perm).resolve_key sources key
    rw [onto_keyColumn] at column
    rw [Scope.resolve?, Scope.resolve, column]
    rfl
  obtain ⟨program, prepared, reads, runs⟩ := prepare_rows sound stored columns place written
    resolves ((p.onto layout).resolveKeys_none p.columns)
  refine ⟨program, prepared, fun number => ⟨reads, ?_⟩⟩
  have laid := fits.picked sound stored.perm
  rw [runs, List.map_nil, List.zip_nil_left,
    run_rows p.columns (by simp) (unordered _),
    holding_keyEquals laid, rowsOf_picked sound stored.perm,
    map_picked_picked sound stored.perm (rowsOf_wide fits _)]
  rfl

theorem resolveAll_parameters (scope : Scope) (numbers : List Nat) :
    scope.resolveAll (numbers.map fun i => .parameter (i + 1)) =
      .ok (numbers.map fun i => .parameter (i + 1)) := by
  induction numbers with
  | nil => rfl
  | cons n rest ih =>
    rw [List.map_cons, Scope.resolveAll, Scope.resolve, ih]
    rfl

theorem prepare_gets (sound : p.Sound) (stored : p.In layout rows db) (fits : p.Fits rows)
    {outputs : List Output} (columns : List.Forall₂ Output.IsColumn p.columns outputs)
    (place key count : Nat) (written : String) :
    ∃ program, db.prepare (.select {
        outputs := outputs, source := some ⟨place, none, p.table, written⟩
        condition := some (.inList (.column key none p.keyColumn false)
          ((List.range count).map fun i => .parameter (i + 1))) }) = .ok (some program)
      ∧ ∀ keys, keys.length = count → Finds program (keys.map .integer) db (p.rowsOf keys rows) := by
  have resolves (scope : Scope)
      (sources : scope.sources = [((p.onto layout).shape (rows.map (p.picked layout))).source]) :
      scope.resolve? (some (.inList (.column key none p.keyColumn false)
        ((List.range count).map fun i => .parameter (i + 1)))) =
          .ok (some ((Term.column (p.onto layout).primaryKey .integer).memberOf
            ((List.range count).map fun i => .parameter (i + 1)))) := by
    have column := (sound.onto stored.perm).resolve_key sources key
    rw [onto_keyColumn] at column
    rw [Scope.resolve?, Scope.resolve, column, resolveAll_parameters]
    rfl
  obtain ⟨program, prepared, reads, runs⟩ := prepare_rows sound stored columns place written
    resolves ((p.onto layout).resolveKeys_none p.columns)
  refine ⟨program, prepared, fun keys counted => ⟨reads, ?_⟩⟩
  subst counted
  have laid := fits.picked sound stored.perm
  rw [runs, List.map_nil, List.zip_nil_left,
    run_rows p.columns (by simp) (unordered _),
    holding_memberOf laid, rowsOf_picked sound stored.perm,
    map_picked_picked sound stored.perm (rowsOf_wide fits _)]
  rfl

theorem prepare_select (sound : p.Sound) (stored : p.In layout rows db) (fits : p.Fits rows)
    (inOrder : p.Ordered rows) {outputs : List Output} (columns : List.Forall₂ Output.IsColumn p.columns outputs)
    (place key : Nat) (written : String) :
    ∃ program, db.prepare (.select {
        outputs := outputs, source := some ⟨place, none, p.table, written⟩
        orders := [{ place := key, expr := .column key none p.keyColumn false }] }) =
          .ok (some program)
      ∧ Finds program [] db rows := by
  let results := (p.onto layout).results p.columns
  let laidRows := rows.map (p.picked layout)
  -- A result with the name of the key would be what is sorted by.
  have unnamed : Engine.namedResult? results (.column key none p.keyColumn false) = none := by
    have none_found : results.find? (fun r => r.named && Sql.sameName r.name p.keyColumn) = none := by
      rw [List.find?_eq_none]
      intro r member
      simp [((p.onto layout).results_plain p.columns r member).1]
    rw [Engine.namedResult?, none_found]
    rfl
  have ordered (scope : Scope) (sources : scope.sources = [((p.onto layout).shape laidRows).source]) :
      Engine.resolveKeys "ORDER" scope results
        [{ place := key, expr := .column key none p.keyColumn false }] =
          .ok [.column (p.onto layout).primaryKey .integer] := by
    have column := (sound.onto stored.perm).resolve_key sources key
    rw [onto_keyColumn] at column
    have target : Engine.resolveKey "ORDER" scope results
        ({ place := key, expr := .column key none p.keyColumn false }, 0) =
          .ok (.term (.column (p.onto layout).primaryKey .integer)) := by
      simp only [Engine.resolveKey, ↓reduceIte, unnamed]
      rw [column]
      rfl
    simp only [Engine.resolveKeys, List.zipIdx_cons, List.zipIdx_nil, List.mapM_cons,
      List.mapM_nil, target]
    rfl
  obtain ⟨program, prepared, reads, runs⟩ := prepare_rows sound stored columns place written
    ((p.onto layout).resolve?_none laidRows) ordered
  refine ⟨program, prepared, reads, ?_⟩
  have sorted : laidRows.Pairwise fun a b => Engine.compareKeys [false]
      [(p.onto layout).keyAt a] [(p.onto layout).keyAt b] ≠ .gt :=
    (inOrder.picked sound stored.perm).imp fun before => by simp [Engine.compareKeys, Engine.compareKey, before]
  have all : holding none [] laidRows = laidRows := List.filter_true laidRows
  have run : Plan.run { outputs := results.map (·.term), condition := none, groups := none
                        orders := [(.column (p.onto layout).primaryKey .integer, false)]
                        limit := none, offset := none } [] laidRows =
      .ok ((holding none [] laidRows).map ((p.onto layout).picked p.columns)) :=
    run_rows p.columns (by simp [Term.overflows]) sorted
  rw [runs, List.map_singleton, List.zip_cons_cons, List.zip_nil_left, run, all,
    map_picked_picked sound stored.perm fits.wide]
  rfl

theorem prepare_count (stored : p.In layout rows db) (place call : Nat) (written : String) :
    ∃ program, db.prepare (.select {
        outputs := [.value (.call call "count" [.literal (.integer 1)]) none]
        source := some ⟨place, none, p.table, written⟩ }) = .ok (some program)
      ∧ Finds program [] db [[.integer (Int64.ofNat rows.length)]] := by
  let result : ResultColumn := { term := .count (.literal (.integer 1)), name := "" }
  let plan : Plan := { outputs := [result.term], condition := none, groups := some [], orders := []
                       limit := none, offset := none }
  have prepared : Engine.preparePlan [(((p.onto layout).shape (rows.map (p.picked layout)))).source] {
      outputs := [.value (.call call "count" [.literal (.integer 1)]) none]
      source := some ⟨place, none, p.table, written⟩ } = .ok ([result], plan) := rfl
  have counted : plan.run [] (rows.map (p.picked layout)) =
      .ok [[.integer (Int64.ofNat rows.length)]] := by
    simp [Plan.run, Plan.moments, Plan.reached, plan, result, Engine.countOf?, bind, Except.bind,
      Engine.holdsAll, Term.overflows, Engine.sortByKeys, Engine.slice, Term.eval]
    rfl
  let q : Query := {
    columns := Engine.resultColumns [result], plan := plan
    rows := fun db => .ok (((db.table? p.table).map (·.rows)).getD []) }
  have query : db.query {
      outputs := [.value (.call call "count" [.literal (.integer 1)]) none]
      source := some ⟨place, none, p.table, written⟩ } = .ok q :=
    query_of_plan (p := p.onto layout) stored.found rfl rfl prepared
  refine ⟨q.program, congrArg (Except.map fun q : Query => some q.program) query, rfl, ?_⟩
  simp only [Query.program, Query.run, q, stored.found, bind, Except.bind, Option.map_some,
    Option.getD_some]
  rw [show ((p.onto layout).shape (rows.map (p.picked layout))).rows = rows.map (p.picked layout)
    from rfl, counted]
  rfl

end MappingPlan

end EntityStore
