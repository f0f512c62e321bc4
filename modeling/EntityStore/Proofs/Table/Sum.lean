import EntityStore.Proofs.Sql.Total
import EntityStore.Proofs.Table.Group
import EntityStore.Proofs.Table.Layout

/-! # Sums of columns

What the sum of a column comes to over the rows of a table that a condition holds for, perhaps by groups:

* `MappingPlan.Resolves` — a condition and keys of groups over the columns of a plan.
* `MappingPlan.groupsOf`, `MappingPlan.sumsOf` — rows in groups, and their sums.
* `MappingPlan.sumsOf_within`, `MappingPlan.sumsOf_beyond` — the sums of integers are exact, or the query
  fails.
* `MappingPlan.prepare_sum` — what the query for a sum comes to.
-/

namespace EntityStore

open EntityStore.Engine (Database Row Scope Term Fault Plan Query Program ResultColumn Env Grouped)
open EntityStore.Sql (Datum Expr Output Select SortKey ObjectName Total RunsWithin runsWithin_of_signs)

namespace MappingPlan

variable {p : MappingPlan} {layout : List ColumnPlan} {rows : List Row} {db : Database}
  {parameters : List Datum} {condition : Term} {keys : List Term} {c : ColumnPlan}

/-! ## Conditions and keys -/

/-- The columns of a plan, as expressions refer to them. -/
def scope (p : MappingPlan) (aggregates : Bool) : Scope :=
  { sources := [(p.shape []).source], aggregates := aggregates }

/-- A key of groups, which is no number, since that would be the place of the sum. -/
structure IsGroupKey (p : MappingPlan) (item : SortKey) (key : Term) : Prop where
  expression : Engine.writtenInteger? item.expr = none
  resolves : (p.scope true).resolve item.expr = .ok key
  single : key.isAggregate = false

/-- A condition and keys of groups over the columns of a plan. -/
structure Resolves (p : MappingPlan) (clause : Option Expr × List SortKey) (condition : Term)
    (keys : List Term) : Prop where
  condition : ∃ expr, clause.1 = some expr ∧ (p.scope false).resolve expr = .ok condition
  keys : List.Forall₂ p.IsGroupKey clause.2 keys

def keysOf (keys : List Term) (parameters : List Datum) (row : Row) : Row :=
  keys.map (·.eval { parameters := parameters, row := row })

/-- The groups of rows; without keys all rows are one group. -/
def groupsOf (keys : List Term) (parameters : List Datum) (rows : List Row) : List (List Row) :=
  match keys with
  | [] => [rows]
  | keys => Engine.groupByKeys (keysOf keys parameters) rows

theorem subset_groupsOf {group : List Row} (member : group ∈ groupsOf keys parameters rows) :
    ∀ row ∈ group, row ∈ rows := by
  cases keys with
  | nil =>
    rw [groupsOf, List.mem_singleton] at member
    exact fun row listed => member ▸ listed
  | cons key rest => exact (Engine.grouped_groupByKeys _ rows).subset member

/-- What rows add to the sum of their values in a place. -/
def summands (place : Nat) (rows : List Row) : List Int :=
  rows.map fun row => (row.getD place .null).summand

/-- The sum of the values in a place of rows, if it has not gone beyond 64 bits. -/
def totalOf (place : Nat) (rows : List Row) : Option Datum :=
  (Total.ofList (rows.map fun row => row.getD place .null)).result?

/-! ## Sums -/

/-- The sums of the values in a place by groups of rows; with one of them beyond 64 bits there is none. -/
def sumsOf (place : Nat) (groups : List (List Row)) : Except Fault (List Row) :=
  if groups.any fun group => (totalOf place group).isNone then .error (.statement "integer overflow")
  else .ok (groups.map fun group => [(totalOf place group).getD .null])

/-- The sum of integers in a place is exact, if it never leaves the 64 bits; otherwise there is none. -/
theorem totalOf_whole {place : Nat} (whole : ∀ row ∈ rows, (row.getD place .null).IsWhole) :
    (RunsWithin (summands place rows) → ∃ d, totalOf place rows = some d
        ∧ (aggregateOf d).toInt = (summands place rows).sum)
      ∧ (¬RunsWithin (summands place rows) → totalOf place rows = none) := by
  have counted := Total.result?_ofList (List.forall_mem_map.mpr whole)
  rwa [List.map_map] at counted

/-- The order of rows does not matter if neither the positive nor the negative integers alone go beyond 64
    bits. -/
theorem totalOf_perm {place : Nat} {order : List Row} (whole : ∀ row ∈ rows, (row.getD place .null).IsWhole)
    (positive : Number.Fits 64 ((summands place rows).filter (0 < ·)).sum)
    (negative : Number.Fits 64 ((summands place rows).filter (· < 0)).sum) (perm : order.Perm rows) :
    ∃ d, totalOf place order = some d ∧ (aggregateOf d).toInt = (summands place rows).sum := by
  have same : (summands place order).Perm (summands place rows) := perm.map _
  rw [← same.sum_eq]
  exact (totalOf_whole fun row listed => whole row (perm.mem_iff.mp listed)).1
    (runsWithin_of_signs positive negative same)

section
variable {place : Nat} {groups : List (List Row)}
  (whole : ∀ group ∈ groups, ∀ row ∈ group, (row.getD place .null).IsWhole)
include whole

/-- The sums of integers are exact, if none of them ever leaves the 64 bits. -/
theorem sumsOf_within (within : ∀ group ∈ groups, RunsWithin (summands place group)) :
    ∃ found, sumsOf place groups = .ok found
      ∧ found.map (fun row => (aggregateOf (row.headD .null)).toInt) =
        groups.map fun group => (summands place group).sum := by
  have counted (group : List Row) (member : group ∈ groups) :=
    (totalOf_whole (whole group member)).1 (within group member)
  have found : groups.any (fun group => (totalOf place group).isNone) = false := by
    rw [List.any_eq_false]
    intro group member
    obtain ⟨d, total, _⟩ := counted group member
    simp [total]
  refine ⟨_, if_neg (Bool.eq_false_iff.mp found), ?_⟩
  rw [List.map_map]
  refine List.map_congr_left fun group member => ?_
  obtain ⟨d, total, sum⟩ := counted group member
  simp only [Function.comp_apply, total, Option.getD_some, List.headD_cons, sum]

theorem sumsOf_beyond (beyond : ¬∀ group ∈ groups, RunsWithin (summands place group)) :
    sumsOf place groups = .error (.statement "integer overflow") := by
  rw [not_forall] at beyond
  obtain ⟨group, beyond⟩ := beyond
  rw [Classical.not_imp] at beyond
  refine if_pos (List.any_eq_true.mpr ⟨group, beyond.1, ?_⟩)
  rw [(totalOf_whole (whole group beyond.1)).2 beyond.2]
  rfl

end

/-! ## The order of columns -/

section
variable (sound : p.Sound) (perm : layout.Perm p.columns)
  (wide : ∀ row ∈ rows, row.length = p.columns.length)
include sound perm wide

/-- Among columns in another order a term has the same value. -/
theorem eval_placeIn (t : Term) {row : Row} (member : row ∈ rows) :
    (t.moved (p.placeIn layout)).eval { parameters := parameters, row := p.picked layout row } =
      t.eval { parameters := parameters, row := row } := by
  refine Term.eval_moved ?_ (sound.getD_placeIn perm (wide row member)) ?_ ?_ t <;> rfl

/-- The rows that a condition holds for are the same in every order of columns. -/
theorem holding_moved (condition : Term) :
    holding (some (condition.moved (p.placeIn layout))) parameters (rows.map (p.picked layout)) =
      (holding (some condition) parameters rows).map (p.picked layout) := by
  rw [holding, List.filter_map]
  refine congrArg _ (List.filter_congr fun row member => ?_)
  simp only [Function.comp_apply, Engine.holdsAll, Option.all_some, Term.holds,
    eval_placeIn sound perm wide condition member]

theorem keysOf_moved {row : Row} (member : row ∈ rows) :
    keysOf (keys.map (Term.moved (p.placeIn layout))) parameters (p.picked layout row) =
      keysOf keys parameters row := by
  rw [keysOf, keysOf, List.map_map]
  exact List.map_congr_left fun key _ => eval_placeIn sound perm wide key member

theorem groupsOf_moved :
    groupsOf (keys.map (Term.moved (p.placeIn layout))) parameters (rows.map (p.picked layout)) =
      (groupsOf keys parameters rows).map (List.map (p.picked layout)) := by
  cases keys with
  | nil => rfl
  | cons key rest =>
    have grouped := Engine.grouped_groupByKeys (keysOf (key :: rest) parameters) rows
    exact (Engine.grouped_groupByKeys _ _).unique (grouped.map fun row => keysOf_moved sound perm wide)

omit wide in
theorem sumsOf_moved (member : c ∈ p.columns) (groups : List (List Row)) :
    sumsOf ((p.onto layout).placeOf c.column) (groups.map (List.map (p.picked layout))) =
      sumsOf (p.placeOf c.column) groups := by
  have total (group : List Row) : totalOf ((p.onto layout).placeOf c.column) (group.map (p.picked layout)) =
      totalOf (p.placeOf c.column) group := by
    rw [totalOf, totalOf, List.map_map]
    simp only [Function.comp_def, getD_picked (sound.layout_apart perm) (perm.mem_iff.mpr member)]
  simp only [sumsOf, List.any_map, List.map_map, Function.comp_def, total]

end

/-! ## Plans -/

theorem mapM_terms (clause : String) (results : List ResultColumn) (keys : List Term) (start : Nat) :
    ((keys.map Engine.KeyTarget.term).zipIdx start).mapM (Engine.KeyTarget.resolve clause results) =
      .ok keys := by
  induction keys generalizing start with
  | nil => rfl
  | cons key rest ih =>
    rw [List.map_cons, List.zipIdx_cons, List.mapM_cons, ih]
    rfl

/-- Keys of groups stand for their terms, where columns are at other places. -/
theorem resolveKeys_moved {f : Nat → Nat} {scope : Scope} {results : List ResultColumn}
    {items : List SortKey} (moves : (p.scope true).Moves f scope)
    (known : List.Forall₂ p.IsGroupKey items keys) :
    Engine.resolveKeys "GROUP" scope results items = .ok (keys.map (Term.moved f)) := by
  have target {item : SortKey} {key : Term} (here : p.IsGroupKey item key) (index : Nat) :
      Engine.resolveKey "GROUP" scope results (item, index) = .ok (.term (key.moved f)) := by
    simp only [Engine.resolveKey, here.expression, Scope.resolve_moved _ moves here.resolves]
    rfl
  have targets (start : Nat) : (items.zipIdx start).mapM (Engine.resolveKey "GROUP" scope results) =
      .ok ((keys.map (Term.moved f)).map .term) := by
    induction known generalizing start with
    | nil => rfl
    | cons here rest ih =>
      rw [List.zipIdx_cons, List.mapM_cons, target here, ih]
      rfl
  rw [Engine.resolveKeys, targets 0]
  exact mapM_terms "GROUP" results _ 0

theorem checkGroups_moved {f : Nat → Nat} {items : List SortKey}
    (known : List.Forall₂ p.IsGroupKey items keys) :
    Engine.checkGroups (keys.map (Term.moved f)) = .ok () := by
  have single : (keys.map (Term.moved f)).any (·.isAggregate) = false := by
    induction known with
    | nil => rfl
    | cons here _ ih => rw [List.map_cons, List.any_cons, ih, Term.isAggregate_moved, here.single]; rfl
  rw [Engine.checkGroups, single]
  rfl

def sumPlan (place : Nat) (affinity : Sql.Affinity) (condition : Term) (keys : List Term) : Plan where
  outputs := [.sum (.column place affinity)]
  condition := some condition
  groups := some keys
  orders := []
  limit := none
  offset := none

theorem resolveOutput_sum (apart : p.columns.Pairwise fun c d => Sql.sameName c.column d.column = false)
    {scope : Scope} (sources : scope.sources = [(p.shape rows).source]) (allowed : scope.aggregates = true)
    {i : Nat} (here : p.columns[i]? = some c) (call name : Nat) :
    Engine.resolveOutput scope (.value (.call call "sum" [.column name none c.column false]) none) =
      .ok [{ term := .sum (.column i (.ofType c.affinity.keyword)), name := "" }] := by
  have operands (aggregates : Bool) : ({ scope with aggregates := aggregates } : Scope).resolveAll
      [.column name none c.column false] = .ok [.column i (.ofType c.affinity.keyword)] := by
    have column : ({ scope with aggregates := aggregates } : Scope).resolve
        (.column name none c.column false) = _ := resolve_column apart sources here name
    rw [Scope.resolveAll, column]
    rfl
  have called : scope.checkCall call "sum" 1 = .ok "sum" := by
    rw [Scope.checkCall, allowed]
    rfl
  have term : scope.resolve (.call call "sum" [.column name none c.column false]) =
      .ok (.sum (.column i (.ofType c.affinity.keyword))) := by
    rw [Scope.resolve, List.length_singleton, called]
    change (Scope.resolveAll _ _ >>= _) = _
    rw [operands]
    rfl
  rw [Engine.resolveOutput, term]
  · rfl
  · intro _ _ _ _ same
    cases same
  · intro _ _ same
    cases same

theorem preparePlan_sum (sound : p.Sound) (perm : layout.Perm p.columns) {i : Nat}
    (here : layout[i]? = some c) {clause : Option Expr × List SortKey}
    (resolves : p.Resolves clause condition keys) (call name : Nat) (source : Option ObjectName) :
    Engine.preparePlan [((p.onto layout).shape rows).source] {
        outputs := [.value (.call call "sum" [.column name none c.column false]) none]
        source := source, condition := clause.1, groups := clause.2 } =
      .ok ([{ term := .sum (.column i (.ofType c.affinity.keyword)), name := "" }],
        sumPlan i (.ofType c.affinity.keyword) (condition.moved (p.placeIn layout))
          (keys.map (Term.moved (p.placeIn layout)))) := by
  obtain ⟨expr, written, found⟩ := resolves.condition
  let inner (aggregates : Bool) : Scope :=
    { sources := [((p.onto layout).shape rows).source], aggregates := aggregates }
  -- The clause is resolved in several scopes, and its places move alike in each.
  have moves (aggregates : Bool) {other : Scope} (sources : other.sources = (inner false).sources)
      (unnamed : other.results = []) (allowed : aggregates = true → other.aggregates = true) :
      (p.scope aggregates).Moves (p.placeIn layout) other :=
    sound.moves_onto perm rfl sources rfl unnamed allowed
  have conditions {other : Scope} (sources : other.sources = (inner false).sources)
      (unnamed : other.results = []) :
      other.resolve? clause.1 = .ok (some (condition.moved (p.placeIn layout))) := by
    have single := moves false sources unnamed fun aggregates => absurd aggregates Bool.false_ne_true
    rw [written, Scope.resolve?, Scope.resolve_moved expr single found]
    rfl
  have output : Engine.resolveOutput (inner true) _ = _ :=
    resolveOutput_sum (p := p.onto layout) (sound.layout_apart perm) rfl rfl here call name
  have first : (inner true).resolve? clause.1 = _ := conditions rfl rfl
  have again : ({ inner false with misuse := "misuse of aggregate: " } : Scope).resolve? clause.1 = _ :=
    conditions rfl rfl
  have groups {results : List ResultColumn} : Engine.resolveKeys "GROUP" (inner true) results clause.2 = _ :=
    resolveKeys_moved (moves true rfl rfl fun _ => rfl) resolves.keys
  have orders {results : List ResultColumn} : Engine.resolveKeys "ORDER" (inner true) results [] = .ok [] := rfl
  simp only [inner] at output first again groups orders
  simp only [Engine.preparePlan, show (({} : Scope).resolve? none) = .ok none from rfl, bind, Except.bind,
    List.mapM_cons, List.mapM_nil, output, pure, Except.pure, List.flatten_cons, List.flatten_nil,
    List.append_nil, List.any_cons, List.any_nil, Term.isAggregate, Bool.or_true, Bool.true_or,
    List.filter_cons, List.filter_nil, Bool.false_eq_true, ↓reduceIte, List.map_nil, first, orders, groups,
    checkGroups_moved resolves.keys, again]
  rfl

/-! ## Running -/

theorem moments_sumPlan (place : Nat) (affinity : Sql.Affinity) (condition : Term) (keys : List Term)
    (parameters : List Datum) (rows : List Row) :
    (sumPlan place affinity condition keys).moments { parameters := parameters } rows =
      (groupsOf keys parameters (holding (some condition) parameters rows)).map fun group =>
        { parameters := parameters, row := group.head?.getD [], group := group } := by
  cases keys <;> rfl

/-- The query for the sum of a place gives the sums of the groups, or fails with one of them. -/
theorem run_sumPlan (place : Nat) (affinity : Sql.Affinity) (condition : Term) (keys : List Term)
    (parameters : List Datum) (rows : List Row) :
    (sumPlan place affinity condition keys).run parameters rows =
      sumsOf place (groupsOf keys parameters (holding (some condition) parameters rows)) := by
  have unsorted (moments : List Env) : Engine.sortByKeys [] (fun _ => []) moments = moments :=
    sortByKeys_sorted (List.pairwise_of_forall fun _ _ => by simp [Engine.compareKeys])
  have unlimited (moments : List Env) : Engine.slice none none moments = moments := rfl
  rw [Plan.run, moments_sumPlan]
  simp only [sumPlan, Plan.reached, Engine.countOf?, bind, Except.bind, pure, Except.pure, List.map_nil,
    List.append_nil, List.any_map, List.any_cons, List.any_nil, Bool.or_false, unsorted, unlimited,
    List.map_map]
  rfl

theorem prepare_sum (sound : p.Sound) (stored : p.In layout rows db)
    (wide : ∀ row ∈ rows, row.length = p.columns.length) (member : c ∈ p.columns)
    {clause : Option Expr × List SortKey} (resolves : p.Resolves clause condition keys)
    (place call name : Nat) (written : String) :
    ∃ q : Query, db.prepare (.select {
        outputs := [.value (.call call "sum" [.column name none c.column false]) none]
        source := some ⟨place, none, p.table, written⟩
        condition := clause.1, groups := clause.2 }) = .ok (some q.program)
      ∧ ∀ parameters, q.run parameters db = sumsOf (p.placeOf c.column)
          (groupsOf keys parameters (holding (some condition) parameters rows)) := by
  obtain ⟨i, here⟩ := List.getElem?_of_mem (stored.perm.mem_iff.mpr member)
  have query := query_of_plan (p := p.onto layout) stored.found rfl rfl
    (preparePlan_sum sound stored.perm here resolves call name (some ⟨place, none, p.table, written⟩))
  refine ⟨_, congrArg (Except.map fun q : Query => some q.program) query, fun parameters => ?_⟩
  have found : db.table? (p.onto layout).table = _ := stored.found
  -- The sum is taken in the layout of the table, and moved back to the order of the plan.
  have at_place : i = (p.onto layout).placeOf c.column :=
    (placeOf_column (p := p.onto layout) (sound.layout_apart stored.perm) here).symm
  simp only [Query.run, found, Option.map_some, Option.getD_some, bind, Except.bind]
  change Plan.run _ parameters (rows.map (p.picked layout)) = _
  have among : ∀ row ∈ holding (some condition) parameters rows, row.length = p.columns.length :=
    fun row listed => wide row (List.mem_filter.mp listed).1
  rw [run_sumPlan, holding_moved sound stored.perm wide, groupsOf_moved sound stored.perm among, at_place,
    sumsOf_moved sound stored.perm member]

end MappingPlan

end EntityStore
