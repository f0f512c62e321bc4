import EntityStore.Proofs.Mapper.Working
import EntityStore.Proofs.Table.Sum
import EntityStore.Proofs.Text.Piece

/-! # Sums of mappers

What the sum of a column comes to, over the rows that a predicate holds for, perhaps by groups:

* `MappingPlan.Accepts` — a predicate, perhaps with groups, that the engine reads and finds all names of.
* `MappingPlan.parse_sum_trim` — the query in the text of a sum.
* `Mapper.refuses_aggregate` — a query that the engine stops.
* `Mapper.yields_sum`, `Mapper.yields_read_refused` — sums, and what is given in place of them.
-/

namespace EntityStore

open EntityStore.Engine (Database Row Term Fault)
open EntityStore.Sql (Datum Statement Expr SortKey Token RunsWithin tokens phrase isName endsExpr)
open Session (Yields Refuses)

/-! ## Texts -/

namespace MappingPlan

variable {p : MappingPlan}

def clauseText (predicate : String) (group : Option String) : String :=
  "where " ++ predicate
    ++ (match group with
        | none => ""
        | some group => " group by " ++ group)

/-- A predicate, perhaps with groups, that the engine reads with so many parameters, as a condition and
    keys of groups whose names are columns of a plan.

    The dialect is that of `Sql.readExpr`: literals, parameters, columns, comparisons, `is`, `isnull`,
    `between`, `in` with a list, `not`, `and`, `or`, arithmetic, bits, `||`, `cast` and `typeof`.  There are
    no other functions, no patterns (`like`, `glob`), no `case`, no `collate`, no rows of values, no queries
    inside, and groups have no `having`. -/
structure Accepts (p : MappingPlan) (predicate : String) (group : Option String) (count : Nat)
    (condition : Term) (keys : List Term) : Prop where
  reads : ∃ clause unread named,
    readClause.run { rest := tokens (Text.trim (clauseText predicate group)).toList } =
      .ok (clause, ⟨unread, count, named⟩)
    ∧ (unread = [] ∨ unread = [.symbol ";"])
    ∧ p.Resolves clause condition keys

theorem startsWith_clauseText (predicate : String) (group : Option String) :
    StartsWith "where" (clauseText predicate group) := by
  cases group with
  | none => exact ⟨predicate.toList, by simp [clauseText, String.toList_append]⟩
  | some group =>
    exact ⟨predicate.toList ++ (" group by " ++ group).toList, by simp [clauseText, String.toList_append]⟩

theorem toList_trim_sum (p : MappingPlan) (column predicate : String) (group : Option String) :
    (Text.trim (p.sum column predicate group)).toList = phrase ["select", "sum"] ++ '(' ::
      (column.toList ++ ')' :: ' ' :: (phrase ["from"] ++ (p.table.toList ++ ' ' ::
        (Text.trim (clauseText predicate group)).toList))) := by
  obtain ⟨following, clause⟩ := startsWith_clauseText predicate group
  have whole : (p.sum column predicate group).toList =
      's' :: ("elect sum (".toList ++ column.toList ++ ") from ".toList ++ p.table.toList ++ [' ']) ++
        (clauseText predicate group).toList := by
    cases group <;> simp [sum, aggregate, clauseText, String.toList_append]
  have where_ : (clauseText predicate group).toList = 'w' :: ("here ".toList ++ following) := by
    rw [clause]
    rfl
  rw [Text.trim, Text.trim, String.toList_ofList, String.toList_ofList, whole, where_,
    Text.trimChars_append (by decide) (by decide)]
  simp [phrase]

theorem parse_sum_trim (written : p.Written) {column : String} (isColumn : isName column = true)
    {predicate : String} {group : Option String} {clause : Option Expr × List SortKey} {unread : List Token}
    {count : Nat} {named : List (String × Nat)}
    (reads : readClause.run { rest := tokens (Text.trim (clauseText predicate group)).toList } =
      .ok (clause, ⟨unread, count, named⟩))
    (ended : unread = [] ∨ unread = [.symbol ";"]) :
    ∃ place call name, Sql.parse (tokens (Text.trim (p.sum column predicate group)).toList) =
      .ok (some ⟨.select { outputs := [.value (.call call "sum" [.column name none column false]) none]
                           source := some ⟨place, none, p.table, p.table⟩
                           condition := clause.1, groups := clause.2 }, count, []⟩) := by
  obtain ⟨following, tokens_where⟩ :=
    (startsWith_clauseText predicate group).tokens_trim (by decide) (by decide)
  have ends : endsExpr (tokens (Text.trim (clauseText predicate group)).toList) = true := by
    rw [tokens_where]
    rfl
  rw [toList_trim_sum]
  exact parse_sum written isColumn rfl ends reads ended

end MappingPlan

namespace Mapper

variable {m : Mapper} {s : Scene} {id : Nat} {alone : Bool} {start : Database} {rows : List Row}
  {layout : List ColumnPlan} {α : Type} {w : World} {parameters : List StoredValue} {failure : Failure}

/-! ## Queries that fail -/

theorem refuses_withTable {op : Nat → Session α} (accepted : m.plan.Accepted)
    (refuses : ∀ layout, Refuses (m.Attends s id alone start layout rows) (op id) failure
      (m.Attends s id alone start layout rows)) :
    Refuses (m.Works s id alone start rows) (m.withTable op) failure (m.Works s id alone start rows) := by
  intro w before
  obtain ⟨layout, u, attends, same⟩ := before.outcome_withTable accepted op
  obtain ⟨v, failed, after⟩ := refuses layout u attends
  exact ⟨v, same.trans failed, after.works⟩

theorem refuses_query {text : String} {statement : Statement} {parameters : List Datum} {fault : Fault}
    (solid : Text.trim text = text)
    (parsed : Sql.parse (Sql.tokens text.toList) = .ok (some ⟨statement, parameters.length, []⟩))
    (stops : ∀ db, m.plan.In layout rows db → ∃ q : Engine.Query, db.prepare statement = .ok (some q.program)
      ∧ q.run parameters db = .error fault) (f : List Row → α) :
    Refuses (m.Attends s id alone start layout rows)
      (do return f (← Session.runWith id (← Session.prepareCached id text) parameters).rows)
      (Refusal.toFailure ⟨fault.code, fault.text, false⟩) (m.Attends s id alone start layout rows) := by
  rintro w ⟨t, db, follows, changes, stands, opened, table, shows⟩
  obtain ⟨h, here, sees⟩ := stands.sees
  obtain ⟨q, prepared, stopped⟩ := stops db table
  have refuses : Refuses (World.Sees t id alone db)
      (do return f (← Session.runWith id (← Session.prepareCached id text) parameters).rows)
      (Refusal.toFailure ⟨fault.code, fault.text, false⟩) (World.Sees t id alone db) := by
    refine (Session.yields_cached opened solid (prepareText_parsed parsed prepared)).bind_refuses ?_
    exact (Session.refuses_query opened rfl rfl stopped).bind
  obtain ⟨v, failed, k, seen, shown⟩ := refuses w ⟨h, sees, by rw [Scene.put_same here]; exact shows⟩
  refine ⟨v, failed, t.put id k, db, follows.trans (.put k), changes, ?_, opened, table, shown⟩
  exact stands.put seen stands.ready stands.serves ⟨layout, table⟩

theorem refuses_aggregate {text : String} {statement : Statement} {fault : Fault} (accepted : m.plan.Accepted)
    (solid : Text.trim text = text)
    (parsed : Sql.parse (Sql.tokens text.toList) = .ok (some ⟨statement, parameters.length, []⟩))
    (stops : ∀ layout db, m.plan.In layout rows db → ∃ q : Engine.Query, db.prepare statement = .ok (some q.program)
      ∧ q.run (parameters.map .ofStored) db = .error fault) :
    Refuses (m.Works s id alone start rows) (m.aggregate text parameters)
      (Refusal.toFailure ⟨fault.code, fault.text, false⟩) (m.Works s id alone start rows) := by
  refine refuses_withTable accepted fun layout => yields_countQuery_attends.bind_refuses ?_
  have counted : (parameters.map Datum.ofStored).length = parameters.length := List.length_map _
  exact refuses_query solid (counted.symm ▸ parsed) (stops layout)
    fun rows => rows.map fun row => aggregateOf (row.headD .null)

/-- A read that fails gives the standard result. -/
theorem yields_read_refused {op : String} {standard : α} {block : Session α}
    (refuses : Refuses (m.Works s id alone start rows) block failure (m.Works s id alone start rows)) :
    Yields (m.Works s id alone start rows) (m.read op standard block) standard
      (m.Works s id alone start rows) := by
  refine .bind yields_contextId.attempt (.bind (refuses.annotate _).attempt (.context fun c => ?_))
  refine .imp (fun _ both => both.1) (.bind (yields_report_works _) (.pure standard)) fun _ works => works

/-! ## Sums -/

/-- What is given for the answer to a query for sums; nothing if it has failed. -/
def totalsOf : Except Fault (List Row) → List Int64
  | .ok found => found.map fun row => aggregateOf (row.headD .null)
  | .error _ => []

/-- The sums of integers are exact if none of them ever leaves the 64 bits. -/
theorem totalsOf_sumsOf {place : Nat} {groups : List (List Row)}
    (whole : ∀ group ∈ groups, ∀ row ∈ group, (row.getD place .null).IsWhole)
    (within : ∀ group ∈ groups, RunsWithin (MappingPlan.summands place group)) :
    (totalsOf (MappingPlan.sumsOf place groups)).map (·.toInt) =
      groups.map fun group => (MappingPlan.summands place group).sum := by
  obtain ⟨found, answer, exact⟩ := MappingPlan.sumsOf_within whole within
  rw [answer, totalsOf, List.map_map]
  exact exact

/-- Blanks around the text of an aggregate do not matter. -/
theorem aggregate_trim (m : Mapper) (text : String) (parameters : List StoredValue) :
    m.aggregate (Text.trim text) parameters = m.aggregate text parameters := by
  simp only [aggregate, Session.prepareCached, Text.trim_trim]

theorem Works.wide (works : m.Works s id alone start rows w) :
    ∀ row ∈ rows, row.length = m.plan.columns.length := by
  obtain ⟨_, _, _, _, stands, _⟩ := works
  exact stands.serves.wide

section
variable {c : ColumnPlan} {condition : Term} {keys : List Term}

def groups (condition : Term) (keys : List Term) (parameters : List StoredValue) (rows : List Row) :
    List (List Row) :=
  MappingPlan.groupsOf keys (parameters.map .ofStored)
    (MappingPlan.holding (some condition) (parameters.map .ofStored) rows)

/-- The answer to the query for the sums of a column by groups of rows. -/
def sums (m : Mapper) (c : ColumnPlan) (condition : Term) (keys : List Term) (parameters : List StoredValue)
    (rows : List Row) : Except Fault (List Row) :=
  MappingPlan.sumsOf (m.plan.placeOf c.column) (groups condition keys parameters rows)

section
variable (whole : ∀ row ∈ rows, (row.getD (m.plan.placeOf c.column) .null).IsWhole)
include whole

theorem whole_groups : ∀ group ∈ groups condition keys parameters rows, ∀ row ∈ group,
    (row.getD (m.plan.placeOf c.column) .null).IsWhole := fun _ member row listed =>
  whole row (List.mem_filter.mp (MappingPlan.subset_groupsOf member row listed)).1

theorem totalsOf_within (within : ∀ group ∈ groups condition keys parameters rows,
      RunsWithin (MappingPlan.summands (m.plan.placeOf c.column) group)) :
    (totalsOf (m.sums c condition keys parameters rows)).map (·.toInt) =
      (groups condition keys parameters rows).map fun group =>
        (MappingPlan.summands (m.plan.placeOf c.column) group).sum :=
  totalsOf_sumsOf (whole_groups whole) within

theorem totalsOf_beyond (beyond : ¬∀ group ∈ groups condition keys parameters rows,
      RunsWithin (MappingPlan.summands (m.plan.placeOf c.column) group)) :
    totalsOf (m.sums c condition keys parameters rows) = [] := by
  rw [sums, MappingPlan.sumsOf_beyond (whole_groups whole) beyond]
  rfl

theorem first_totalsOf (condition : Term) (parameters : List StoredValue) :
    let addends := MappingPlan.summands (m.plan.placeOf c.column)
      (MappingPlan.holding (some condition) (parameters.map .ofStored) rows)
    (RunsWithin addends → (first (totalsOf (m.sums c condition [] parameters rows))).toInt = addends.sum)
      ∧ (¬RunsWithin addends → first (totalsOf (m.sums c condition [] parameters rows)) = 0) := by
  intro addends
  have single : groups condition [] parameters rows =
      [MappingPlan.holding (some condition) (parameters.map .ofStored) rows] := rfl
  refine ⟨fun within => ?_, fun beyond => ?_⟩
  · have every : ∀ group ∈ groups condition [] parameters rows,
        RunsWithin (MappingPlan.summands (m.plan.placeOf c.column) group) := by
      rw [single]
      exact List.forall_mem_singleton.mpr within
    have totals := totalsOf_within whole every
    rw [single, List.map_singleton, List.map_eq_singleton_iff] at totals
    obtain ⟨total, one, sum⟩ := totals
    rw [one, first, List.headD_cons, sum]
  · rw [totalsOf_beyond whole fun all => beyond (all _ (single ▸ List.mem_singleton_self _))]
    rfl

end

variable {field predicate : String}
variable (accepted : m.plan.Accepted) (named : m.plan.columnOf? field = some c)
include accepted named

theorem exists_sum {group : Option String} (wide : ∀ row ∈ rows, row.length = m.plan.columns.length)
    (accepts : m.plan.Accepts predicate group parameters.length condition keys) :
    ∃ statement, Sql.parse (tokens (Text.trim (m.plan.sum (m.columnOf field) predicate group)).toList) =
        .ok (some ⟨statement, parameters.length, []⟩)
      ∧ ∀ layout db, m.plan.In layout rows db → ∃ q : Engine.Query, db.prepare statement = .ok (some q.program)
        ∧ q.run (parameters.map .ofStored) db = m.sums c condition keys parameters rows := by
  have sound := accepted.toSound
  have member : c ∈ m.plan.columns := List.mem_of_find?_eq_some named
  have column : m.columnOf field = c.column := by rw [columnOf, named]
  obtain ⟨clause, unread, others, reads, ended, resolves⟩ := accepts.reads
  obtain ⟨place, call, name, parsed⟩ := MappingPlan.parse_sum_trim sound.toWritten
    (sound.columns c member) reads ended
  rw [column]
  refine ⟨_, parsed, fun layout db stored => ?_⟩
  obtain ⟨q, prepared, runs⟩ := MappingPlan.prepare_sum sound stored wide member resolves place call name
    m.plan.table
  exact ⟨q, prepared, runs _⟩

theorem yields_sum {group : Option String} {found : List Row}
    (wide : ∀ row ∈ rows, row.length = m.plan.columns.length)
    (accepts : m.plan.Accepts predicate group parameters.length condition keys)
    (sums : m.sums c condition keys parameters rows = .ok found) :
    Yields (m.Works s id alone start rows)
      (m.aggregate (m.plan.sum (m.columnOf field) predicate group) parameters)
      (totalsOf (.ok found)) (m.Works s id alone start rows) := by
  obtain ⟨statement, parsed, runs⟩ := exists_sum accepted named wide accepts
  rw [← aggregate_trim]
  refine yields_aggregate accepted (Text.trim_trim _) parsed fun layout db stored => ?_
  obtain ⟨q, prepared, answer⟩ := runs layout db stored
  rw [sums] at answer
  refine ⟨q.program, prepared, rfl, ?_⟩
  simp only [Engine.Query.program, answer]
  rfl

theorem refuses_sum {group : Option String} {fault : Fault}
    (wide : ∀ row ∈ rows, row.length = m.plan.columns.length)
    (accepts : m.plan.Accepts predicate group parameters.length condition keys)
    (sums : m.sums c condition keys parameters rows = .error fault) :
    Refuses (m.Works s id alone start rows)
      (m.aggregate (m.plan.sum (m.columnOf field) predicate group) parameters)
      (Refusal.toFailure ⟨fault.code, fault.text, false⟩) (m.Works s id alone start rows) := by
  obtain ⟨statement, parsed, runs⟩ := exists_sum accepted named wide accepts
  rw [← aggregate_trim]
  refine refuses_aggregate accepted (Text.trim_trim _) parsed fun layout db stored => ?_
  obtain ⟨q, prepared, answer⟩ := runs layout db stored
  exact ⟨q, prepared, answer.trans sums⟩

theorem yields_sumWhere (accepts : m.plan.Accepts predicate none parameters.length condition keys) :
    Yields (m.Works s id alone start rows) (m.sumWhere field predicate parameters)
      (first (totalsOf (m.sums c condition keys parameters rows))) (m.Works s id alone start rows) := by
  intro w works
  refine (?_ : Yields (m.Works s id alone start rows) _ _ (m.Works s id alone start rows)) w works
  cases sums : m.sums c condition keys parameters rows with
  | ok found => exact yields_read (.bind (yields_sum accepted named works.wide accepts sums) (.pure _))
  | error fault => exact yields_read_refused (refuses_sum accepted named works.wide accepts sums).bind

/-- The sums of a field by groups of the rows that a predicate holds for; none if the engine stops the
    query. -/
theorem yields_sumWhereGrouped {group : String}
    (accepts : m.plan.Accepts predicate (some group) parameters.length condition keys) :
    Yields (m.Works s id alone start rows) (m.sumWhereGrouped field predicate group parameters)
      (totalsOf (m.sums c condition keys parameters rows)) (m.Works s id alone start rows) := by
  intro w works
  refine (?_ : Yields (m.Works s id alone start rows) _ _ (m.Works s id alone start rows)) w works
  cases sums : m.sums c condition keys parameters rows with
  | ok found => exact yields_read (yields_sum accepted named works.wide accepts sums)
  | error fault => exact yields_read_refused (refuses_sum accepted named works.wide accepts sums)

end

end Mapper

end EntityStore
