import EntityStore.Engine.Term

/-! # Queries

* `Plan` — a query whose names are found; `Plan.run` answers it from the rows of its source.
* `resolveKeys` — what an order or a grouping refers to: results by place or name, else terms.
* `Query` — a plan with its source; `prepareQuery` makes it.

The rows of a source come in the order of their keys, groups in the order of theirs, and an order
keeps rows that are equal under it as they came.
-/

namespace EntityStore.Engine

open EntityStore.Sql (Datum Expr Select Output SortKey ObjectName sameName)

/-! ## Plans -/

/-- A query whose names are found. -/
structure Plan where
  outputs : List Term
  condition : Option Term
  /-- The keys of the groups; one group of all rows without keys. -/
  groups : Option (List Term)
  /-- The keys of the order, with their directions. -/
  orders : List (Term × Bool)
  limit : Option Term
  offset : Option Term

def compareKey (descending : Bool) (a b : Datum) : Ordering :=
  if descending then (a.compare b).swap else a.compare b

def compareKeys : List Bool → Row → Row → Ordering
  | descending :: directions, a :: as, b :: bs =>
    match compareKey descending a b with
    | .eq => compareKeys directions as bs
    | order => order
  | _, _, _ => .eq

def sortByKeys {α : Type} (directions : List Bool) (keyOf : α → Row) (items : List α) : List α :=
  let keyed := items.map fun a => (keyOf a, a)
  (keyed.mergeSort fun a b => compareKeys directions a.1 b.1 ≠ .gt).map (·.2)

def groupByKeys (keyOf : Row → Row) (rows : List Row) : List (List Row) :=
  let keyed := rows.map fun row => (keyOf row, row)
  let sorted := keyed.mergeSort fun a b => compareRows a.1 b.1 ≠ .gt
  (sorted.splitBy fun a b => compareRows a.1 b.1 = .eq).map fun group => group.map (·.2)

def countOf? (env : Env) (t : Option Term) : Except Fault (Option Int64) :=
  match t with
  | none => .ok none
  | some t =>
    match (t.eval env).asInteger? with
    | some n => .ok (some n)
    | none => .error .mismatch

/-- The items that an offset and a limit leave; a negative limit is none. -/
def slice {α : Type} (limit offset : Option Int64) (items : List α) : List α :=
  let rest := items.drop ((offset.getD 0).toInt.toNat)
  match limit with
  | none => rest
  | some n => if n < 0 then rest else rest.take n.toInt.toNat

namespace Plan

/-- What the results are made from: rows, or groups of rows with their first row. -/
def moments (p : Plan) (env : Env) (rows : List Row) : List Env :=
  let kept := rows.filter fun row => holdsAll (env.at row) p.condition
  let ofGroup (group : List Row) : Env :=
    { env with row := group.head?.getD [], group := group }
  match p.groups with
  | none => kept.map env.at
  | some [] => [ofGroup kept]
  | some keys => (groupByKeys (fun row => keys.map (·.eval (env.at row))) kept).map ofGroup

/-- The moments that come up before a limit ends the query; an order has to see all of them. -/
def reached (p : Plan) (limit offset : Option Int64) (moments : List Env) : List Env :=
  match limit with
  | none => moments
  | some n =>
    if n = 0 then []
    else if 0 < n ∧ p.orders.isEmpty then
      moments.take ((offset.getD 0).toInt.toNat + n.toInt.toNat)
    else moments

/-- The results from the rows of the source. -/
def run (p : Plan) (parameters : List Datum) (rows : List Row) : Except Fault (List Row) := do
  let env : Env := { parameters := parameters }
  let limit ← countOf? env p.limit
  let offset ← countOf? env p.offset
  let moments := p.moments env rows
  let terms := p.outputs ++ p.orders.map (·.1)
  -- A sum beyond 64 bits ends the query, even in a row that the offset leaves out.
  if (p.reached limit offset moments).any fun moment => terms.any (·.overflows moment) then
    throw (.statement "integer overflow")
  let sorted := sortByKeys (p.orders.map (·.2))
    (fun moment => p.orders.map fun key => key.1.eval moment) moments
  return (slice limit offset sorted).map fun moment => p.outputs.map (·.eval moment)

end Plan

/-! ## Sources -/

/-- A query that is ready to be answered. -/
structure Query where
  /-- The names and affinities of its results. -/
  columns : List Column
  plan : Plan
  rows : Database → Except Fault (List Row)

def Query.run (q : Query) (parameters : List Datum) (db : Database) : Except Fault (List Row) := do
  q.plan.run parameters (← q.rows db)

def Database.tableOf? (db : Database) (name : ObjectName) : Option Table :=
  if name.isMain then db.table? name.name else none

def Database.viewOf? (db : Database) (name : ObjectName) : Option View :=
  if name.isMain then db.view? name.name else none

/-- The columns of a view: those of its query, under names of its own if it has them. -/
def View.source (v : View) (q : Query) : Source :=
  { name := v.name
    columns :=
      if v.columns.isEmpty then q.columns
      else (q.columns.zip v.columns).map fun (column, name) => { column with name := name } }

def Source.under (s : Source) (label : Option String) : Source :=
  { s with name := label.getD s.name }

def View.ownQuery (v : View) : Select :=
  { v.query with source := v.query.source.map fun o => { o with database := o.database <|> "main" } }

def openSource (viewQuery : Select → Except Fault Query) (db : Database) (name : ObjectName) :
    Except Fault (Source × (Database → Except Fault (List Row))) :=
  match db.tableOf? name, db.viewOf? name with
  | some t, _ => .ok (t.source, fun db => .ok (((db.table? t.name).map (·.rows)).getD []))
  | none, some v => do
    let q ← (viewQuery v.ownQuery).mapError Fault.elsewhere
    return (v.source q, q.run [])
  | none, none => .error (.noTable name.shown)

/-! ## Preparing queries -/

/-- A result: its term with its name, and whether the query gives the name. -/
structure ResultColumn where
  term : Term
  name : String
  named : Bool := false

def Source.results (s : Source) : List ResultColumn :=
  s.columns.zipIdx.filterMap fun (column, i) =>
    if column.hidden then none else some { term := .column i column.affinity, name := column.name }

def resolveOutput (scope : Scope) : Output → Except Fault (List ResultColumn)
  | .all =>
    match scope.sources with
    | [] => .error (.statement "no tables specified")
    | s :: _ => .ok s.results
  | .value expr label => do
    let term ← scope.resolve expr
    let name :=
      match label, expr with
      | some name, _ => name
      | none, .column _ _ name _ | none, .quotedColumn _ name => name
      | none, _ => ""
    return [{ term := term, name := name, named := label.isSome }]

def ordinal (n : Nat) : String :=
  let ending :=
    if 10 ≤ n % 100 ∧ n % 100 < 20 then "th"
    else
      match n % 10 with
      | 1 => "st"
      | 2 => "nd"
      | 3 => "rd"
      | _ => "th"
  toString n ++ ending

/-- The integer below 2 ^ 31, perhaps after signs, that an expression is written as, and how many
    signs there are. -/
def writtenInteger? : Expr → Option (Int × Nat)
  | .literal (.integer n) => if 0 ≤ n ∧ Number.Fits 32 n.toInt then some (n.toInt, 0) else none
  | .unary .minus e => (writtenInteger? e).map fun (n, signs) => (-n, signs + 1)
  | .unary .plus e => (writtenInteger? e).map fun (n, signs) => (n, signs + 1)
  | _ => none

def namedResult? (results : List ResultColumn) : Expr → Option Term
  | .column _ none name _ | .quotedColumn _ name =>
    (results.find? fun r => r.named && sameName r.name name).map (·.term)
  | _ => none

inductive KeyTarget where
  /-- The result at a place, counted from one. -/
  | place (n : Nat)
  | term (t : Term)

/-- The text for a key that is no place of a result. -/
def outOfRange (clause : String) (index count : Nat) : String :=
  ordinal (index + 1) ++ " " ++ clause ++ " BY term out of range - should be between 1 and "
    ++ toString count

def resolveKey (clause : String) (scope : Scope) (results : List ResultColumn)
    (key : SortKey × Nat) : Except Fault KeyTarget :=
  let named := if clause = "ORDER" then namedResult? results key.1.expr else none
  match named, writtenInteger? key.1.expr with
  | some term, _ => .ok (.term term)
  | none, some (n, signs) =>
    if 1 ≤ n ∧ n < 65536 then .ok (.place n.toNat)
    else .error (.located (key.1.place - signs) (outOfRange clause key.2 results.length))
  | none, none => (scope.resolve key.1.expr).map .term

def KeyTarget.resolve (clause : String) (results : List ResultColumn) :
    KeyTarget × Nat → Except Fault Term
  | (.term t, _) => .ok t
  | (.place n, index) =>
    match results[n - 1]? with
    | some r => .ok r.term
    | none => .error (.statement (outOfRange clause index results.length))

/-- Finds the names of all keys, and then the results that keys are places of. -/
def resolveKeys (clause : String) (scope : Scope) (results : List ResultColumn)
    (keys : List SortKey) : Except Fault (List Term) := do
  -- Two passes: all names are found before any place is checked against the results.
  let targets ← keys.zipIdx.mapM (resolveKey clause scope results)
  targets.zipIdx.mapM (KeyTarget.resolve clause results)

def checkGroups (groups : List Term) : Except Fault Unit :=
  if groups.any (·.isAggregate) then
    .error (.statement "aggregate functions are not allowed in the GROUP BY clause")
  else .ok ()

def preparePlan (sources : List Source) (q : Select) : Except Fault (List ResultColumn × Plan) := do
  let limit ← ({} : Scope).resolve? q.limit
  let offset ← ({} : Scope).resolve? q.offset
  let outer : Scope := { sources := sources, aggregates := true }
  -- Results see the columns of the source only; the other parts see the results by name as well.
  let results := (← q.outputs.mapM (resolveOutput outer)).flatten
  let grouped := !q.groups.isEmpty || results.any (·.term.isAggregate)
  let names := (results.filter (·.named)).map fun r => (r.name, r.term)
  let inner : Scope := { sources := sources, results := names }
  let condition ← { inner with aggregates := grouped }.resolve? q.condition
  let orders ← resolveKeys "ORDER" { inner with aggregates := grouped } results q.orders
  let groups ← resolveKeys "GROUP" { inner with aggregates := true } results q.groups
  checkGroups groups
  -- The condition picks rows before there are groups, so it may not ask for anything of a group.
  -- This is found out last, after the names of all parts.
  let _ ← { inner with misuse := "misuse of aggregate: " }.resolve? q.condition
  return (results, {
    outputs := results.map (·.term), condition := condition
    groups := if grouped then some groups else none
    orders := orders.zip (q.orders.map (·.descending)), limit := limit, offset := offset })

def resultColumns (results : List ResultColumn) : List Column :=
  results.map fun r => { name := r.name, affinity := r.term.affinity?.getD .none }

/-- Finds the names of a query, through at most so many views. -/
def prepareQuery : Nat → Database → Select → Except Fault Query
  | 0, db, q =>
    let name := db.givenName ((q.source.map (·.name)).getD "")
    .error (.statement ("view " ++ name ++ " is circularly defined"))
  | depth + 1, db, q => do
    match q.source with
    | none =>
      let (results, plan) ← preparePlan [] q
      return { columns := resultColumns results, plan := plan, rows := fun _ => .ok [[]] }
    | some name =>
      let (source, rows) ← openSource (prepareQuery depth db) db name
      let (results, plan) ← preparePlan [source.under q.label] q
      return { columns := resultColumns results, plan := plan, rows := rows }

def Database.query (db : Database) (q : Select) : Except Fault Query :=
  prepareQuery (db.views.length + 1) db q

end EntityStore.Engine
