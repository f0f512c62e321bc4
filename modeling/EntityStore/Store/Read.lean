import EntityStore.Store.Mapper

/-! # Reads

Rows by their keys, rows in an order, and aggregates.  A read that fails is reported and gives
nothing.

* `Mapper.get`, `Mapper.gets`, `Mapper.getsListed` — rows by keys.
* `Mapper.select` and its variants — rows in an order, perhaps part of those that meet a predicate.
* `Mapper.count`, `Mapper.sumWhere` and their variants — aggregates, of all rows or by groups.
-/

namespace EntityStore

/-- How many keys a statement asks for at most. -/
def maxKeysPerQuery : Nat := 999

/-- A list in pieces of at most the given size, which is not zero. -/
def chunks {α : Type} (size : Nat) (items : List α) : List (List α) :=
  match items with
  | [] => []
  | a :: rest => (a :: rest.take (size - 1)) :: chunks size (rest.drop (size - 1))
termination_by items.length
decreasing_by
  simp only [List.length_drop, List.length_cons]
  omega

/-- A text in bytes that is an integer, blanks around it allowed; zero if it is none. -/
def integerOfText (bytes : ByteArray) : Int64 :=
  match String.fromUTF8? bytes with
  | none => 0
  | some s => (Number.readInt64? (Text.trimChars s.toList)).getD 0

def aggregateOf : Sql.Datum → Int64
  | .integer n => n
  | .real x => x.truncate
  | .text b => integerOfText b
  | .null | .blob _ => 0

/-- One value for each column of a row of an answer; the answer may have more columns, but not
    fewer. -/
def readRow (width : Nat) (row : List StoredValue) : Except Failure (List StoredValue) :=
  if row.length < width then
    .error
      { kind := .persistence, op := some "sqlite"
        message := "Invalid column index: " ++ toString row.length }
  else .ok (row.take width)

namespace Mapper

open Session (report prepareCached runWith readOr attempt)

variable (m : Mapper)

/-! ## Statements -/

def load (text : String) (parameters : List StoredValue) : Session (List Record) := do
  -- The rows are decoded after the connection has been left.
  let answer ← m.withTable fun id => do
    m.countQuery
    Session.rows id (← prepareCached id text) parameters
  let raw ← answer.mapM fun row => Session.ofExcept (readRow m.plan.columns.length row)
  let rows ← raw.mapM fun values => Session.ofExcept (m.entity.decodeRow values)
  let loaded := Event.remark .debug "loaded" [("rows", toString rows.length)]
  report { loaded with table := some m.table }
  return rows

def aggregate (text : String) (parameters : List StoredValue) : Session (List Int64) :=
  m.withTable fun id => do
    m.countQuery
    let outcome ← runWith id (← prepareCached id text) (parameters.map .ofStored)
    return outcome.rows.map fun row => aggregateOf (row.headD .null)

/-- Runs a read; without success it gives the standard result. -/
def read {α : Type} (op : String) (standard : α) (block : Session α) : Session α := do
  match ← attempt m.contextId with
  | .ok id => readOr id op standard (Session.annotate (m.note op) block)
  | .error failure =>
    report { level := .error, op := some op, table := some m.table
             details := [("err.code", failure.kind.code), ("message", failure.text)] }
    return standard

/-! ## Rows by keys -/

def get (key : Int64) : Session (Option Record) :=
  m.read "get" none do
    return (← m.load m.plan.get [.integer key]).head?

/-- The rows of keys, each key once; no keys, no statement. -/
def gets (keys : List Int64) : Session (List Record) := do
  match distinct keys with
  | [] => return []
  | keys =>
    m.read "gets" [] do
      let found ← (chunks maxKeysPerQuery keys).mapM fun chunk =>
        m.load (m.plan.gets chunk.length) (chunk.map .integer)
      return found.flatten

/-- The key that an item of a list stands for; an item that is no key is reported. -/
def readItem (item : String) : Session (Option Int64) := do
  match m.entity.keyType.readToken? item with
  | some key => return some key
  | none =>
    let skipped := Event.remark .warn "skipping invalid key" [("token", item)]
    report { skipped with table := some m.table }
    return none

def readKeys (text : String) : Session (List Int64) := do
  let items := ((Text.splitAt ',' text).map Text.trim).filter fun item => !item.isEmpty
  return (← items.mapM m.readItem).filterMap id

def getsListed (text : String) : Session (List Record) := do m.gets (← m.readKeys text)

/-! ## Rows in an order -/

/-- All rows, in the order of their keys. -/
def select : Session (List Record) := m.read "select" [] (m.load m.plan.select [])

def selectOrdered (order : String) : Session (List Record) :=
  m.read "select" [] (m.load (m.plan.selectOrdered order) [])

def selectLimit (order : String) (limit offset : Int64) : Session (List Record) :=
  m.read "select_limit" []
    (m.load (m.plan.selectLimit order) [.integer limit, .integer offset])

/-- The rows that a predicate holds for, the greatest key first. -/
def selectWhere (predicate : String) (parameters : List StoredValue) : Session (List Record) :=
  m.read "select_where" [] (m.load (m.plan.selectWhere predicate) parameters)

def selectWhereOrdered (predicate order : String) (parameters : List StoredValue) :
    Session (List Record) :=
  m.read "select_where" [] (m.load (m.plan.selectWhereOrdered predicate order) parameters)

def selectWhereLimit (predicate order : String) (parameters : List StoredValue)
    (limit offset : Int64) : Session (List Record) :=
  m.read "select_where_limit" []
    (m.load (m.plan.selectWhereLimit predicate order)
      (parameters ++ [.integer limit, .integer offset]))

/-! ## Aggregates -/

def first (values : List Int64) : Int64 := values.headD 0

def count : Session Int64 :=
  m.read "count" 0 do return first (← m.aggregate (m.plan.count none none) [])

def countGrouped (group : String) : Session (List Int64) :=
  m.read "count" [] (m.aggregate (m.plan.count none (some group)) [])

def countWhere (predicate : String) (parameters : List StoredValue) : Session Int64 :=
  m.read "count_where" 0 do
    return first (← m.aggregate (m.plan.count (some predicate) none) parameters)

def countWhereGrouped (predicate group : String) (parameters : List StoredValue) :
    Session (List Int64) :=
  m.read "count_where" [] (m.aggregate (m.plan.count (some predicate) (some group)) parameters)

/-- The column of a field; any other text stands for itself. -/
def columnOf (field : String) : String :=
  match m.plan.columnOf? field with
  | some column => column.column
  | none => field

/-- The sum of a field over the rows that a predicate holds for. -/
def sumWhere (field predicate : String) (parameters : List StoredValue) : Session Int64 :=
  m.read "sum_where" 0 do
    return first (← m.aggregate (m.plan.sum (m.columnOf field) predicate none) parameters)

def sumWhereGrouped (field predicate group : String) (parameters : List StoredValue) :
    Session (List Int64) :=
  m.read "sum_where" []
    (m.aggregate (m.plan.sum (m.columnOf field) predicate (some group)) parameters)

end Mapper

end EntityStore
