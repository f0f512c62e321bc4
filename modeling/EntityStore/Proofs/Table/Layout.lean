import EntityStore.Proofs.Table.Change
import EntityStore.Proofs.Transaction.Definition

/-! # Terms and the order of columns

The table of a plan may have its columns in another order than the plan.  An expression then refers to
other places, where it finds the same values:

* `Term.moved` — a term that refers to other places.
* `Term.eval_moved` — it has the same value where these have the same values.
* `Scope.Moves`, `Scope.resolve_moved` — what an expression stands for among columns in another order.
* `MappingPlan.placeIn`, `MappingPlan.moves_onto` — the places of the columns of a plan in a table.
-/

namespace EntityStore

open EntityStore.Engine (Fault Row Source Scope Term Env)
open EntityStore.Sql (Datum Affinity Expr UnaryOp sameName)

namespace Engine

/-! ## Terms -/

namespace Term

def moved (f : Nat → Nat) : Term → Term
  | literal value => literal value
  | parameter number => parameter number
  | column place affinity => column (f place) affinity
  | unary op a => unary op (a.moved f)
  | binary op affinity a b => binary op affinity (a.moved f) (b.moved f)
  | isNull a => isNull (a.moved f)
  | cast a type => cast (a.moved f) type
  | typeOf a => typeOf (a.moved f)
  | countRows => countRows
  | count a => count (a.moved f)
  | sum a => sum (a.moved f)

variable {f : Nat → Nat}

@[simp] theorem affinity?_moved (t : Term) : (t.moved f).affinity? = t.affinity? := by
  cases t <;> rfl

@[simp] theorem isAggregate_moved (t : Term) : (t.moved f).isAggregate = t.isAggregate := by
  induction t with
  | unary _ a ih | isNull a ih | cast a _ ih | typeOf a ih => exact ih
  | binary _ _ a b first second => simp only [moved, isAggregate, first, second]
  | _ => rfl

theorem memberOf_moved (a : Term) (items : List Term) :
    (a.memberOf items).moved f = (a.moved f).memberOf (items.map (moved f)) := by
  induction items with
  | nil => rfl
  | cons item rest ih =>
    cases rest with
    | nil => simp [memberOf, moved]
    | cons next rest =>
      rw [List.map_cons, List.map_cons] at *
      simp only [memberOf, moved, affinity?_moved, ih]

theorem binaryOf_moved (op : Sql.BinaryOp) (a b : Term) :
    (binaryOf op a b).moved f = binaryOf op (a.moved f) (b.moved f) := by
  simp only [binaryOf, moved, affinity?_moved]

theorem callTerm_moved (name : String) (operands : List Term) :
    (Scope.callTerm name operands).moved f = Scope.callTerm name (operands.map (moved f)) := by
  rcases operands with _ | ⟨a, _ | ⟨b, rest⟩⟩
  · simp [Scope.callTerm, moved]
  · unfold Scope.callTerm
    split <;> simp_all [moved]
  · simp [Scope.callTerm, moved]

/-- A term has the same value where the places that it refers to have the same values, if there is no
    group. -/
theorem eval_moved {env other : Env} (parameters : other.parameters = env.parameters)
    (same : ∀ i, other.row.getD (f i) .null = env.row.getD i .null) (alone : env.group = [])
    (other_alone : other.group = []) (t : Term) : (t.moved f).eval other = t.eval env := by
  induction t with
  | literal _ => rfl
  | parameter _ => simp only [moved, eval, parameters]
  | column place _ => exact same place
  | unary _ a ih | isNull a ih | cast a _ ih | typeOf a ih => simp only [moved, eval, ih]
  | binary _ _ a b first second => simp only [moved, eval, first, second]
  | countRows | count _ | sum _ => simp only [moved, eval, alone, other_alone, List.filter_nil, List.map_nil]

end Term

/-! ## Names -/

/-- Two scopes whose columns have the same names at other places; the second allows no less. -/
structure Scope.Moves (f : Nat → Nat) (s other : Scope) : Prop where
  columns : ∀ table name, findColumn? table name other.sources 0 =
    (findColumn? table name s.sources 0).map fun found => (f found.1, found.2)
  unnamed : s.results = []
  other_unnamed : other.results = []
  aggregates : s.aggregates = true → other.aggregates = true

namespace Scope

variable {f : Nat → Nat} {s other : Scope}

theorem Moves.within (moves : s.Moves f other) (allowed : Bool) :
    ({ s with aggregates := s.aggregates && allowed } : Scope).Moves f
      { other with aggregates := other.aggregates && allowed } where
  columns := moves.columns
  unnamed := moves.unnamed
  other_unnamed := moves.other_unnamed
  aggregates before := by
    rw [Bool.and_eq_true] at before ⊢
    exact ⟨moves.aggregates before.1, before.2⟩

theorem Moves.column (moves : s.Moves f other) {place : Nat} {table : Option String} {name : String}
    {doubleQuoted : Bool} {t : Term} (found : s.column place table name doubleQuoted = .ok t) :
    other.column place table name doubleQuoted = .ok (t.moved f) := by
  unfold Scope.column at found ⊢
  rw [moves.columns]
  cases column : findColumn? table name s.sources 0 with
  | some pair =>
    rw [column] at found
    cases found
    rfl
  | none =>
    rw [column] at found
    cases table with
    | some table => cases found
    | none =>
      -- Without a column the name is a text or a truth value in both.
      simp only [otherName, result?, moves.unnamed, List.find?_nil, Option.map_none] at found
      simp only [Option.map_none, otherName, result?, moves.other_unnamed, List.find?_nil]
      split at found
      · next quoted =>
        cases found
        rw [if_pos quoted]
        rfl
      · next plain =>
        rw [if_neg plain]
        split at found
        · cases found
          rfl
        · cases found

theorem Moves.quotedColumn (moves : s.Moves f other) {place : Nat} {name : String} {t : Term}
    (found : s.quotedColumn place name = .ok t) : other.quotedColumn place name = .ok (t.moved f) := by
  unfold Scope.quotedColumn at found ⊢
  rw [moves.columns]
  cases column : findColumn? none name s.sources 0 with
  | some pair =>
    rw [column] at found
    cases found
    rfl
  | none =>
    simp only [column, result?, moves.unnamed, List.find?_nil, Option.map_none] at found
    cases found

theorem Moves.isTruthWord (moves : s.Moves f other) (e : Expr) : other.isTruthWord e = s.isTruthWord e := by
  unfold Scope.isTruthWord
  split
  · simp only [moves.columns, result?, moves.unnamed, moves.other_unnamed, Option.isNone_map]
  · rfl

theorem Moves.checkCall (moves : s.Moves f other) {place count : Nat} {function name : String}
    (allowed : s.checkCall place function count = .ok name) :
    other.checkCall place function count = .ok name := by
  simp only [Scope.checkCall] at allowed ⊢
  cases known : functions.lookup (Sql.foldWord function) with
  | none => rw [known] at allowed; cases allowed
  | some counts =>
    rw [known] at allowed
    dsimp only at allowed ⊢
    split at allowed
    · cases allowed
    · next enough =>
      split at allowed
      · cases allowed
      · next free =>
        cases allowed
        rw [if_neg enough, if_neg]
        rintro ⟨group, forbidden⟩
        refine free ⟨group, ?_⟩
        rw [Bool.not_eq_true'] at forbidden ⊢
        exact Bool.eq_false_iff.mpr fun before => Bool.eq_false_iff.mp forbidden (moves.aggregates before)

theorem resolve_unary (op : UnaryOp) (t : Term) :
    (match op, t.moved f with
      | .minus, .literal (.real x) => pure (.literal (.real x.neg))
      | op, a => pure (.unary op a) : Except Fault Term) =
    (match op, t with
      | .minus, .literal (.real x) => pure (.literal (.real x.neg))
      | op, a => pure (.unary op a) : Except Fault Term).map (Term.moved f) := by
  cases op
  case minus =>
    cases t
    case literal value => cases value <;> rfl
    all_goals rfl
  all_goals rfl

mutual

/-- An expression stands for the same among columns at other places. -/
theorem resolve_moved : (e : Expr) → {s other : Scope} → {t : Term} → s.Moves f other →
    s.resolve e = .ok t → other.resolve e = .ok (t.moved f)
  | .literal value, _, _, _, moves, found => by cases found; rfl
  | .parameter number, _, _, _, moves, found => by cases found; rfl
  | .column place table name doubleQuoted, _, _, _, moves, found => moves.column found
  | .quotedColumn place name, _, _, _, moves, found => moves.quotedColumn found
  | .unary op operand, _, _, _, moves, found => by
    rw [resolve] at found ⊢
    obtain ⟨a, first, found⟩ := bind_eq_ok found
    rw [resolve_moved operand moves first]
    exact (resolve_unary op a).trans (congrArg (Except.map (Term.moved f)) found)
  | .binary op left right, _, _, _, moves, found => by
    rw [resolve] at found ⊢
    split at found
    · next second =>
      obtain ⟨b, last, found⟩ := bind_eq_ok found
      obtain ⟨a, first, found⟩ := bind_eq_ok found
      cases found
      rw [if_pos second, resolve_moved left moves first, resolve_moved right moves last]
      change Except.ok _ = Except.ok _
      rw [moves.isTruthWord, apply_ite (Term.moved f), Term.binaryOf_moved]
      rfl
    · next second =>
      obtain ⟨a, first, found⟩ := bind_eq_ok found
      obtain ⟨b, last, found⟩ := bind_eq_ok found
      cases found
      rw [if_neg second, resolve_moved left moves first, resolve_moved right moves last, Term.binaryOf_moved]
      rfl
  | .isNull operand, _, _, _, moves, found => by
    rw [resolve] at found ⊢
    obtain ⟨a, first, found⟩ := bind_eq_ok found
    cases found
    rw [resolve_moved operand moves first]
    rfl
  | .inList operand items, _, _, _, moves, found => by
    rw [resolve] at found ⊢
    obtain ⟨a, first, found⟩ := bind_eq_ok found
    obtain ⟨as, second, found⟩ := bind_eq_ok found
    cases found
    rw [resolve_moved operand moves first, resolveAll_moved items moves second, Term.memberOf_moved]
    rfl
  | .cast operand type, _, _, _, moves, found => by
    rw [resolve] at found ⊢
    obtain ⟨a, first, found⟩ := bind_eq_ok found
    cases found
    rw [resolve_moved operand moves first]
    rfl
  | .call place function arguments, _, _, _, moves, found => by
    rw [resolve] at found ⊢
    obtain ⟨name, allowed, found⟩ := bind_eq_ok found
    obtain ⟨as, second, found⟩ := bind_eq_ok found
    cases found
    have inner := resolveAll_moved arguments (moves.within (name = "typeof")) second
    rw [moves.checkCall allowed, Term.callTerm_moved]
    change (resolveAll _ arguments >>= _) = _
    rw [inner]
    rfl
  | .callStar place function, _, _, _, moves, found => by
    rw [resolve] at found ⊢
    obtain ⟨name, allowed, found⟩ := bind_eq_ok found
    cases found
    rw [moves.checkCall allowed, Term.callTerm_moved]
    rfl
  | .raise action message, _, _, _, moves, found => by cases found

theorem resolveAll_moved : (es : List Expr) → {s other : Scope} → {ts : List Term} → s.Moves f other →
    s.resolveAll es = .ok ts → other.resolveAll es = .ok (ts.map (Term.moved f))
  | [], _, _, _, moves, found => by cases found; rfl
  | e :: rest, _, _, _, moves, found => by
    rw [resolveAll] at found ⊢
    obtain ⟨a, first, found⟩ := bind_eq_ok found
    obtain ⟨as, second, found⟩ := bind_eq_ok found
    cases found
    rw [resolve_moved e moves first, resolveAll_moved rest moves second]
    rfl

end

end Scope

end Engine

/-! ## Columns of plans -/

namespace MappingPlan

variable {p : MappingPlan} {layout : List ColumnPlan} {rows : List Row}

/-- The place that a column of the plan has in a table with the columns in another order. -/
def placeIn (p : MappingPlan) (layout : List ColumnPlan) (i : Nat) : Nat :=
  match p.columns[i]? with
  | some c => (p.onto layout).placeOf c.column
  | none => i

theorem columnPlace?_plain (columns : List Engine.Column) (name : String) :
    Engine.columnPlace? columns none name = columns.findIdx? fun c => !c.hidden && sameName c.name name := by
  rw [Engine.columnPlace?, ite_self]
  cases columns.findIdx? fun c => !c.hidden && sameName c.name name <;> rfl

theorem columnPlace?_named (apart : p.columns.Pairwise fun c d => sameName c.column d.column = false)
    {i : Nat} {c : ColumnPlan} (here : p.columns[i]? = some c) {name : String}
    (same : sameName c.column name = true) :
    Engine.columnPlace? (p.shape rows).columns none name = some i := by
  have spelled : (fun d : Engine.Column => !d.hidden && sameName d.name name) =
      fun d => !d.hidden && sameName d.name c.column := by
    funext d
    rw [sameName_comm d.name name, sameName_comm d.name c.column, sameName_trans same]
  have found : Engine.columnPlace? (p.shape rows).columns none c.column = some i :=
    columnPlace?_shape apart here
  rwa [columnPlace?_plain, ← spelled, ← columnPlace?_plain] at found

theorem columnPlace?_unnamed {name : String} (free : ∀ c ∈ p.columns, sameName c.column name = false) :
    Engine.columnPlace? (p.shape rows).columns none name = none := by
  rw [columnPlace?_plain, List.findIdx?_eq_none_iff]
  intro d listed
  obtain ⟨⟨c, i⟩, member, rfl⟩ := List.mem_map.mp listed
  simp [free c (List.fst_mem_of_mem_zipIdx member)]

theorem findColumn?_shape (p : MappingPlan) (rows : List Row) (table : Option String) (name : String) :
    Engine.findColumn? table name [(p.shape rows).source] 0 =
      if table.all (sameName p.table) then
        (Engine.columnPlace? (p.shape rows).columns none name).map fun i =>
          (i, ((p.shape rows).columns[i]?.map (·.affinity)).getD .none)
      else none := by
  have source : (p.shape rows).source = ⟨p.table, (p.shape rows).columns, none⟩ := rfl
  rw [source]
  simp only [Engine.findColumn?, Nat.zero_add]
  cases table.all (sameName p.table) with
  | false => rfl
  | true => cases Engine.columnPlace? (p.shape rows).columns none name <;> rfl

namespace Sound

variable (sound : p.Sound) (perm : layout.Perm p.columns)
include sound perm

theorem getD_placeIn {row : Row} (wide : row.length = p.columns.length) (i : Nat) :
    (p.picked layout row).getD (p.placeIn layout i) .null = row.getD i .null := by
  unfold placeIn
  split
  · next c here =>
    have listed := perm.mem_iff.mpr (List.mem_of_getElem? here)
    rw [getD_picked (sound.layout_apart perm) listed, placeOf_column sound.apart here]
  · next outside =>
    have bound := List.getElem?_eq_none_iff.mp outside
    have picked : (p.picked layout row).length ≤ i := by rwa [length_picked, perm.length_eq]
    rw [List.getD_eq_getElem?_getD, List.getD_eq_getElem?_getD, List.getElem?_eq_none picked,
      List.getElem?_eq_none (wide ▸ bound)]

/-- An expression refers to the same columns of the plan in every order. -/
theorem moves_onto {s other : Scope} {others : List Row} (sources : s.sources = [(p.shape rows).source])
    (others_sources : other.sources = [((p.onto layout).shape others).source]) (unnamed : s.results = [])
    (other_unnamed : other.results = []) (aggregates : s.aggregates = true → other.aggregates = true) :
    s.Moves (p.placeIn layout) other := by
  refine ⟨fun table name => ?_, unnamed, other_unnamed, aggregates⟩
  rw [sources, others_sources, findColumn?_shape, findColumn?_shape, onto_table]
  cases table.all (sameName p.table) with
  | false => rfl
  | true =>
    rw [if_pos rfl, if_pos rfl]
    -- A column has one place in each layout; a name without a column has none in either.
    by_cases named : ∃ c ∈ p.columns, sameName c.column name = true
    · obtain ⟨c, member, same⟩ := named
      obtain ⟨i, here⟩ := List.getElem?_of_mem member
      obtain ⟨j, there⟩ := List.getElem?_of_mem (perm.mem_iff.mpr member)
      have apart := sound.layout_apart perm
      have moved : p.placeIn layout i = j := by
        rw [placeIn, here]
        exact placeOf_column (p := p.onto layout) apart there
      rw [columnPlace?_named sound.apart here same, columnPlace?_named (p := p.onto layout) apart there same]
      simp [shape_column, here, there, moved]
    · have free : ∀ c ∈ p.columns, sameName c.column name = false := fun c member =>
        Bool.eq_false_iff.mpr fun same => named ⟨c, member, same⟩
      rw [columnPlace?_unnamed free, columnPlace?_unnamed (p := p.onto layout)
        fun c member => free c (perm.mem_iff.mp member)]
      rfl

end Sound

end MappingPlan

end EntityStore
