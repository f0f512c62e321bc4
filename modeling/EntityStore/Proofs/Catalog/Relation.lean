import Mathlib.Data.List.Nodup
import EntityStore.Proofs.Catalog.Row
import EntityStore.Store.Read

/-! # What relations attach

A relation attaches to each row the records that its link names, whichever strategy finds them:

* `Relation.named` — the records that the link of a row names.
* `Relation.given` — a row with the records of a relation.
* `Relation.attach_eq`, `Relation.attachFound_eq` — what the strategies attach.
-/

namespace EntityStore

/-! ## Lists -/

section
variable {α : Type} [DecidableEq α]

@[simp] theorem mem_distinct {a : α} {items : List α} : a ∈ distinct items ↔ a ∈ items := by
  induction items with
  | nil => simp [distinct]
  | cons b rest ih =>
    by_cases same : a = b
    · simp [distinct, same]
    · simp [distinct, same, ih]

theorem nodup_distinct (items : List α) : (distinct items).Nodup := by
  induction items with
  | nil => simp [distinct]
  | cons b rest ih =>
    rw [distinct, List.nodup_cons]
    exact ⟨by simp, ih.filter _⟩

end

@[simp] theorem flatten_chunks {α : Type} (size : Nat) (items : List α) :
    (chunks size items).flatten = items := by
  induction items using chunks.induct size with
  | case1 => simp [chunks]
  | case2 a rest ih =>
    rw [chunks, List.flatten_cons, ih, List.cons_append, List.take_append_drop]

theorem flatMap_of_nodup {α β : Type} [DecidableEq α] {pieces : List (List α)} {a : α} (found : List β)
    (once : pieces.flatten.Nodup) :
    (pieces.flatMap fun piece => if a ∈ piece then found else []) =
      if a ∈ pieces.flatten then found else [] := by
  induction pieces with
  | nil => simp
  | cons piece rest ih =>
    rw [List.flatten_cons, List.nodup_append] at once
    obtain ⟨_, later, apart⟩ := once
    rw [List.flatMap_cons, ih later]
    by_cases here : a ∈ piece
    · have absent : a ∉ rest.flatten := fun there => apart a here a there rfl
      simp [here, absent]
    · simp [here]

/-- Records with keys of their own are all the first of their keys. -/
theorem distinctBy_of_nodup {keyOf : Record → Int64} {found : List Record}
    (apart : (found.map keyOf).Nodup) : distinctBy keyOf found = found := by
  induction found with
  | nil => rfl
  | cons first rest ih =>
    rw [List.map_cons, List.nodup_cons] at apart
    rw [distinctBy, ih apart.2, List.filter_eq_self.mpr]
    intro t member
    simp only [ne_eq, decide_not, Bool.not_eq_eq_eq_not, Bool.not_true, decide_eq_false_iff_not]
    intro same
    exact apart.1 (List.mem_map.mpr ⟨t, member, same⟩)

namespace Relation

variable {rel : Relation}

/-! ## What is attached -/

/-- The records that the link of a row names: those of its key, or those that its text lists. -/
def named (rel : Relation) (byKey : Int64 → List Record) (byText : String → List Record)
    (row : Record) : List Record :=
  match rel.linkKey? row, rel.linkText? row with
  | some key, _ => byKey key
  | none, some text => byText text
  | none, none => []

/-- A row with the records of a relation.  A single relation is the first of them, and is left as it
    is where there is none; a collection is all of them. -/
def given (rel : Relation) (row : Record) (found : List Record) : Record :=
  match rel.plan.cardinality with
  | .single =>
    match found with
    | [] => row
    | first :: _ => rel.setter.store row [first]
  | _ => rel.setter.store row found

def taken (rel : Relation) (found : List Record) : List Record :=
  if rel.plan.cardinality = .single then found.head?.toList else found

/-- What the accessors of a relation leave alone. -/
theorem keeps_given {α : Type} {f : Record → α}
    (kept : ∀ row found, f (rel.setter.store row found) = f row) (row : Record) (found : List Record) :
    f (rel.given row found) = f row := by
  unfold given
  split
  · cases found with
    | nil => rfl
    | cons first _ => exact kept row [first]
  · exact kept row found

/-- The same of relations one after the other. -/
theorem keeps_foldl {α : Type} {f : Record → α} {relations : List Relation}
    (kept : ∀ rel ∈ relations, ∀ row found, f (rel.setter.store row found) = f row)
    (found : Record → Relation → List Record) (row : Record) :
    f (relations.foldl (fun row rel => rel.given row (found row rel)) row) = f row := by
  induction relations generalizing row with
  | nil => rfl
  | cons rel rest ih =>
    rw [List.foldl_cons, ih fun rel member => kept rel (List.mem_cons_of_mem _ member)]
    exact keeps_given (kept rel (List.mem_cons_self ..)) _ _

theorem Fits.cases (fits : rel.Fits) :
    (rel.plan.strategy = .commaJoined ∧ ∀ row, rel.linkKey? row = none)
      ∨ ((rel.plan.strategy = .batchedSingle ↔ rel.plan.cardinality = .single)
        ∧ rel.plan.strategy ≠ .commaJoined ∧ ∀ row, ∃ key, rel.linkKey? row = some key) := by
  have semantic (row : Record) : (rel.link.field row).semantic = rel.link.type.semantic :=
    ColumnGetter.semantic_field rel.link row
  have strategy := fits.strategy
  have link := fits.link
  simp only [linkKey?]
  generalize rel.link.type.semantic = type at *
  -- The type of the link decides: text lists keys, an integer is one, and others are no links.
  cases type with
  | text =>
    refine .inl ⟨strategy, fun row => ?_⟩
    have text := semantic row
    cases value : rel.link.field row <;> rw [value] at text <;> first | rfl | cases text
  | int8 | int16 | int32 | int64 =>
    refine .inr ⟨?_, ?_, fun row => ?_⟩
    · rw [strategy]
      cases rel.plan.cardinality <;> decide
    · rw [strategy]
      cases rel.plan.cardinality <;> decide
    · have integer := semantic row
      cases value : rel.link.field row <;> rw [value] at integer <;>
        first | exact ⟨_, rfl⟩ | cases integer
  | _ => cases link

theorem collection_eq {keyOf : Record → Int64} {found : List Record} (apart : (found.map keyOf).Nodup) :
    rel.collection keyOf found = found := by
  rw [collection]
  split
  · exact distinctBy_of_nodup apart
  · rfl

/-- What has been found for a text is given to the row, once for each key in a set. -/
theorem attachFound_given (keyOf : Record → Int64) (row : Record) (found : List Record) :
    rel.attachFound keyOf row found = rel.given row (rel.collection keyOf found) := by
  unfold attachFound given
  cases cardinality : rel.plan.cardinality with
  | single =>
    have same : rel.collection keyOf found = found := by rw [collection, cardinality]; rfl
    rw [same]
    cases found <;> rfl
  | _ => rfl

/-- Of what has been fetched for all rows, each is given the records of its key, once for each key in a
    set. -/
theorem attach_given (single : rel.plan.strategy = .batchedSingle ↔ rel.plan.cardinality = .single)
    {keyOf : Record → Int64} {targets : List Record} {row : Record} {key : Int64}
    (link : rel.linkKey? row = some key) : rel.attach keyOf targets row =
      rel.given row (rel.collection keyOf (targets.filter fun t => keyOf t = key)) := by
  unfold attach given
  rw [link]
  dsimp only
  generalize (targets.filter fun t => keyOf t = key) = found
  cases strategy : rel.plan.strategy with
  | batchedSingle =>
    have one := single.mp strategy
    have same : rel.collection keyOf found = found := by rw [collection, one]; rfl
    cases found <;> simp only [same, one]
  | _ =>
    have many : rel.plan.cardinality ≠ .single := fun one => by
      have batched := single.mpr one
      rw [strategy] at batched
      cases batched
    cases cardinality : rel.plan.cardinality with
    | single => exact absurd cardinality many
    | _ => rfl

theorem attachFound_eq {keyOf : Record → Int64} {found : List Record} (apart : (found.map keyOf).Nodup)
    (row : Record) : rel.attachFound keyOf row found = rel.given row found := by
  rw [attachFound_given, collection_eq apart]

/-- Of what has been fetched for all rows, each gets the records that its link names. -/
theorem attach_eq (single : rel.plan.strategy = .batchedSingle ↔ rel.plan.cardinality = .single)
    {keyOf : Record → Int64} {targets found : List Record} {row : Record} {key : Int64}
    (link : rel.linkKey? row = some key) (own : (targets.filter fun t => keyOf t = key) = found)
    (apart : (targets.map keyOf).Nodup) : rel.attach keyOf targets row = rel.given row found := by
  have apart : (found.map keyOf).Nodup := by
    rw [← own]
    exact apart.sublist (List.filter_sublist.map keyOf)
  rw [attach_given single link, own, collection_eq apart]

end Relation

end EntityStore
