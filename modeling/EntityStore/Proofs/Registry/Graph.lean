import Mathlib.Data.List.Sort
import EntityStore.Proofs.Registry.Following

/-! # Graphs of records

Records under their keys are a graph, in which links lead from one to others.  Where tables keep such a
graph, what a read gives with what its records refer to is unfolded along the links of the graph:

* `fetchOrder`, `Contents.named` — the records of keys, in the order in which they are found.
* `Registry.unfoldIn` — a record with what it refers to in a graph, so many levels deep.
* `Registry.follow_eq` — tables that keep a graph are unfolded as it is.
-/

namespace EntityStore

open EntityStore.Engine (Row)

/-! ## The records of keys -/

/-- Keys in the order in which their records are found: piece by piece, and in their own order within
    each. -/
def fetchOrder (keys : List Int64) : List Int64 :=
  (chunks maxKeysPerQuery (distinct keys)).flatMap fun chunk => chunk.mergeSort

/-- The records of keys, in the order in which they are found. -/
def Contents.named (contents : Contents) (keys : List Int64) : List Record :=
  (fetchOrder keys).filterMap contents

/-- Sorted keys without repetition are strictly increasing. -/
theorem pairwise_mergeSort {keys : List Int64} (once : keys.Nodup) :
    keys.mergeSort.Pairwise (· < ·) := by
  have sorted : keys.mergeSort.Pairwise fun a b => decide (a ≤ b) = true :=
    List.pairwise_mergeSort (fun _ _ _ first second => by
      rw [decide_eq_true_eq] at *
      exact Int64.le_trans first second) (fun a b => by
      simpa using Int64.le_total a b) keys
  have apart : keys.mergeSort.Nodup := (List.mergeSort_perm keys _).nodup_iff.mpr once
  refine (sorted.and apart).imp fun {a b} ⟨before, different⟩ => ?_
  rw [decide_eq_true_eq] at before
  exact Int64.lt_of_le_of_ne before different

namespace Mapper

variable {m : Mapper} {contents : Contents} {rows : List Row}

def linkedIn (m : Mapper) (contents : Contents) (rel : Relation) (row : Record) : List Record :=
  rel.named (fun key => (contents key).toList) (fun text => contents.named (m.keysIn text)) row

theorem Holding.recordAt (holding : m.Holding contents rows) {row : Row} (member : row ∈ rows) :
    contents (m.numberAt row) = some (m.recordAt row) := by
  obtain ⟨record, known, read⟩ := holding.reads member
  rw [known, Mapper.recordAt, read]
  rfl

theorem Holding.mem_rowsOf (holding : m.Holding contents rows) {keys : List Int64} {row : Row} :
    row ∈ m.plan.rowsOf keys rows ↔ row ∈ rows ∧ m.numberAt row ∈ keys := by
  rw [MappingPlan.rowsOf, List.mem_filter]
  refine and_congr_right fun member => ?_
  simp [holding.keyAt member]

theorem Holding.underKey_eq (holding : m.Holding contents rows) (key : Int64) :
    m.underKey rows key = (contents key).toList := by
  have read : (m.plan.rowsOf [key] rows).mapM m.recordOf = .ok (m.underKey rows key) :=
    mapM_eq_ok fun row listed => holding.decodes.recordOf (holding.mem_rowsOf.mp listed).1
  exact Except.ok.inj (read.symm.trans (holding.found key))

/-- The rows of keys without repetition are read as what is held under them, in the order of the
    keys. -/
theorem Holding.rowsOf_eq (holding : m.Holding contents rows) {keys : List Int64} (once : keys.Nodup) :
    (m.plan.rowsOf keys rows).map m.recordAt = keys.mergeSort.filterMap contents := by
  -- The keys of the rows are those of the given ones under which there is something.
  have numbers : (m.plan.rowsOf keys rows).map m.numberAt =
      keys.mergeSort.filter fun key => (contents key).isSome := by
    have live := holding.live
    refine List.Pairwise.eq_of_mem_iff (r := (· < ·)) ?_ ?_ fun key => ?_
    · exact live.ordered.sublist (List.filter_sublist.map m.numberAt)
    · exact (pairwise_mergeSort once).sublist List.filter_sublist
    · rw [List.mem_filter, List.mem_mergeSort, ← live.member, List.mem_map, List.mem_map]
      simp only [holding.mem_rowsOf]
      constructor
      · rintro ⟨row, ⟨member, asked⟩, rfl⟩
        exact ⟨asked, row, member, rfl⟩
      · rintro ⟨asked, row, member, rfl⟩
        exact ⟨row, ⟨member, asked⟩, rfl⟩
  have found : (m.plan.rowsOf keys rows).map m.recordAt =
      ((m.plan.rowsOf keys rows).map m.numberAt).filterMap contents := by
    rw [List.filterMap_map, ← List.filterMap_eq_map]
    exact List.filterMap_congr fun row listed =>
      (holding.recordAt (holding.mem_rowsOf.mp listed).1).symm
  rw [found, numbers, List.filterMap_filter]
  refine List.filterMap_congr fun key _ => ?_
  cases contents key <;> rfl

theorem Holding.underKeys_eq (holding : m.Holding contents rows) (keys : List Int64) :
    m.underKeys rows keys = contents.named keys := by
  have once : (chunks maxKeysPerQuery (distinct keys)).flatten.Nodup := by
    rw [flatten_chunks]
    exact nodup_distinct keys
  rw [Mapper.underKeys, Contents.named, fetchOrder, List.filterMap_flatMap]
  refine List.flatMap_congr fun chunk listed => holding.rowsOf_eq ?_
  exact (List.nodup_flatten.mp once).1 chunk listed

/-- A link names in the tables what it names in the graph that they keep. -/
theorem Holding.linked_eq (holding : m.Holding contents rows) (rel : Relation) (row : Record) :
    m.linked rows rel row = m.linkedIn contents rel row := by
  rw [Mapper.linked, Mapper.linkedIn, funext holding.underKey_eq, funext holding.underKeys_eq]

end Mapper

/-! ## Unfolding -/

namespace Registry

/-- A record with what it refers to in a graph, so many levels deep: each relation in turn is given the
    records that its link names, each of them unfolded one level less deep. -/
def unfoldIn (r : Registry) (graph : Nat → Contents) : Nat → Mapper → Record → Record
  | 0, _, record => record
  | depth + 1, m, record => m.entity.relations.foldl (fun record rel =>
      rel.given record
        (match r.mapper? rel.plan.target with
        | none => []
        | some target =>
          (target.linkedIn (graph target.index) rel record).map (r.unfoldIn graph depth target))) record

variable {r : Registry} {graph : Nat → Contents} {rows : Nat → List Row}

/-- Tables that keep a graph are unfolded as it is. -/
theorem follow_eq (holding : ∀ m ∈ r.mappers, m.Holding (graph m.index) (rows m.index)) (depth : Nat)
    (m : Mapper) : r.follow rows depth m = r.unfoldIn graph depth m := by
  induction depth generalizing m with
  | zero => rfl
  | succ depth ih =>
    funext record
    rw [follow, unfoldIn]
    congr 1
    funext record rel
    cases found : r.mapper? rel.plan.target with
    | none => rfl
    | some target =>
      dsimp only
      rw [(holding target (mapper?_mem found)).linked_eq, ih]

end Registry

end EntityStore
