import Mathlib.Data.List.SplitBy
import Mathlib.Data.List.Nodup
import Mathlib.Data.List.Pairwise
import Mathlib.Data.List.Perm.Basic
import EntityStore.Engine.Query
import EntityStore.Proofs.Sql.Order

/-! # Groups of rows

What it means that rows are put in groups:

* `Grouped` — each group has all rows with its key, as they came; the groups come in the order of their
  keys.
* `Grouped.unique` — there is one way to do so.
* `grouped_groupByKeys` — the engine puts rows in such groups.
-/

namespace EntityStore.Engine

open EntityStore.Sql (Datum)

/-! ## Pieces of equal items -/

section
variable {α : Type} {cmp : α → α → Ordering} [Std.TransCmp cmp] {items piece : List α}

theorem eq_of_mem_splitBy (member : piece ∈ items.splitBy fun a b => cmp a b = .eq) :
    ∀ a ∈ piece, ∀ b ∈ piece, cmp a b = .eq := by
  have transitive : Trans (fun a b => cmp a b = .eq) (fun a b => cmp a b = .eq)
      (fun a b => cmp a b = .eq) := ⟨Std.TransCmp.eq_trans⟩
  have symmetric : Std.Symm fun a b => cmp a b = .eq := ⟨fun _ _ => Std.OrientedCmp.eq_symm⟩
  have chain : piece.IsChain fun a b => cmp a b = .eq :=
    (List.isChain_of_mem_splitBy member).imp fun _ _ => of_decide_eq_true
  exact chain.pairwise.forall_of_forall fun _ _ => Std.ReflCmp.compare_self

variable (sorted : items.Pairwise fun a b => (cmp a b).isLE = true)
include sorted

/-- Items in order that are split where they differ: the pieces stand in the order of their items. -/
theorem pairwise_splitBy : (items.splitBy fun a b => cmp a b = .eq).Pairwise fun first second =>
    ∀ a ∈ first, ∀ b ∈ second, cmp a b = .lt := by
  let Before (first second : List α) : Prop :=
    first ≠ [] ∧ second ≠ [] ∧ ∀ a ∈ first, ∀ b ∈ second, cmp a b = .lt
  have transitive : Trans Before Before Before := ⟨by
    rintro first second third ⟨some_first, some_second, before⟩ ⟨_, some_third, after⟩
    obtain ⟨b, between⟩ := List.exists_mem_of_ne_nil second some_second
    refine ⟨some_first, some_third, fun a listed c member => ?_⟩
    exact Std.TransCmp.lt_trans (before a listed b between) (after b between c member)⟩
  rw [← List.flatten_splitBy (fun a b => cmp a b = .eq) items, List.pairwise_flatten] at sorted
  have chain : (items.splitBy fun a b => cmp a b = .eq).IsChain Before := by
    have apart := List.isChain_getLast_head_splitBy (fun a b => decide (cmp a b = .eq)) items
    rw [List.isChain_iff_getElem] at apart ⊢
    intro i bound
    obtain ⟨some_first, some_second, different⟩ := apart i bound
    have order := List.pairwise_iff_getElem.mp sorted.2 i (i + 1) (by omega) bound (by omega)
    refine ⟨some_first, some_second, fun a listed b member => ?_⟩
    -- From the item to the last of its piece, over to the next piece, and on to the other item.
    have first := eq_of_mem_splitBy (List.getElem_mem _) a listed _ (List.getLast_mem some_first)
    have second := eq_of_mem_splitBy (List.getElem_mem _) _ (List.head_mem some_second) b member
    have across := order _ (List.getLast_mem some_first) _ (List.head_mem some_second)
    have less := (Ordering.isLE_iff_eq_lt_or_eq_eq.mp across).resolve_right (of_decide_eq_false different)
    exact Std.TransCmp.lt_of_eq_of_lt first (Std.TransCmp.lt_of_lt_of_eq less second)
  exact chain.pairwise.imp fun before => before.2.2

theorem mem_splitBy (member : piece ∈ items.splitBy fun a b => cmp a b = .eq) :
    ∀ a ∈ piece, piece = items.filter fun b => cmp b a = .eq := by
  intro a listed
  have order := pairwise_splitBy sorted
  obtain ⟨before, after, split⟩ := List.append_of_mem member
  rw [split, List.pairwise_append, List.pairwise_cons] at order
  obtain ⟨-, ⟨later, -⟩, earlier⟩ := order
  have whole : items = before.flatten ++ (piece ++ after.flatten) := by
    rw [← List.flatten_splitBy (fun a b => cmp a b = .eq) items, split, List.flatten_append,
      List.flatten_cons]
  have inside : (piece.filter fun b => cmp b a = .eq) = piece :=
    List.filter_eq_self.mpr fun b there => decide_eq_true (eq_of_mem_splitBy member b there a listed)
  have ahead : (before.flatten.filter fun b => cmp b a = .eq) = [] := by
    refine List.filter_eq_nil_iff.mpr fun b there => ?_
    obtain ⟨other, among, here⟩ := List.mem_flatten.mp there
    simp [earlier other among piece (List.mem_cons_self ..) b here a listed]
  have behind : (after.flatten.filter fun b => cmp b a = .eq) = [] := by
    refine List.filter_eq_nil_iff.mpr fun b there => ?_
    obtain ⟨other, among, here⟩ := List.mem_flatten.mp there
    simp [Std.OrientedCmp.gt_iff_lt.mpr (later other among a listed b here)]
  rw [whole, List.filter_append, List.filter_append, inside, ahead, behind, List.nil_append, List.append_nil]

end

/-! ## Equal items in order -/

section
variable {α : Type} {cmp : α → α → Ordering} [Std.TransCmp cmp]

theorem trans_ne_gt (a b c : α) (first : decide (cmp a b ≠ .gt) = true)
    (second : decide (cmp b c ≠ .gt) = true) : decide (cmp a c ≠ .gt) = true := by
  rw [decide_eq_true_eq, ne_eq, ← Ordering.isLE_iff_ne_gt] at first second ⊢
  exact Std.TransCmp.isLE_trans first second

theorem total_ne_gt (a b : α) : (decide (cmp a b ≠ .gt) || decide (cmp b a ≠ .gt)) = true := by
  rw [Bool.or_eq_true, decide_eq_true_eq, decide_eq_true_eq, ne_eq, ne_eq, Std.OrientedCmp.gt_iff_lt]
  cases cmp b a <;> simp

theorem pairwise_sorted (items : List α) :
    (items.mergeSort fun a b => cmp a b ≠ .gt).Pairwise fun a b => (cmp a b).isLE = true :=
  (List.pairwise_mergeSort trans_ne_gt total_ne_gt items).imp fun order =>
    Ordering.isLE_iff_ne_gt.mpr (of_decide_eq_true order)

/-- Items that are equal stay as they came when all are put in order. -/
theorem filter_sorted (items : List α) (a : α) :
    ((items.mergeSort fun a b => cmp a b ≠ .gt).filter fun b => cmp b a = .eq) =
      items.filter fun b => cmp b a = .eq := by
  have equal : (items.filter fun b => cmp b a = .eq).Pairwise fun b c => decide (cmp b c ≠ .gt) = true := by
    refine List.pairwise_of_forall_mem_list fun b first c second => ?_
    have left := of_decide_eq_true (List.mem_filter.mp first).2
    have right := of_decide_eq_true (List.mem_filter.mp second).2
    have same := Std.TransCmp.eq_trans left (Std.OrientedCmp.eq_symm right)
    simp [same]
  have among := (List.sublist_mergeSort trans_ne_gt total_ne_gt equal List.filter_sublist).filter
    fun b => decide (cmp b a = .eq)
  rw [List.filter_filter] at among
  simp only [Bool.and_self] at among
  have alike := ((List.mergeSort_perm items fun a b => cmp a b ≠ .gt).filter
    fun b => decide (cmp b a = .eq)).length_eq
  exact (among.eq_of_length alike.symm).symm

end

/-! ## Groups -/

/-- Rows in groups of equal keys. -/
structure Grouped (keyOf : Row → Row) (rows : List Row) (groups : List (List Row)) : Prop where
  /-- Each row is in a group. -/
  covers : ∀ row ∈ rows, ∃ group ∈ groups, row ∈ group
  /-- No group is empty. -/
  some_row : ∀ group ∈ groups, group ≠ []
  /-- A group has all rows with the key of any of its rows, as they came. -/
  whole : ∀ group ∈ groups, ∀ row ∈ group,
    group = rows.filter fun other => compareRows (keyOf other) (keyOf row) = .eq
  /-- The groups come in the order of their keys. -/
  ordered : groups.Pairwise fun first second =>
    ∀ a ∈ first, ∀ b ∈ second, compareRows (keyOf a) (keyOf b) = .lt

namespace Grouped

variable {keyOf other : Row → Row} {rows : List Row} {groups more : List (List Row)} {f : Row → Row}

theorem subset (grouped : Grouped keyOf rows groups) {group : List Row} (member : group ∈ groups) :
    ∀ row ∈ group, row ∈ rows := by
  intro row listed
  rw [grouped.whole group member row listed] at listed
  exact (List.mem_filter.mp listed).1

theorem map (grouped : Grouped other rows groups) (same : ∀ row ∈ rows, keyOf (f row) = other row) :
    Grouped keyOf (rows.map f) (groups.map (List.map f)) := by
  refine ⟨?_, ?_, ?_, ?_⟩
  · rw [List.forall_mem_map]
    intro row listed
    obtain ⟨group, member, here⟩ := grouped.covers row listed
    exact ⟨_, List.mem_map_of_mem member, List.mem_map_of_mem here⟩
  · rw [List.forall_mem_map]
    intro group member
    simpa using grouped.some_row group member
  · rw [List.forall_mem_map]
    intro group member
    rw [List.forall_mem_map]
    intro row listed
    rw [List.filter_map, same row (grouped.subset member row listed)]
    conv => lhs; rw [grouped.whole group member row listed]
    refine congrArg (List.map f) (List.filter_congr fun a there => ?_)
    rw [Function.comp_apply, same a there]
  · rw [List.pairwise_map]
    refine grouped.ordered.imp_of_mem fun {first second} member later before => ?_
    rw [List.forall_mem_map]
    intro a here
    rw [List.forall_mem_map]
    intro b there
    rw [same a (grouped.subset member a here), same b (grouped.subset later b there)]
    exact before a here b there

theorem mem_of_mem (grouped : Grouped keyOf rows groups) (again : Grouped keyOf rows more) {group : List Row}
    (member : group ∈ groups) : group ∈ more := by
  obtain ⟨row, listed⟩ := List.exists_mem_of_ne_nil group (grouped.some_row group member)
  obtain ⟨found, among, here⟩ := again.covers row (grouped.subset member row listed)
  have same : group = found :=
    (grouped.whole group member row listed).trans (again.whole found among row here).symm
  rwa [same]

theorem nodup (grouped : Grouped keyOf rows groups) : groups.Nodup := by
  refine grouped.ordered.imp_of_mem fun {first second} member _ before => ?_
  rintro rfl
  obtain ⟨row, listed⟩ := List.exists_mem_of_ne_nil first (grouped.some_row first member)
  have less := before row listed row listed
  have self : compareRows (keyOf row) (keyOf row) = .eq := Std.ReflCmp.compare_self
  rw [self] at less
  cases less

theorem unique (grouped : Grouped keyOf rows groups) (again : Grouped keyOf rows more) : groups = more := by
  have perm : groups.Perm more := (List.perm_ext_iff_of_nodup grouped.nodup again.nodup).mpr fun group =>
    ⟨grouped.mem_of_mem again, again.mem_of_mem grouped⟩
  refine perm.eq_of_pairwise (fun first second member among before after => ?_) grouped.ordered again.ordered
  obtain ⟨a, here⟩ := List.exists_mem_of_ne_nil first (grouped.some_row first member)
  obtain ⟨b, there⟩ := List.exists_mem_of_ne_nil second (again.some_row second among)
  have greater := Std.OrientedCmp.gt_iff_lt.mpr (after b there a here)
  rw [before a here b there] at greater
  cases greater

end Grouped

/-- The engine puts rows in groups of equal keys. -/
theorem grouped_groupByKeys (keyOf : Row → Row) (rows : List Row) :
    Grouped keyOf rows (groupByKeys keyOf rows) := by
  let keyed := rows.map fun row => (keyOf row, row)
  let cmp (a b : Row × Row) : Ordering := compareRows a.1 b.1
  have transitive : Std.TransCmp cmp :=
    { eq_swap := fun {a b} => Std.OrientedCmp.eq_swap (a := a.1) (b := b.1)
      isLE_trans := fun {a b c} => Std.TransCmp.isLE_trans (a := a.1) (b := b.1) (c := c.1) }
  let sorted := keyed.mergeSort fun a b => cmp a b ≠ .gt
  have order : sorted.Pairwise fun a b => (cmp a b).isLE = true := pairwise_sorted keyed
  have groups : groupByKeys keyOf rows =
      (sorted.splitBy fun a b => cmp a b = .eq).map fun piece => piece.map (·.2) := rfl
  -- In every piece the rows are with their keys.
  have keys {piece : List (Row × Row)} (member : piece ∈ sorted.splitBy fun a b => cmp a b = .eq)
      {pair : Row × Row} (here : pair ∈ piece) : pair = (keyOf pair.2, pair.2) := by
    have among : pair ∈ sorted := by
      rw [← List.flatten_splitBy (fun a b => cmp a b = .eq) sorted]
      exact List.mem_flatten.mpr ⟨piece, member, here⟩
    obtain ⟨row, _, rfl⟩ := List.mem_map.mp ((List.mergeSort_perm keyed _).mem_iff.mp among)
    rfl
  rw [groups]
  refine ⟨fun row listed => ?_, ?_, ?_, ?_⟩
  · have among : (keyOf row, row) ∈ sorted :=
      (List.mergeSort_perm keyed _).mem_iff.mpr (List.mem_map.mpr ⟨row, listed, rfl⟩)
    rw [← List.flatten_splitBy (fun a b => cmp a b = .eq) sorted] at among
    obtain ⟨piece, member, here⟩ := List.mem_flatten.mp among
    exact ⟨_, List.mem_map.mpr ⟨piece, member, rfl⟩, List.mem_map.mpr ⟨_, here, rfl⟩⟩
  · rw [List.forall_mem_map]
    intro piece member
    simpa using List.ne_nil_of_mem_splitBy member
  · rw [List.forall_mem_map]
    intro piece member row listed
    obtain ⟨pair, here, rfl⟩ := List.mem_map.mp listed
    have whole := mem_splitBy order member pair here
    rw [filter_sorted, List.filter_map] at whole
    have same := keys member here
    have key : pair.1 = keyOf pair.2 := congrArg Prod.fst same
    conv => lhs; rw [whole, List.map_map]
    rw [← key]
    exact List.map_id' _
  · rw [List.pairwise_map]
    refine (pairwise_splitBy order).imp_of_mem fun {first second} member other before => ?_
    rw [List.forall_mem_map]
    intro a here
    rw [List.forall_mem_map]
    intro b there
    have less := before a here b there
    rw [keys member here, keys other there] at less
    exact less

end EntityStore.Engine
