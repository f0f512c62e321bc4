import Mathlib.Data.List.DropRight
import EntityStore.Text.Blank

/-! # Pieces of texts

Texts taken apart at a character, and without the blanks at their ends:

* `splitAt_intercalate`, `exists_pieces` — pieces that are put together come apart again, and every
  text is made of pieces.
* `trim_padded`, `trim_trim` — what trimming leaves.
-/

namespace EntityStore.Text

variable {sep : Char}

/-! ## Pieces -/

theorem splitChars_eq_splitOn (cs : List Char) : splitChars sep cs = cs.splitOn sep := by
  induction cs with
  | nil => rfl
  | cons c rest ih =>
    rw [splitChars, List.splitOn, List.splitOnP_cons_eq_if_modifyHead, ih, ← List.splitOn]
    by_cases same : c = sep
    · rw [if_pos same, if_pos (beq_iff_eq.mpr same)]
    · rw [if_neg same, if_neg (by simpa using same)]
      cases pieces : rest.splitOn sep with
      | nil => exact absurd pieces (List.splitOnP_ne_nil _ _)
      | cons piece pieces => rfl

/-- Pieces without the character come apart again. -/
theorem splitAt_intercalate {pieces : List String} (some_piece : pieces ≠ [])
    (whole : ∀ piece ∈ pieces, sep ∉ piece.toList) :
    splitAt sep ((String.singleton sep).intercalate pieces) = pieces := by
  have inner : ∀ piece ∈ pieces.map String.toList, sep ∉ piece := by
    simpa using whole
  rw [splitAt, splitChars_eq_splitOn, String.toList_intercalate, String.toList_singleton,
    List.splitOn_intercalate sep inner (by simpa using some_piece), List.map_map]
  simp

theorem splitChars_whole (cs : List Char) : ∀ piece ∈ splitChars sep cs, sep ∉ piece := by
  induction cs with
  | nil => simp [splitChars]
  | cons c rest ih =>
    rw [splitChars]
    split
    · simpa using ih
    · next other =>
      split
      · simpa using fun same : sep = c => other same.symm
      · next first more pieces =>
        rw [pieces, List.forall_mem_cons] at ih
        refine List.forall_mem_cons.mpr ⟨fun member => ?_, ih.2⟩
        rcases List.mem_cons.mp member with same | inside
        · exact other same.symm
        · exact ih.1 inside

/-- Every text is made of pieces without the character. -/
theorem exists_pieces (sep : Char) (text : String) : ∃ pieces : List String, pieces ≠ []
    ∧ (∀ piece ∈ pieces, sep ∉ piece.toList)
    ∧ (String.singleton sep).intercalate pieces = text := by
  refine ⟨splitAt sep text, ?_, ?_, ?_⟩
  · rw [splitAt, splitChars_eq_splitOn]
    simp [List.splitOn, List.splitOnP_ne_nil]
  · simpa [splitAt] using splitChars_whole text.toList
  · rw [← String.toList_inj, String.toList_intercalate, splitAt, splitChars_eq_splitOn, List.map_map]
    simp [Function.comp_def]

/-! ## Trimming -/

/-- Blanks around a text without blanks are taken off. -/
theorem trimChars_padded {before core after : List Char} (blankBefore : ∀ c ∈ before, isBlank c = true)
    (solid : ∀ c ∈ core, isBlank c = false) (blankAfter : ∀ c ∈ after, isBlank c = true) :
    trimChars (before ++ core ++ after) = core := by
  -- Either there is nothing but blanks, or they end where the core starts.
  have left : (before ++ core ++ after).dropWhile isBlank = if core = [] then [] else core ++ after := by
    rw [List.append_assoc, List.dropWhile_append_of_pos blankBefore]
    cases core with
    | nil => exact List.dropWhile_eq_nil_iff.mpr blankAfter
    | cons c cs =>
      exact List.dropWhile_cons_of_neg (by rw [solid c (List.mem_cons_self ..)]; exact Bool.false_ne_true)
  rw [trimChars, left]
  split
  · next none => rw [none]; rfl
  · have ends : core.reverse.dropWhile isBlank = core.reverse := by
      refine List.dropWhile_eq_self_iff.mpr fun nonempty blank => ?_
      have member := List.mem_reverse.mp (List.getElem_mem nonempty)
      exact absurd blank (by rw [solid _ member]; exact Bool.false_ne_true)
    rw [List.reverse_append, List.dropWhile_append_of_pos (by simpa using blankAfter), ends,
      List.reverse_reverse]

theorem trimChars_trimChars (cs : List Char) : trimChars (trimChars cs) = trimChars cs := by
  have start : (trimChars cs).dropWhile isBlank = trimChars cs := by
    have ahead := List.dropWhile_eq_self_iff.mp (List.dropWhile_idempotent isBlank cs)
    have part : trimChars cs <+: cs.dropWhile isBlank := List.rdropWhile_prefix isBlank _
    refine List.dropWhile_eq_self_iff.mpr fun nonempty => ?_
    rw [part.getElem nonempty]
    exact ahead _
  conv => lhs; rw [trimChars, start]
  exact List.rdropWhile_idempotent isBlank _

/-- Of two texts that start without a blank only the second one has its end trimmed. -/
theorem trimChars_append {c d : Char} (first : isBlank c = false) (second : isBlank d = false)
    (before after : List Char) :
    trimChars (c :: before ++ d :: after) = c :: before ++ trimChars (d :: after) := by
  have start {c : Char} (solid : isBlank c = false) (cs : List Char) :
      (c :: cs).dropWhile isBlank = c :: cs :=
    List.dropWhile_cons_of_neg (by rw [solid]; exact Bool.false_ne_true)
  have kept : ((d :: after).reverse.dropWhile isBlank).isEmpty = false := by
    rw [List.isEmpty_eq_false_iff, ne_eq, List.dropWhile_eq_nil_iff]
    intro blank
    have solid := blank d (by simp)
    rw [second] at solid
    cases solid
  rw [trimChars, trimChars, List.cons_append, start first, start second, ← List.cons_append,
    List.reverse_append, List.dropWhile_append, kept, if_neg Bool.false_ne_true, List.reverse_append,
    List.reverse_reverse]

theorem trim_trim (s : String) : trim (trim s) = trim s := by
  rw [trim, trim, String.toList_ofList, trimChars_trimChars]

theorem trim_padded {before core after : String} (blankBefore : before.toList.all isBlank = true)
    (solid : ∀ c ∈ core.toList, isBlank c = false) (blankAfter : after.toList.all isBlank = true) :
    trim (before ++ core ++ after) = core := by
  rw [trim, String.toList_append, String.toList_append, trimChars_padded
    (List.all_eq_true.mp blankBefore) solid (List.all_eq_true.mp blankAfter), String.ofList_toList]

end EntityStore.Text
