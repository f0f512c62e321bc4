import Mathlib.Data.List.Basic
import EntityStore.Proofs.Sql.Token

/-! # Texts read back

Readers that take a text apart at its fixed pieces, and what they make of a text that has been put
together from such pieces and names:

* `Reader`, `expect`, `readName`, `readList`, `readMarks` — the readers.
* `isPlain` — names that end where a fixed piece starts.
* `Reads` — what a reader makes of a text, whatever follows it.
* `reads_name`, `reads_list`, `reads_marks` — names, lists and parameter marks are read back.
* `Reads.after`, `Reads.before`, `Reads.last` — so is what is put together with fixed pieces.
-/

namespace EntityStore.Text

variable {α β : Type}

/-! ## Readers -/

/-- Reads a part of a text from its start, or refuses it. -/
abbrev Reader := StateT (List Char) Option

def Reader.whole? (reader : Reader α) (text : String) : Option α :=
  match reader.run text.toList with
  | some (a, []) => some a
  | _ => none

def Reader.start? (reader : Reader α) (text : String) : Option α :=
  (reader.run text.toList).map Prod.fst

def takePiece (piece : String) : Reader Bool := fun cs =>
  match piece.toList.isPrefixOf? cs with
  | some rest => some (true, rest)
  | none => some (false, cs)

def expect (piece : String) : Reader Unit := do
  if ← takePiece piece then return () else failure

def isDelimiter (c : Char) : Bool := [' ', ',', '(', ')', '?'].contains c

/-- Reads what stands before the next delimiter, be it nothing. -/
def readName : Reader String := fun cs =>
  some (String.ofList (cs.takeWhile fun c => !isDelimiter c), cs.dropWhile fun c => !isDelimiter c)

/-- Reads at most so many items, with a comma and a blank between any two. -/
def readListUpTo (item : Reader α) : Nat → Reader (List α)
  | 0 => failure
  | count + 1 => do
    let first ← item
    if ← takePiece ", " then return first :: (← readListUpTo item count) else return [first]

/-- Reads one or more items with a comma and a blank between any two. -/
def readList (item : Reader α) : Reader (List α) := do readListUpTo item ((← get).length + 1)

def peek? : Reader (Option Char) := return (← get).head?

/-- Reads parameter marks with a comma and a blank between any two, and counts them. -/
def readMarks : Reader Nat := do
  if (← peek?) = some '?' then return (← readList (expect "?")).length else return 0

/-! ## Single pieces -/

theorem run_takePiece (piece : String) (rest : List Char) :
    (takePiece piece).run (piece.toList ++ rest) = some (true, rest) := by
  have found : piece.toList.isPrefixOf? (piece.toList ++ rest) = some rest :=
    List.isPrefixOf?_eq_some_iff_append_eq.mpr rfl
  simp only [takePiece, StateT.run, found]

theorem run_takePiece_other {piece : String} {cs : List Char}
    (other : piece.toList.isPrefixOf? cs = none) : (takePiece piece).run cs = some (false, cs) := by
  simp only [takePiece, StateT.run, other]

theorem run_bind_some {first : Reader α} {next : α → Reader β} {cs ds : List Char} {a : α}
    (read : first.run cs = some (a, ds)) : (first >>= next).run cs = (next a).run ds := by
  rw [StateT.run_bind, read]
  rfl

theorem run_peek? (cs : List Char) : peek?.run cs = some (cs.head?, cs) := rfl

theorem run_expect (piece : String) (rest : List Char) :
    (expect piece).run (piece.toList ++ rest) = some ((), rest) := by
  rw [expect, run_bind_some (run_takePiece piece rest)]
  rfl

/-! ## What is read whatever follows -/

/-- A reader makes a value of a text wherever it stands, if what follows cannot belong to it. -/
def Reads (ends : List Char → Prop) (reader : Reader α) (text : String) (a : α) : Prop :=
  ∀ rest, ends rest → reader.run (text.toList ++ rest) = some (a, rest)

namespace Reads

variable {ends ends' : List Char → Prop} {reader : Reader α} {text text' : String} {a : α} {b : β}

theorem pure (a : α) : Reads ends (Pure.pure a) "" a := fun _ _ => rfl

theorem whole (reads : Reads ends reader text a) (last : ends []) :
    reader.whole? text = some a := by
  have read := reads [] last
  rw [List.append_nil] at read
  rw [Reader.whole?, read]

theorem start (reads : Reads ends reader text a) {more : String} (apart : ends more.toList) :
    reader.start? (text ++ more) = some a := by
  rw [Reader.start?, String.toList_append, reads _ apart]
  rfl

/-- A fixed piece before a part. -/
theorem after (piece : String) {next : Reader β} (reads : Reads ends next text b) :
    Reads ends (expect piece >>= fun _ => next) (piece ++ text) b := by
  intro rest follows
  rw [String.toList_append, List.append_assoc, run_bind_some (run_expect piece _)]
  exact reads rest follows

/-- Two parts with a fixed piece between them that ends the first. -/
theorem before {piece : String} {next : α → Reader β} (reads : Reads ends reader text a)
    (apart : ∀ rest, ends (piece.toList ++ rest)) (more : Reads ends' (next a) text' b) :
    Reads ends' (reader >>= fun a => expect piece >>= fun _ => next a) (text ++ (piece ++ text'))
      b := by
  intro rest follows
  rw [String.toList_append, String.toList_append, List.append_assoc, List.append_assoc,
    run_bind_some (reads _ (apart _)), run_bind_some (run_expect piece _)]
  exact more rest follows

/-- A part with a fixed piece behind it, which comes last. -/
theorem last {piece : String} {make : α → β} (reads : Reads ends reader text a)
    (apart : ∀ rest, ends (piece.toList ++ rest)) :
    Reads ends' (reader >>= fun a => expect piece >>= fun _ => Pure.pure (make a)) (text ++ piece)
      (make a) := by
  have done : Reads ends' (Pure.pure (make a)) "" (make a) := pure (make a)
  have whole : Reads ends' (reader >>= fun a => expect piece >>= fun _ => Pure.pure (make a))
      (text ++ (piece ++ "")) (make a) := reads.before apart done
  rwa [String.append_empty] at whole

theorem map (make : α → β) (reads : Reads ends reader text a) :
    Reads ends (reader >>= fun a => Pure.pure (make a)) text (make a) := by
  intro rest follows
  rw [run_bind_some (reads rest follows)]
  rfl

end Reads

/-! ## Names -/

def isPlain (name : String) : Bool := name.toList.all fun c => !isDelimiter c

def EndsName (rest : List Char) : Prop := rest.head?.all isDelimiter = true

theorem reads_name {name : String} (plain : isPlain name = true) :
    Reads EndsName readName name name := by
  intro rest ends
  have stops : rest.head?.all (fun c => !(fun c => !isDelimiter c) c) = true := by
    simpa only [Bool.not_not, EndsName] using ends
  obtain ⟨taken, dropped⟩ := Sql.takeWhile_append_stop plain stops
  simp only [readName, StateT.run, taken, dropped, String.ofList_toList]

theorem count_plain {c : Char} (delimiter : isDelimiter c = true) {name : String}
    (plain : isPlain name = true) : name.toList.count c = 0 := by
  rw [List.count_eq_zero]
  intro member
  have other := List.all_eq_true.mp plain c member
  rw [delimiter] at other
  cases other

/-! ## Lists -/

/-- A list ends where its last item does, unless a comma follows. -/
def EndsList (ends : List Char → Prop) (rest : List Char) : Prop :=
  ends rest ∧ ", ".toList.isPrefixOf? rest = none

section
variable {ends : List Char → Prop} {item : Reader β} {text : α → String} {value : α → β}

theorem reads_listUpTo (comma : ∀ rest, ends (", ".toList ++ rest)) {items : List α}
    (some_item : items ≠ []) (each : ∀ a ∈ items, Reads ends item (text a) (value a)) {count : Nat}
    (enough : items.length ≤ count) :
    Reads (EndsList ends) (readListUpTo item count) (", ".intercalate (items.map text))
      (items.map value) := by
  induction items generalizing count with
  | nil => exact absurd rfl some_item
  | cons a items ih =>
    intro rest follows
    rw [List.length_cons] at enough
    obtain ⟨count, rfl⟩ : ∃ n, count = n + 1 := ⟨count - 1, by omega⟩
    have first := each a (List.mem_cons_self ..)
    -- One item ends the list; where another follows, the comma is read and the rest by induction.
    cases items with
    | nil =>
      rw [readListUpTo, List.map_singleton, String.intercalate_singleton,
        run_bind_some (first rest follows.1), run_bind_some (run_takePiece_other follows.2)]
      rfl
    | cons b items =>
      have others := ih (List.cons_ne_nil _ _)
        (fun c member => each c (List.mem_cons_of_mem _ member)) (Nat.le_of_succ_le_succ enough)
      rw [readListUpTo, List.map_cons, List.map_cons, String.intercalate_cons_cons,
        String.toList_append, String.toList_append, List.append_assoc, List.append_assoc,
        run_bind_some (first _ (comma _)), run_bind_some (run_takePiece ..), if_pos rfl,
        ← List.map_cons, run_bind_some (others rest follows)]
      rfl

theorem intercalate_cons (first : String) (texts : List String) :
    ∃ more, ", ".intercalate (first :: texts) = first ++ more := by
  cases texts with
  | nil => exact ⟨"", by simp⟩
  | cons second texts => exact ⟨_, by rw [String.intercalate_cons_cons, String.append_assoc]⟩

/-- A character that stands in no gap between items stands in the items alone. -/
theorem count_intercalate {c : Char} (outside : c ∉ ", ".toList) (texts : List String) :
    (", ".intercalate texts).toList.count c = (texts.flatMap String.toList).count c := by
  induction texts with
  | nil => rfl
  | cons first texts ih =>
    cases texts with
    | nil => simp
    | cons second texts =>
      rw [String.intercalate_cons_cons, String.toList_append, String.toList_append,
        List.count_append, List.count_append, List.count_eq_zero.mpr outside, Nat.add_zero, ih,
        ← List.count_append, ← List.flatMap_cons]

theorem length_le_intercalate (texts : List String) :
    texts.length ≤ (", ".intercalate texts).toList.length + 1 := by
  induction texts with
  | nil => exact Nat.zero_le _
  | cons first texts ih =>
    cases texts with
    | nil => simp
    | cons second texts =>
      rw [String.intercalate_cons_cons, String.toList_append, String.toList_append,
        List.length_append, List.length_append, List.length_cons]
      have two : ", ".toList.length = 2 := rfl
      omega

theorem reads_list (comma : ∀ rest, ends (", ".toList ++ rest)) {items : List α}
    (some_item : items ≠ []) (each : ∀ a ∈ items, Reads ends item (text a) (value a)) :
    Reads (EndsList ends) (readList item) (", ".intercalate (items.map text)) (items.map value) := by
  intro rest follows
  have short := length_le_intercalate (items.map text)
  rw [List.length_map] at short
  -- An item may be empty, but the gaps between items are not: the bound is never reached.
  refine reads_listUpTo comma some_item each ?_ rest follows
  rw [List.length_append]
  omega

end

theorem reads_names {names : List String} (some_name : names ≠ [])
    (plain : ∀ name ∈ names, isPlain name = true) :
    Reads (EndsList EndsName) (readList readName) (", ".intercalate names) names := by
  have each (name : String) (member : name ∈ names) : Reads EndsName readName (id name) (id name) :=
    reads_name (plain name member)
  have read := reads_list (fun _ => rfl) some_name each
  rwa [List.map_id] at read

/-! ## Parameter marks -/

def EndsMarks (rest : List Char) : Prop := rest.head? = some ')'

theorem EndsMarks.endsList {rest : List Char} (ends : EndsMarks rest) :
    EndsList (fun _ => True) rest := by
  obtain ⟨more, rfl⟩ := List.head?_eq_some_iff.mp ends
  exact ⟨trivial, rfl⟩

theorem reads_marks (count : Nat) :
    Reads EndsMarks readMarks (", ".intercalate (List.replicate count "?")) count := by
  intro rest ends
  rw [readMarks, run_bind_some (run_peek? _)]
  -- Without marks nothing is read, so that what follows must not look like one.
  cases count with
  | zero =>
    have other : ("".toList ++ rest).head? ≠ some '?' := by
      rw [String.toList_empty, List.nil_append, ends]
      decide
    rw [List.replicate_zero, String.intercalate_nil, if_neg other]
    rfl
  | succ count =>
    have mark : Reads (fun _ => True) (expect "?") "?" () := fun rest _ => run_expect "?" rest
    have marks := reads_list (fun _ => trivial) (List.cons_ne_nil () (List.replicate count ()))
      (fun _ _ => mark) rest ends.endsList
    rw [← List.replicate_succ, List.map_replicate, List.map_replicate] at marks
    have here : ((", ".intercalate (List.replicate (count + 1) "?")).toList ++ rest).head? =
        some '?' := by
      obtain ⟨more, same⟩ := intercalate_cons "?" (List.replicate count "?")
      rw [List.replicate_succ, same, String.toList_append, List.append_assoc]
      rfl
    rw [if_pos here, run_bind_some marks, List.length_replicate]
    rfl

end EntityStore.Text
