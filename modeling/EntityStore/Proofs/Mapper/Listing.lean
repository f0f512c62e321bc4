import EntityStore.Proofs.Number.Reading
import EntityStore.Proofs.Text.Piece
import EntityStore.Store.Read

/-! # Lists of keys as text

Which keys a text with commas lists, and that just these are asked for:

* `KeyType.Lists` — the pieces of a text, the keys among them, and those that are no keys.
* `Mapper.skipping` — the report of a piece that is no key.
* `Item` — a printed key between blanks, or a piece that is no key.
* `Mapper.readKeys_eq` — what is read of any text.
* `Mapper.getsListed_eq` — what is fetched for it, and for a text that has been put together of keys.
-/

namespace EntityStore

open Number (Spells)

/-! ## Pieces -/

namespace KeyType

/-- The keys that pieces of a text stand for, in order, and what the others say that are not blank. -/
inductive Lists (t : KeyType) : List String → List Int64 → List String → Prop
  | nil : Lists t [] [] []
  | key {piece : String} {key : Int64} {pieces : List String} {keys : List Int64} {strays : List String}
      (reads : t.Reads piece key) (rest : Lists t pieces keys strays) :
      Lists t (piece :: pieces) (key :: keys) strays
  | blank {piece : String} {pieces : List String} {keys : List Int64} {strays : List String}
      (blank : Text.trim piece = "") (rest : Lists t pieces keys strays) :
      Lists t (piece :: pieces) keys strays
  | stray {piece : String} {pieces : List String} {keys : List Int64} {strays : List String}
      (solid : Text.trim piece ≠ "") (none : ∀ key, ¬t.Reads piece key)
      (rest : Lists t pieces keys strays) : Lists t (piece :: pieces) keys (Text.trim piece :: strays)

variable {t : KeyType}

/-- Pieces list something, whatever they are. -/
theorem exists_lists (t : KeyType) (pieces : List String) : ∃ keys strays, t.Lists pieces keys strays := by
  induction pieces with
  | nil => exact ⟨[], [], .nil⟩
  | cons piece rest ih =>
    obtain ⟨keys, strays, lists⟩ := ih
    by_cases isKey : ∃ key, t.Reads piece key
    · obtain ⟨key, reads⟩ := isKey
      exact ⟨_, _, .key reads lists⟩
    · by_cases blank : Text.trim piece = ""
      · exact ⟨_, _, .blank blank lists⟩
      · exact ⟨_, _, .stray blank (not_exists.mp isKey) lists⟩

theorem readToken?_trim {piece : String} {key : Int64} :
    t.readToken? (Text.trim piece) = some key ↔ t.Reads piece key := by
  rw [readToken?_eq_some, Reads, Reads, Text.trim_trim]

theorem Reads.solid {piece : String} {key : Int64} (reads : t.Reads piece key) :
    Text.trim piece ≠ "" := by
  intro blank
  have spells := reads.1
  rw [blank] at spells
  generalize key.toInt = n at spells
  generalize empty : "".toList = cs at spells
  cases spells with
  | plain digits => exact digits.1 empty.symm
  | plus digits => cases empty
  | minus digits => cases empty

end KeyType

/-! ## Reading -/

namespace Mapper

variable (m : Mapper)

/-- The report of a piece that is no key. -/
def skipping (stray : String) : Event :=
  { level := .warn, table := some m.table
    details := [("token", stray), ("message", "skipping invalid key")] }

variable {m}

theorem readItem_of_reads {piece : String} {key : Int64} (reads : m.entity.keyType.Reads piece key) :
    m.readItem (Text.trim piece) = pure (some key) := by
  rw [readItem, KeyType.readToken?_trim.mpr reads]

theorem readItem_of_stray {piece : String} (none : ∀ key, ¬m.entity.keyType.Reads piece key) :
    m.readItem (Text.trim piece) = do
      Session.report (m.skipping (Text.trim piece))
      return Option.none := by
  have unread : m.entity.keyType.readToken? (Text.trim piece) = Option.none :=
    Option.eq_none_iff_forall_ne_some.mpr fun key read => none key (KeyType.readToken?_trim.mp read)
  rw [readItem, unread]
  rfl

theorem reportAll_cons (e : Event) (events : List Event) :
    Session.reportAll (e :: events) = (do
      Session.report e
      Session.reportAll events) := by
  funext w
  simp only [Session.reportAll, List.reverse_cons, List.append_assoc, List.singleton_append]
  rfl

/-- The pieces of a text, one after the other: the keys are kept, the others reported. -/
theorem mapM_readItem {pieces : List String} {keys : List Int64} {strays : List String}
    (lists : m.entity.keyType.Lists pieces keys strays) :
    (do
      let found ← ((pieces.map Text.trim).filter fun item => !item.isEmpty).mapM m.readItem
      return found.filterMap id) = (do
      Session.reportAll (strays.map m.skipping)
      return keys) := by
  -- One case for each kind of item: a key is kept, a blank dropped and a stray one reported.
  induction lists with
  | nil => rfl
  | @key piece key pieces keys strays reads rest ih =>
    have kept : (!(Text.trim piece).isEmpty) = true := by simpa using reads.solid
    rw [List.map_cons, List.filter_cons, if_pos kept, List.mapM_cons, readItem_of_reads reads]
    calc _ = (do
            let found ← (do
              let found ← ((pieces.map Text.trim).filter fun item => !item.isEmpty).mapM m.readItem
              return found.filterMap id : Session (List Int64))
            return key :: found) := by simp only [pure_bind, bind_assoc]; rfl
      _ = _ := by rw [ih, bind_assoc]; simp only [pure_bind]
  | @blank piece pieces keys strays blank rest ih =>
    have dropped : ¬(!(Text.trim piece).isEmpty) = true := by simpa using blank
    rw [List.map_cons, List.filter_cons, if_neg dropped, ih]
  | @stray piece pieces keys strays solid none rest ih =>
    have kept : (!(Text.trim piece).isEmpty) = true := by simpa using solid
    rw [List.map_cons, List.filter_cons, if_pos kept, List.mapM_cons, readItem_of_stray none,
      List.map_cons, reportAll_cons]
    calc _ = (do
            Session.report (m.skipping (Text.trim piece))
            let found ← ((pieces.map Text.trim).filter fun item => !item.isEmpty).mapM m.readItem
            return found.filterMap id : Session (List Int64)) := by
          simp only [pure_bind, bind_assoc]; rfl
      _ = _ := by rw [ih, bind_assoc]

variable {pieces : List String} {keys : List Int64} {strays : List String}

/-- The keys that a text lists are read, and a report is made of each piece that is none. -/
theorem readKeys_eq (some_piece : pieces ≠ []) (whole : ∀ piece ∈ pieces, ',' ∉ piece.toList)
    (lists : m.entity.keyType.Lists pieces keys strays) :
    m.readKeys (",".intercalate pieces) = (do
      Session.reportAll (strays.map m.skipping)
      return keys) := by
  rw [readKeys, show "," = String.singleton ',' from rfl, Text.splitAt_intercalate some_piece whole]
  exact mapM_readItem lists

theorem getsListed_of_lists (some_piece : pieces ≠ []) (whole : ∀ piece ∈ pieces, ',' ∉ piece.toList)
    (lists : m.entity.keyType.Lists pieces keys strays) :
    m.getsListed (",".intercalate pieces) = (do
      Session.reportAll (strays.map m.skipping)
      m.gets keys) := by
  rw [getsListed, readKeys_eq some_piece whole lists, bind_assoc]
  simp only [pure_bind]

end Mapper

/-! ## Writing -/

/-- A piece of a text: a key as it is printed, between blanks, or anything that is no key. -/
inductive Item (t : KeyType)
  | key (before : String) (n : Int64) (after : String) (admitted : t.admits n = true)
      (blankBefore : before.toList.all Text.isBlank = true)
      (blankAfter : after.toList.all Text.isBlank = true)
  | other (text : String) (whole : ',' ∉ text.toList) (none : ∀ key, ¬t.Reads text key)

namespace Item

variable {t : KeyType}

/-- The text of a piece. -/
def written : Item t → String
  | key before n after .. => before ++ toString n ++ after
  | other text .. => text

def key? : Item t → Option Int64
  | key _ n .. => some n
  | other .. => none

/-- What a piece says that is neither a key nor blank. -/
def stray? : Item t → Option String
  | key .. => none
  | other text .. => if Text.trim text = "" then none else some (Text.trim text)

theorem letter_toString {key : Int64} {c : Char} (member : c ∈ (toString key).toList) :
    Text.isBlank c = false ∧ c ≠ ',' := by
  rcases (Number.spells_toString key.toInt).letter member with digit | rfl | rfl
  · obtain ⟨low, high⟩ : 48 ≤ c.toNat ∧ c.toNat ≤ 57 := Char.isDigit_iff_toNat.mp digit
    constructor
    · simp [Text.isBlank]
      omega
    · rintro rfl
      revert digit
      decide
  · decide
  · decide

theorem comma_notMem (item : Item t) : ',' ∉ item.written.toList := by
  cases item with
  | key before n after admitted blankBefore blankAfter =>
    have blank {text : String} (all : text.toList.all Text.isBlank = true) : ',' ∉ text.toList :=
      fun member => absurd (List.all_eq_true.mp all ',' member) (by decide)
    rw [written, String.toList_append, String.toList_append, List.mem_append, List.mem_append]
    rintro ((inside | inside) | inside)
    · exact blank blankBefore inside
    · exact (letter_toString inside).2 rfl
    · exact blank blankAfter inside
  | other text whole none => exact whole

/-- Printed keys are listed, and nothing else is. -/
theorem lists (items : List (Item t)) :
    t.Lists (items.map written) (items.filterMap key?) (items.filterMap stray?) := by
  induction items with
  | nil => exact .nil
  | cons item rest ih =>
    rw [List.map_cons]
    cases item with
    | key before n after admitted blankBefore blankAfter =>
      refine .key ⟨?_, of_decide_eq_true admitted⟩ ih
      rw [written, Text.trim_padded blankBefore (fun c member => (letter_toString member).1) blankAfter]
      exact Number.spells_toString n.toInt
    | other text whole none =>
      by_cases blank : Text.trim text = ""
      · rw [List.filterMap_cons_none (show stray? (other text whole none) = _ from if_pos blank)]
        exact .blank blank ih
      · rw [List.filterMap_cons_some (show stray? (other text whole none) = _ from if_neg blank)]
        exact .stray blank none ih

end Item

/-- Keys that have been printed, between blanks and among pieces that are no keys, are read back in
    their order; and of any text whatever the keys among its pieces are fetched, with one report for
    each of the other pieces that is not blank. -/
theorem Mapper.getsListed_eq (m : Mapper) :
    (∀ items : List (Item m.entity.keyType),
      m.readKeys (",".intercalate (items.map Item.written)) = (do
        Session.reportAll ((items.filterMap Item.stray?).map m.skipping)
        return items.filterMap Item.key?)
      ∧ m.getsListed (",".intercalate (items.map Item.written)) = (do
        Session.reportAll ((items.filterMap Item.stray?).map m.skipping)
        m.gets (items.filterMap Item.key?)))
    ∧ ∀ text : String, ∃ pieces keys strays, pieces ≠ [] ∧ (∀ piece ∈ pieces, ',' ∉ piece.toList)
      ∧ ",".intercalate pieces = text ∧ m.entity.keyType.Lists pieces keys strays
      ∧ m.getsListed text = (do
        Session.reportAll (strays.map m.skipping)
        m.gets keys) := by
  refine ⟨fun items => ?_, fun text => ?_⟩
  · have lists := Item.lists items
    cases items with
    | nil =>
      -- The empty text is one blank piece.
      have blank : m.entity.keyType.Lists [""] [] [] := .blank rfl .nil
      have whole : ∀ piece ∈ [""], ',' ∉ piece.toList := by decide
      have read := readKeys_eq (List.cons_ne_nil _ _) whole blank
      have fetched := getsListed_of_lists (List.cons_ne_nil _ _) whole blank
      exact ⟨read, fetched⟩
    | cons item rest =>
      have whole : ∀ piece ∈ (item :: rest).map Item.written, ',' ∉ piece.toList := by
        simpa using ⟨item.comma_notMem, fun item _ => item.comma_notMem⟩
      exact ⟨readKeys_eq (List.cons_ne_nil _ _) whole lists,
        getsListed_of_lists (List.cons_ne_nil _ _) whole lists⟩
  · obtain ⟨pieces, some_piece, whole, rfl⟩ := Text.exists_pieces ',' text
    obtain ⟨keys, strays, lists⟩ := m.entity.keyType.exists_lists pieces
    exact ⟨pieces, keys, strays, some_piece, whole, rfl, lists,
      getsListed_of_lists some_piece whole lists⟩

end EntityStore
