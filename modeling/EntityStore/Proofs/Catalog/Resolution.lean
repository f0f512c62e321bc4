import EntityStore.Proofs.Catalog.Relation

/-! # Resolving a relation from any store

What a relation asks of the store of its target and what the rows hold afterwards, whatever the store
answers:

* `Inquiry`, `Asking`, `RelatedStore.noted` — a store that notes what it is asked.
* `Relation.resolving_eq` — the result of `Relation.resolve`, and all that it asks.
* `Relation.Replaces`, `Relation.Beside` — accessors that keep what is written; rows that differ in what
  the relation holds.
* `Relation.collection_resolved` — collections hold what has been fetched for their links.
* `Relation.single_resolved` — a single relation holds the first of it; without one it is left as it is.
-/

namespace EntityStore

/-! ## First occurrences -/

section
variable {α : Type} [DecidableEq α]

theorem filter_distinct (p : α → Bool) (items : List α) :
    (distinct items).filter p = distinct (items.filter p) := by
  induction items with
  | nil => rfl
  | cons a rest ih =>
    rw [distinct, List.filter_cons, List.filter_cons]
    have swap : ((distinct rest).filter (· ≠ a)).filter p = (distinct (rest.filter p)).filter (· ≠ a) := by
      rw [List.filter_filter, ← ih, List.filter_filter]
      exact List.filter_congr fun b _ => Bool.and_comm ..
    split
    · rw [distinct, swap]
    · next refused =>
      rw [swap, List.filter_eq_self]
      intro b listed
      have accepted : p b = true := (List.mem_filter.mp (mem_distinct.mp listed)).2
      exact decide_eq_true fun same => refused (same ▸ accepted)

theorem distinct_eq_eraseDups (items : List α) : distinct items = items.eraseDups := by
  induction size : items.length using Nat.strong_induction_on generalizing items with
  | _ n ih =>
    cases items with
    | nil => rfl
    | cons a rest =>
      have fewer : (rest.filter (· ≠ a)).length < n := by
        rw [← size, List.length_cons]
        exact Nat.lt_succ_of_le (List.length_filter_le ..)
      rw [distinct, List.eraseDups_cons, filter_distinct, ih _ fewer _ rfl]
      congr 2
      exact List.filter_congr fun b _ => by by_cases same : b = a <;> simp [same]

end

/-- The first record of each key, in order of their keys' first occurrence. -/
def firstOfEach (keyOf : Record → Int64) (found : List Record) : List Record :=
  (found.map keyOf).eraseDups.filterMap fun key => found.find? fun t => keyOf t = key

theorem distinctBy_eq_firstOfEach (keyOf : Record → Int64) (found : List Record) :
    distinctBy keyOf found = firstOfEach keyOf found := by
  rw [firstOfEach, ← distinct_eq_eraseDups]
  induction found with
  | nil => rfl
  | cons first rest ih =>
    rw [distinctBy, ih, List.map_cons, distinct, List.filterMap_cons, List.find?_cons_of_pos (by simp),
      List.filterMap_filter, List.filter_filterMap]
    congr 2
    funext key
    by_cases same : key = keyOf first
    · -- The records under the first key come after the first.
      simp only [same, ne_eq, not_true_eq_false, decide_false, Bool.false_eq_true, if_false]
      cases another : rest.find? fun t => keyOf t = keyOf first with
      | none => rfl
      | some t => simpa using List.find?_some another
    · have apart : (decide (keyOf first = key)) = false := by simpa using Ne.symm same
      rw [if_pos (by simpa using same), List.find?_cons_of_neg (by simpa using apart)]
      cases another : rest.find? fun t => keyOf t = key with
      | none => rfl
      | some t =>
        have key : keyOf t = key := by simpa using List.find?_some another
        simp [Option.filter, key, same]

theorem setAssoc_setAssoc {α : Type} (name : String) (a b : α) (entries : List (String × α)) :
    setAssoc name b (setAssoc name a entries) = setAssoc name b entries := by
  induction entries with
  | nil => simp [setAssoc]
  | cons entry rest ih =>
    obtain ⟨other, held⟩ := entry
    by_cases same : other = name <;> simp [setAssoc, same, ih]

/-! ## Noting what is asked -/

/-- What a store of related records is asked. -/
inductive Inquiry where
  | keys (keys : List Int64)
  | text (text : String)
  | saved (records : List Record)

abbrev Asking := ExceptT Failure (StateM (List Inquiry))

namespace Asking

variable {α β : Type}

def outcome (program : Asking α) (past : List Inquiry) : Except Failure α × List Inquiry :=
  StateT.run (ExceptT.run program) past

def note (asked : Inquiry) : Asking Unit := modify (· ++ [asked])

@[simp] theorem outcome_pure (a : α) (past : List Inquiry) :
    outcome (pure a) past = (.ok a, past) := rfl

theorem outcome_bind {program : Asking α} {next : α → Asking β} {past : List Inquiry} {a : α}
    {then' : List Inquiry} (done : outcome program past = (.ok a, then')) :
    outcome (program >>= next) past = outcome (next a) then' := by
  have split : outcome (program >>= next) past =
      match outcome program past with
      | (.ok a, there) => outcome (next a) there
      | (.error e, there) => (.error e, there) := by
    simp only [outcome, ExceptT.run_bind, StateT.run_bind]
    rcases StateT.run (ExceptT.run program) past with ⟨_ | _, _⟩ <;> rfl
  rw [split, done]

theorem outcome_mapM {f : α → Asking β} {g : α → β} {asks : α → List Inquiry}
    (each : ∀ a past, outcome (f a) past = (.ok (g a), past ++ asks a)) (items : List α)
    (past : List Inquiry) :
    outcome (items.mapM f) past = (.ok (items.map g), past ++ items.flatMap asks) := by
  induction items generalizing past with
  | nil => simp
  | cons a rest ih =>
    rw [List.mapM_cons, outcome_bind (each a past), outcome_bind (ih _), outcome_pure, List.map_cons,
      List.flatMap_cons, List.append_assoc]

end Asking

/-- A store that answers as another, the same to the same inquiry, and notes what it is asked. -/
def RelatedStore.noted (store : RelatedStore Id) : RelatedStore Asking where
  keyOf := store.keyOf
  fetchByKeys keys := do
    Asking.note (.keys keys)
    return (store.fetchByKeys keys).run
  fetchByText text := do
    Asking.note (.text text)
    return (store.fetchByText text).run
  saveRelated records := do
    Asking.note (.saved records)
    return (store.saveRelated records).run

theorem RelatedStore.outcome_fetchByKeys (store : RelatedStore Id) (keys : List Int64)
    (past : List Inquiry) : (store.noted.fetchByKeys keys).outcome past =
      (.ok (store.fetchByKeys keys).run, past ++ [.keys keys]) := rfl

theorem RelatedStore.outcome_fetchByText (store : RelatedStore Id) (text : String)
    (past : List Inquiry) : (store.noted.fetchByText text).outcome past =
      (.ok (store.fetchByText text).run, past ++ [.text text]) := rfl

namespace Relation

variable {rel : Relation} {known : String → Option (RelatedStore Id)} {store : RelatedStore Id}

/-! ## A run of the resolver -/

/-- The outcome of a resolution, and all that has been asked. -/
def resolving (rel : Relation) (known : String → Option (RelatedStore Id)) (rows : List Record)
    (past : List Inquiry) : Except Failure (List Record) × List Inquiry :=
  (rel.resolve (fun target => (known target).map .noted) rows).outcome past

def fetched (rel : Relation) (store : RelatedStore Id) (rows : List Record) (row : Record) :
    List Record :=
  rel.collection store.keyOf (rel.named
    (fun key => (store.fetchByKeys (rel.linkKeys rows)).run.filter fun t => store.keyOf t = key)
    (fun text => (store.fetchByText text).run) row)

def settled (rel : Relation) (store : RelatedStore Id) (rows : List Record) (row : Record) : Record :=
  rel.given row (rel.fetched store rows row)

def inquiries (rel : Relation) (rows : List Record) : List Inquiry :=
  match rel.plan.strategy with
  | .commaJoined => (rows.filterMap rel.linkText?).map .text
  | _ => if rows.isEmpty then [] else [.keys (rel.linkKeys rows)]

theorem outcome_resolveText (textual : ∀ row, rel.linkKey? row = none) (rows : List Record)
    (row : Record) (past : List Inquiry) :
    (rel.resolveText store.noted row).outcome past =
      (.ok (rel.settled store rows row), past ++ ((rel.linkText? row).toList.map .text)) := by
  unfold resolveText settled fetched named
  rw [textual row]
  cases rel.linkText? row with
  | none =>
    have nothing : rel.collection store.keyOf [] = [] := by rw [collection, distinctBy, ite_self]
    dsimp only
    rw [nothing, Asking.outcome_pure, given]
    cases rel.plan.cardinality <;> simp
  | some text =>
    rw [Asking.outcome_bind (store.outcome_fetchByText text past), Asking.outcome_pure]
    exact congrArg (fun row => (Except.ok row, past ++ [Inquiry.text text])) (attachFound_given ..)

theorem outcome_resolveBatched
    (single : rel.plan.strategy = .batchedSingle ↔ rel.plan.cardinality = .single)
    (integer : ∀ row, ∃ key, rel.linkKey? row = some key) (first : Record) (rest : List Record)
    (past : List Inquiry) :
    (rel.resolveBatched store.noted (first :: rest)).outcome past =
      (.ok ((first :: rest).map (rel.settled store (first :: rest))),
        past ++ [.keys (rel.linkKeys (first :: rest))]) := by
  have each : ∀ row, rel.attach store.keyOf (store.fetchByKeys (rel.linkKeys (first :: rest))).run row =
      rel.settled store (first :: rest) row := by
    intro row
    obtain ⟨key, link⟩ := integer row
    rw [attach_given single link, settled, fetched, named, link]
  -- Without keys nothing would be asked, but the first row has one.
  obtain ⟨key, others, keys⟩ : ∃ key others, rel.linkKeys (first :: rest) = key :: others := by
    obtain ⟨key, link⟩ := integer first
    rw [linkKeys, List.filterMap_cons, link, distinct]
    exact ⟨_, _, rfl⟩
  have asked := store.outcome_fetchByKeys (key :: others) past
  rw [← keys] at asked
  rw [resolveBatched, keys]
  dsimp only
  rw [← keys, Asking.outcome_bind asked, Asking.outcome_pure]
  exact congrArg (fun rows => (Except.ok rows, _)) (List.map_congr_left fun row _ => each row)

/-- Each row is given what is fetched for it, and nothing else is asked. -/
theorem resolving_eq (fits : rel.Fits) (found : known rel.plan.target = some store)
    (rows : List Record) (past : List Inquiry) : rel.resolving known rows past =
      (.ok (rows.map (rel.settled store rows)), past ++ rel.inquiries rows) := by
  unfold resolving resolve inquiries
  cases rows with
  | nil => cases rel.plan.strategy <;> simp
  | cons first rest =>
    have known : (rel.storeIn fun target => (known target).map RelatedStore.noted : Asking _) =
        pure store.noted := by rw [storeIn, found]; rfl
    rw [List.isEmpty_cons, if_neg Bool.false_ne_true, known, pure_bind]
    -- Texts are resolved row by row; keys are fetched for all rows at once.
    obtain ⟨joined, textual⟩ | ⟨single, batched, integer⟩ := fits.cases
    · rw [joined]
      dsimp only
      rw [Asking.outcome_mapM fun row past => outcome_resolveText textual (first :: rest) row past]
      have texts : ∀ rows : List Record, rows.flatMap (fun row => (rel.linkText? row).toList.map .text) =
          (rows.filterMap rel.linkText?).map Inquiry.text := by
        intro rows
        induction rows with
        | nil => rfl
        | cons row rest ih =>
          rw [List.flatMap_cons, ih, List.filterMap_cons]
          cases rel.linkText? row <;> rfl
      rw [texts]
    · have run : (rel.resolveBatched store.noted (first :: rest)).outcome past = _ :=
        outcome_resolveBatched single integer first rest past
      cases strategy : rel.plan.strategy with
      | commaJoined => exact absurd strategy batched
      | batchedSingle | batchedCollection => exact run

/-! ## Accessors that keep what is written -/

/-- What a resolution writes: one record if the relation is single. -/
def Written (rel : Relation) (found : List Record) : Prop :=
  rel.plan.cardinality = .single → ∃ t, found = [t]

/-- The accessors of a relation hold what is written in the place of what was there. -/
structure Replaces (rel : Relation) : Prop where
  held : ∀ row found, rel.Written found → rel.getter.targets (rel.setter.store row found) = found
  again : ∀ row found later, rel.Written found → rel.Written later →
    rel.setter.store (rel.setter.store row found) later = rel.setter.store row later
  link : ∀ row found, rel.link.field (rel.setter.store row found) = rel.link.field row

/-- Two rows that differ at most in what the relation holds: not once it is overwritten. -/
def Beside (rel : Relation) (row other : Record) : Prop :=
  ∀ found, rel.Written found → rel.setter.store row found = rel.setter.store other found

theorem written_default (rel : Relation) : rel.Written [default] := fun _ => ⟨_, rfl⟩

theorem Replaces.link_beside (replaces : rel.Replaces) {row other : Record} (beside : rel.Beside row other) :
    rel.link.field row = rel.link.field other := by
  have same := beside [default] rel.written_default
  rw [← replaces.link row [default], same, replaces.link]

section
variable {rows others : List Record} (links : rows.map rel.link.field = others.map rel.link.field)
include links

theorem filterMap_links {α : Type} (f : FieldValue → Option α) :
    rows.filterMap (fun row => f (rel.link.field row)) =
      others.filterMap fun row => f (rel.link.field row) := by
  have mapped (rows : List Record) : rows.filterMap (fun row => f (rel.link.field row)) =
      (rows.map rel.link.field).filterMap f := by
    rw [List.filterMap_map]
    rfl
  rw [mapped, mapped, links]

theorem linkKeys_congr : rel.linkKeys rows = rel.linkKeys others :=
  congrArg distinct (filterMap_links links FieldValue.toInt64?)

theorem fetched_congr {row other : Record} (link : rel.link.field row = rel.link.field other) :
    rel.fetched store rows row = rel.fetched store others other := by
  simp only [fetched, named, linkKey?, linkText?, link, linkKeys_congr links]

theorem inquiries_congr : rel.inquiries rows = rel.inquiries others := by
  have texts : rows.filterMap rel.linkText? = others.filterMap rel.linkText? :=
    filterMap_links links FieldValue.toText?
  have empty : rows.isEmpty = others.isEmpty := by
    rw [← List.isEmpty_map (f := rel.link.field), links, List.isEmpty_map]
  rw [inquiries, inquiries, linkKeys_congr links, texts, empty]

end

theorem Replaces.property (plan : RelationPlan) (type : ColumnType) (link name : String) :
    Replaces ⟨plan, .property type link, .property plan.target plan.cardinality.shape name,
      .property plan.target plan.cardinality.shape name⟩ := by
  obtain ⟨_, cardinality, _, _, target⟩ := plan
  constructor
  case held =>
    intro row found written
    cases cardinality with
    | single =>
      obtain ⟨t, rfl⟩ := written rfl
      simp [RelationGetter.property, RelationGetter.targets, RelationSetter.property, RelationSetter.store,
        Cardinality.shape]
    | list | set =>
      simp [RelationGetter.property, RelationGetter.targets, RelationSetter.property, RelationSetter.store,
        Cardinality.shape]
  case again =>
    intro row found later first second
    cases cardinality with
    | single =>
      obtain ⟨_, rfl⟩ := first rfl
      obtain ⟨_, rfl⟩ := second rfl
      simp [RelationSetter.property, RelationSetter.store, Cardinality.shape, Record.setRelated,
        Record.relations, Record.values, setAssoc_setAssoc]
    | list | set =>
      simp [RelationSetter.property, RelationSetter.store, Cardinality.shape, Record.setRelated,
        Record.relations, Record.values, setAssoc_setAssoc]
  case link =>
    intro row found
    have value : (RelationSetter.store (.property target cardinality.shape name) row found).value? link =
        row.value? link := by
      cases cardinality <;> cases found <;>
        simp [RelationSetter.property, RelationSetter.store, Cardinality.shape]
    simp only [ColumnGetter.property, ColumnGetter.field, value]

/-! ## Collections -/

theorem given_collection (collects : rel.plan.cardinality ≠ .single) (row : Record) (found : List Record) :
    rel.given row found = rel.setter.store row found := by
  unfold given
  split
  · next single => exact absurd single collects
  · rfl

def kept (rel : Relation) (keyOf : Record → Int64) (found : List Record) : List Record :=
  match rel.plan.cardinality with
  | .set => firstOfEach keyOf found
  | _ => found

theorem collection_eq_kept (keyOf : Record → Int64) (found : List Record) :
    rel.collection keyOf found = rel.kept keyOf found := by
  rw [collection, kept, distinctBy_eq_firstOfEach]
  cases rel.plan.cardinality <;> simp

theorem Fits.commaJoined_iff (fits : rel.Fits) :
    rel.plan.strategy = .commaJoined ↔ rel.link.type.semantic = .text := by
  rw [fits.strategy]
  cases rel.link.type.semantic <;> cases rel.plan.cardinality <;> simp [RelationStrategy.select]

/-- A row whose relation holds records, and that is otherwise as another. -/
structure Attached (rel : Relation) (found : List Record) (row out : Record) : Prop where
  stored : out = rel.setter.store row found
  held : rel.getter.targets out = found

/-- What rows are resolved to, and what is asked for them. -/
structure Collected (rel : Relation) (store : RelatedStore Id) (rows out : List Record)
    (asked : List Inquiry) : Prop where
  integer : rel.link.type.semantic ≠ .text → ∃ keys, keys = (rows.filterMap rel.linkKey?).eraseDups
    ∧ asked = (if rows = [] then [] else [.keys keys])
    ∧ List.Forall₂ (fun row out => ∃ key, rel.linkKey? row = some key
      ∧ rel.Attached (rel.kept store.keyOf
          ((store.fetchByKeys keys).run.filter fun t => store.keyOf t = key)) row out) rows out
  text : rel.link.type.semantic = .text →
    asked = (rows.filterMap rel.linkText?).map .text
    ∧ List.Forall₂ (fun row out => rel.Attached (match rel.linkText? row with
        | some text => rel.kept store.keyOf (store.fetchByText text).run
        | none => []) row out) rows out

theorem collected (fits : rel.Fits) (collects : rel.plan.cardinality ≠ .single)
    (replaces : rel.Replaces) (rows : List Record) : rel.Collected store rows
      (rows.map (rel.settled store rows)) (rel.inquiries rows) := by
  have attached (row : Record) {found : List Record} (same : rel.fetched store rows row = found) :
      rel.Attached found row (rel.settled store rows row) := by
    rw [settled, given_collection collects, same]
    exact ⟨rfl, replaces.held row found fun single => absurd single collects⟩
  have joined := fits.commaJoined_iff
  constructor
  case integer =>
    intro number
    obtain ⟨strategy, -⟩ | ⟨-, batched, integer⟩ := fits.cases
    · exact absurd (joined.mp strategy) number
    refine ⟨rel.linkKeys rows, distinct_eq_eraseDups _, ?_, ?_⟩
    · rw [inquiries]
      cases rows <;> cases strategy : rel.plan.strategy <;> first | rfl | exact absurd strategy batched
    · rw [List.forall₂_map_right_iff, List.forall₂_same]
      intro row _
      obtain ⟨key, link⟩ := integer row
      refine ⟨key, link, attached row ?_⟩
      rw [fetched, named, link, collection_eq_kept]
  case text =>
    intro text
    obtain ⟨strategy, textual⟩ | ⟨-, batched, -⟩ := fits.cases
    · refine ⟨by rw [inquiries, strategy], ?_⟩
      rw [List.forall₂_map_right_iff, List.forall₂_same]
      intro row _
      apply attached row
      rw [fetched, named, textual row, collection_eq_kept]
      cases rel.linkText? row with
      | some text => rfl
      | none => cases cardinality : rel.plan.cardinality <;> simp [kept, cardinality, firstOfEach]
    · exact absurd (joined.mpr text) batched

/-- A collection holds exactly what has been fetched for the link of its row, by one inquiry for all
    integer links and by one for each text that lists keys; what it held before plays no part. -/
theorem collection_resolved (fits : rel.Fits) (collects : rel.plan.cardinality ≠ .single)
    (replaces : rel.Replaces) (found : known rel.plan.target = some store) (rows : List Record) :
    ∃ out asked, (∀ past, rel.resolving known rows past = (.ok out, past ++ asked))
      ∧ rel.Collected store rows out asked
      ∧ (∀ others, List.Forall₂ rel.Beside rows others →
        ∀ past, rel.resolving known others past = (.ok out, past ++ asked))
      ∧ (∀ (α : Type) (f : Record → α), (∀ row found, f (rel.setter.store row found) = f row) →
        out.map f = rows.map f)
      ∧ ∀ past, rel.resolving known out past = (.ok out, past ++ asked) := by
  -- Only links and what is written count, so rows beside the given ones have the same outcome.
  have alike : ∀ others, List.Forall₂ rel.Beside rows others → ∀ past,
      rel.resolving known others past =
        (.ok (rows.map (rel.settled store rows)), past ++ rel.inquiries rows) := by
    intro others beside past
    have links : rows.map rel.link.field = others.map rel.link.field :=
      map_eq_of_forall₂ (beside.imp fun _ _ same => replaces.link_beside same)
    rw [resolving_eq fits found, inquiries_congr links]
    congr 2
    refine (map_eq_of_forall₂ (beside.imp fun row other same => ?_)).symm
    rw [settled, settled, fetched_congr links (replaces.link_beside same), given_collection collects,
      given_collection collects]
    exact same _ fun single => absurd single collects
  refine ⟨_, _, fun past => resolving_eq fits found rows past, collected fits collects replaces rows,
    alike, ?_, alike _ ?_⟩
  · intro α f keeps
    rw [List.map_map]
    exact List.map_congr_left fun row _ => keeps_given keeps row _
  · rw [List.forall₂_map_right_iff, List.forall₂_same]
    intro row _ later written
    rw [settled, given_collection collects]
    exact (replaces.again row _ later (fun single => absurd single collects) written).symm

def books (cardinality : Cardinality) (type : ColumnType) : Relation where
  plan := { name := "books", cardinality, strategy := .select cardinality type.semantic
            linkField := "link", target := "book" }
  link := .property type "link"
  getter := .property "book" cardinality.shape "books"
  setter := .property "book" cardinality.shape "books"

def shelf (link : FieldValue) (held : List Int64) : Record :=
  .mk [("link", link)] [("books", held.map fun key => .mk [("id", .int64 key)] [])]

/-- A store with books under keys that says the same whatever it is asked. -/
def stock (keys : List Int64) : RelatedStore Id where
  keyOf book := ((book.value? "id").bind FieldValue.toInt64?).getD 0
  fetchByKeys _ := keys.map fun key => .mk [("id", .int64 key)] []
  fetchByText _ := keys.map fun key => .mk [("id", .int64 key)] []
  saveRelated _ := true

def stocked (keys : List Int64) (_ : String) : Option (RelatedStore Id) := some (stock keys)

theorem stocked_eq (keys : List Int64) (target : String) : stocked keys target = some (stock keys) := rfl

theorem books_fits (cardinality : Cardinality) (type : ColumnType) (link : type.semantic.isLink = true) :
    (books cardinality type).Fits where
  strategy := rfl
  link := link
  getter := by cases cardinality <;> rfl
  setter := by cases cardinality <;> rfl

/-- Of books that have been found twice or without being asked for, a set holds those of its link. -/
theorem books_resolved :
    let shelves := [shelf (.int64 4) [9], shelf (.int64 7) [], shelf (.int64 4) []]
    ∃ out asked, (∀ past, (books .set .int64).resolving (stocked [8, 4, 4]) shelves past =
        (.ok out, past ++ asked))
      ∧ (books .set .int64).Collected (stock [8, 4, 4]) shelves out asked
      ∧ out = [shelf (.int64 4) [4], shelf (.int64 7) [], shelf (.int64 4) [4]]
      ∧ asked = [.keys [4, 7]] := by
  intro shelves
  have result : (books .set .int64).resolving (stocked [8, 4, 4]) shelves [] =
      (.ok [shelf (.int64 4) [4], shelf (.int64 7) [], shelf (.int64 4) [4]], [.keys [4, 7]]) := rfl
  obtain ⟨out, asked, run, exactly, -⟩ := collection_resolved (books_fits .set .int64 rfl)
    nofun (.property _ _ _ _) (stocked_eq [8, 4, 4] _) shelves
  have same := (run []).symm.trans result
  simp only [List.nil_append, Prod.mk.injEq, Except.ok.injEq] at same
  exact ⟨out, asked, run, exactly, same.1, same.2⟩

/-! ## Single relations -/

theorem given_single (single : rel.plan.cardinality = .single) (row : Record) (found : List Record) :
    rel.given row found =
      match found.head? with
      | some first => rel.setter.store row [first]
      | none => row := by
  unfold given
  rw [single]
  cases found <;> rfl

def firstFetched? (rel : Relation) (store : RelatedStore Id) (rows : List Record) (row : Record) :
    Option Record :=
  match rel.linkKey? row, rel.linkText? row with
  | some key, _ => (store.fetchByKeys (rel.linkKeys rows)).run.find? fun t => store.keyOf t = key
  | none, some text => (store.fetchByText text).run.head?
  | none, none => none

theorem head?_fetched (single : rel.plan.cardinality = .single) (rows : List Record) (row : Record) :
    (rel.fetched store rows row).head? = rel.firstFetched? store rows row := by
  have all (found : List Record) : rel.collection store.keyOf found = found := by
    rw [collection, single]
    rfl
  rw [fetched, all, named, firstFetched?]
  cases rel.linkKey? row with
  | some key => exact List.head?_filter
  | none => cases rel.linkText? row <;> rfl

theorem settled_first (single : rel.plan.cardinality = .single) {rows : List Record} {row t : Record}
    (first : rel.firstFetched? store rows row = some t) :
    rel.settled store rows row = rel.setter.store row [t] := by
  rw [settled, given_single single, head?_fetched single, first]

theorem settled_none (single : rel.plan.cardinality = .single) {rows : List Record} {row : Record}
    (nothing : rel.firstFetched? store rows row = none) : rel.settled store rows row = row := by
  rw [settled, given_single single, head?_fetched single, nothing]

theorem Replaces.firstFetched?_beside (replaces : rel.Replaces) (store : RelatedStore Id)
    (rows : List Record) {row other : Record} (beside : rel.Beside row other) :
    rel.firstFetched? store rows other = rel.firstFetched? store rows row := by
  simp only [firstFetched?, linkKey?, linkText?, replaces.link_beside beside]

/-- A single relation becomes the first record that has been fetched for it.  Where there is none its row
    stays as it is, so that what rows held before is told apart there, and only there. -/
theorem single_resolved (fits : rel.Fits) (single : rel.plan.cardinality = .single)
    (replaces : rel.Replaces) (found : known rel.plan.target = some store) {rows others : List Record}
    (beside : List.Forall₂ rel.Beside rows others) :
    ∃ out out' asked, (∀ past, rel.resolving known rows past = (.ok out, past ++ asked))
      ∧ (∀ past, rel.resolving known others past = (.ok out', past ++ asked))
      ∧ (∀ (i : Nat) row other, rows[i]? = some row → others[i]? = some other →
        ∃ done done', out[i]? = some done ∧ out'[i]? = some done'
          ∧ (∀ first, rel.firstFetched? store rows row = some first →
            rel.Attached [first] row done ∧ done' = done)
          ∧ (rel.firstFetched? store rows row = none → done = row ∧ done' = other))
      ∧ (out = out' ↔ ∀ (i : Nat) row other, rows[i]? = some row → others[i]? = some other →
        rel.firstFetched? store rows row = none → row = other) := by
  have links : rows.map rel.link.field = others.map rel.link.field :=
    map_eq_of_forall₂ (beside.imp fun _ _ same => replaces.link_beside same)
  -- What is fetched depends on the links alone, so either list is settled by what the first one asks for.
  have second : ∀ past, rel.resolving known others past =
      (.ok (others.map (rel.settled store rows)), past ++ rel.inquiries rows) := by
    intro past
    rw [resolving_eq fits found, inquiries_congr links]
    congr 2
    exact List.map_congr_left fun other _ => by rw [settled, settled, ← fetched_congr links rfl]
  have written (t : Record) : rel.Written [t] := fun _ => ⟨t, rfl⟩
  have places {i : Nat} {row other : Record} (here : rows[i]? = some row)
      (there : others[i]? = some other) : rel.Beside row other := by
    obtain ⟨_, listed, same⟩ := getElem?_of_forall₂ beside here
    rw [there, Option.some.injEq] at listed
    exact listed ▸ same
  refine ⟨_, _, _, fun past => resolving_eq fits found rows past, second, ?_, ?_⟩
  · intro i row other here there
    have same := places here there
    have alike := replaces.firstFetched?_beside store rows same
    refine ⟨_, _, by rw [List.getElem?_map, here]; rfl,
      by rw [List.getElem?_map, there]; rfl, ?_, ?_⟩
    · intro t one
      rw [settled_first single one, settled_first single (alike.trans one)]
      exact ⟨⟨rfl, replaces.held row _ (written t)⟩, (same _ (written t)).symm⟩
    · intro nothing
      exact ⟨settled_none single nothing, settled_none single (alike.trans nothing)⟩
  · constructor
    · intro equal i row other here there nothing
      have place := congrArg (·[i]?) equal
      simp only [List.getElem?_map, here, there, Option.map_some, Option.some.injEq] at place
      have alike := replaces.firstFetched?_beside store rows (places here there)
      rwa [settled_none single nothing, settled_none single (alike.trans nothing)] at place
    · intro untouched
      apply List.ext_getElem?
      intro i
      rw [List.getElem?_map, List.getElem?_map]
      cases here : rows[i]? with
      | none =>
        have out := List.getElem?_eq_none_iff.mp here
        rw [List.getElem?_eq_none (beside.length_eq ▸ out)]
      | some row =>
        obtain ⟨other, there, same⟩ := getElem?_of_forall₂ beside here
        have alike := replaces.firstFetched?_beside store rows same
        rw [there, Option.map_some, Option.map_some]
        cases one : rel.firstFetched? store rows row with
        | none => rw [untouched i row other here there one]
        | some t => rw [settled_first single one, settled_first single (alike.trans one), same _ (written t)]

/-- A shelf whose book is not found keeps the book that it held. -/
theorem books_left :
    let shelves := [shelf (.int64 4) [9], shelf (.int64 7) [9]]
    let cleared := [shelf (.int64 4) [], shelf (.int64 7) []]
    List.Forall₂ (books .single .int64).Beside shelves cleared
    ∧ ∃ out out' asked,
      (∀ past, (books .single .int64).resolving (stocked [4]) shelves past =
        (.ok out, past ++ asked))
      ∧ (∀ past, (books .single .int64).resolving (stocked [4]) cleared past =
        (.ok out', past ++ asked))
      ∧ out[0]? = out'[0]? ∧ out[1]? = shelves[1]? ∧ out'[1]? = cleared[1]? ∧ out ≠ out' := by
  intro shelves cleared
  -- Whatever a shelf has held is replaced by the one book that is written.
  have beside (link : FieldValue) (held other : List Int64) :
      (books .single .int64).Beside (shelf link held) (shelf link other) := by
    intro found written
    obtain ⟨t, rfl⟩ := written rfl
    rfl
  have listed : List.Forall₂ (books .single .int64).Beside shelves cleared :=
    .cons (beside _ _ _) (.cons (beside _ _ _) .nil)
  obtain ⟨out, out', asked, run, run', places, equal⟩ := single_resolved
    (books_fits .single .int64 rfl) rfl (.property _ _ _ _) (stocked_eq [4] _) listed
  obtain ⟨done, done', here, there, found, -⟩ := places 0 _ _ rfl rfl
  obtain ⟨done₁, done₁', here₁, there₁, -, left⟩ := places 1 _ _ rfl rfl
  refine ⟨listed, out, out', asked, run, run', ?_, ?_, ?_, ?_⟩
  · rw [here, there, (found _ rfl).2]
  · rw [here₁, (left rfl).1]
    rfl
  · rw [there₁, (left rfl).2]
    rfl
  · intro same
    have kept := equal.mp same 1 _ _ rfl rfl rfl
    exact absurd (congrArg (fun row : Record => (row.related "books").length) kept) (by decide)

end Relation

end EntityStore
