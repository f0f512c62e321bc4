import EntityStore.Proofs.Catalog.Naming

/-! # The rules of a declaration

What a well-formed declaration is, and what is reported of one that is not:

* `First` — the first element of a list with a property.
* `Model.WellFormed` — the rules, all kept.
* `Model.Breaks` — one rule broken, with the violation that is reported of it.
* `Model.Reports` — the violation of the first rule that is broken.
* `Model.wellFormed_iff` — a declaration is well formed unless a rule is broken.
-/

namespace EntityStore

/-! ## First elements -/

def First {α : Type} (p : α → Prop) (items : List α) (a : α) : Prop :=
  ∃ before after, items = before ++ a :: after ∧ p a ∧ ∀ b ∈ before, ¬p b

def FirstAgain {α : Type} (items : List α) (a : α) : Prop :=
  ∃ before after, items = before ++ a :: after ∧ a ∈ before ∧ before.Nodup

namespace First

variable {α β : Type} {p : α → Prop} {items rest : List α} {a b : α}

theorem not_nil : ¬First p [] a := by
  rintro ⟨before, after, split, _⟩
  cases before <;> cases split

theorem here (holds : p a) : First p (a :: rest) a := ⟨[], rest, rfl, holds, nofun⟩

theorem later (skipped : ¬p b) (found : First p rest a) : First p (b :: rest) a := by
  obtain ⟨before, after, rfl, holds, others⟩ := found
  refine ⟨b :: before, after, rfl, holds, fun c member => ?_⟩
  cases List.mem_cons.mp member with
  | inl same => rw [same]; exact skipped
  | inr later => exact others c later

theorem cons_iff : First p (b :: rest) a ↔ p b ∧ a = b ∨ ¬p b ∧ First p rest a := by
  constructor
  · rintro ⟨before, after, split, holds, others⟩
    cases before with
    | nil =>
      cases split
      exact .inl ⟨holds, rfl⟩
    | cons c before =>
      cases split
      exact .inr ⟨others b (List.mem_cons_self ..), before, after, rfl, holds,
        fun c member => others c (List.mem_cons_of_mem _ member)⟩
  · rintro (⟨holds, rfl⟩ | ⟨skipped, found⟩)
    · exact here holds
    · exact later skipped found

theorem mem (found : First p items a) : a ∈ items := by
  obtain ⟨before, after, rfl, _⟩ := found
  simp

theorem holds (found : First p items a) : p a := by
  obtain ⟨_, _, _, holds, _⟩ := found
  exact holds

theorem congr {q : α → Prop} (found : First p items a) (agree : ∀ b ∈ items, p b ↔ q b) :
    First q items a := by
  obtain ⟨before, after, rfl, holds, others⟩ := found
  refine ⟨before, after, rfl, (agree a (by simp)).mp holds, fun b member holds => ?_⟩
  exact others b member ((agree b (by simp [member])).mpr holds)

theorem exists_of_mem (member : a ∈ items) (holds : p a) : ∃ b, First p items b := by
  induction items with
  | nil => cases member
  | cons c rest ih =>
    by_cases head : p c
    · exact ⟨c, here head⟩
    · cases List.mem_cons.mp member with
      | inl same => rw [same] at holds; exact absurd holds head
      | inr listed =>
        obtain ⟨b, found⟩ := ih listed
        exact ⟨b, later head found⟩

theorem unique (found : First p items a) (found' : First p items b) : a = b := by
  induction items with
  | nil => exact absurd found not_nil
  | cons c rest ih =>
    rcases cons_iff.mp found with ⟨head, rfl⟩ | ⟨skipped, found⟩
    · rcases cons_iff.mp found' with ⟨_, rfl⟩ | ⟨skipped, _⟩
      · rfl
      · exact absurd head skipped
    · rcases cons_iff.mp found' with ⟨head, _⟩ | ⟨_, found'⟩
      · exact absurd head skipped
      · exact ih found found'

theorem partner {q : β → Prop} {R : α → β → Prop} {bs : List β} (related : List.Forall₂ R items bs)
    (agree : ∀ a b, R a b → (p a ↔ q b)) (found : First p items a) : ∃ b, First q bs b ∧ R a b := by
  induction related with
  | nil => exact absurd found not_nil
  | @cons c d _ _ head _ ih =>
    rcases cons_iff.mp found with ⟨holds, rfl⟩ | ⟨skipped, found⟩
    · exact ⟨d, here ((agree _ _ head).mp holds), head⟩
    · obtain ⟨b, found, same⟩ := ih found
      exact ⟨b, later (fun holds => skipped ((agree _ _ head).mpr holds)) found, same⟩

end First

/-- What is found to have occurred before, in a list walked with the elements already seen. -/
theorem firstRepeated?_eq_some_iff {α : Type} [DecidableEq α] {seen items : List α} {a : α} :
    firstRepeated? seen items = some a ↔ ∃ before after, items = before ++ a :: after
      ∧ (a ∈ before ∨ a ∈ seen) ∧ before.Nodup ∧ ∀ b ∈ before, b ∉ seen := by
  -- For all elements that may have been seen, since each step adds one to them.
  induction items generalizing seen with
  | nil => simp [firstRepeated?]
  | cons c rest ih =>
    rw [firstRepeated?]
    by_cases known : c ∈ seen
    · rw [if_pos known]
      constructor
      · rintro ⟨⟩
        exact ⟨[], rest, rfl, .inr known, .nil, fun _ member => absurd member List.not_mem_nil⟩
      · rintro ⟨before, after, split, _, _, fresh⟩
        cases before with
        | nil => cases split; rfl
        | cons b before => cases split; exact absurd known (fresh c (List.mem_cons_self ..))
    · rw [if_neg known, ih]
      constructor
      · rintro ⟨before, after, rfl, again, apart, fresh⟩
        refine ⟨c :: before, after, rfl, ?_, ?_, ?_⟩
        · simp only [List.mem_cons] at again ⊢
          tauto
        · exact List.nodup_cons.mpr ⟨fun member => fresh c member (List.mem_cons_self ..), apart⟩
        · intro b member
          cases List.mem_cons.mp member with
          | inl same => rw [same]; exact known
          | inr listed => exact fun here => fresh b listed (List.mem_cons_of_mem _ here)
      · rintro ⟨before, after, split, again, apart, fresh⟩
        cases before with
        | nil =>
          cases split
          cases again with
          | inl member => cases member
          | inr here => exact absurd here known
        | cons b before =>
          cases split
          obtain ⟨alone, apart⟩ := List.nodup_cons.mp apart
          refine ⟨before, after, rfl, ?_, apart, fun d member here => ?_⟩
          · simp only [List.mem_cons] at again ⊢
            tauto
          · cases List.mem_cons.mp here with
            | inl same => rw [same] at member; exact alone member
            | inr here => exact fresh d (List.mem_cons_of_mem _ member) here

theorem firstAgain_iff {α : Type} [DecidableEq α] {items : List α} {a : α} :
    firstRepeated? [] items = some a ↔ FirstAgain items a := by
  rw [firstRepeated?_eq_some_iff, FirstAgain]
  simp

/-- A list has no element twice unless one is the first to occur again. -/
theorem nodup_iff_not_firstAgain {α : Type} [DecidableEq α] {items : List α} :
    items.Nodup ↔ ∀ a, ¬FirstAgain items a := by
  constructor
  · rintro apart a ⟨before, after, rfl, again, _⟩
    exact (List.nodup_append.mp apart).2.2 a again a (List.mem_cons_self ..) rfl
  · intro none
    cases found : firstRepeated? [] items with
    | none => exact (firstRepeated?_none found).1
    | some a => exact absurd (firstAgain_iff.mp found) (none a)

/-! ## Well-formed declarations -/

/-- What is asked of the accessors of a relation: the condition, and the method at fault and the
    wording where it is not met. -/
structure Demand where
  met : Prop
  method : String
  reason : String

/-- The accessors of a relation have the shape of its cardinality and handle records of its target.
    The shapes are looked at before the targets. -/
def RelationDeclaration.demands (r : RelationDeclaration) (getter : RelationGetter)
    (accessor : String) (setter : RelationSetter) (mutator : String) : List Demand :=
  let expected := r.cardinality.shape
  [ ⟨getter.shape = expected, accessor,
      "returns " ++ getter.shape.name ++ ", relation holds " ++ expected.name⟩,
    ⟨setter.shape = expected, mutator,
      "takes " ++ setter.shape.name ++ ", relation holds " ++ expected.name⟩,
    ⟨getter.target = r.target, accessor, "does not return " ++ r.target⟩,
    ⟨setter.target = r.target, mutator, "does not take " ++ r.target⟩ ]

namespace Model

/-- The names of fields and relations with whether they are public, fields first. -/
def members (m : Model) : List (String × Bool) :=
  m.fields.map (fun f => (f.name, f.isPublic)) ++ m.relations.map fun r => (r.name, r.isPublic)

/-- The method that the naming convention assigns to an unbound field or relation to read it. -/
def reader? (m : Model) (name : String) : Option MethodDeclaration :=
  m.getterOf? m.accessorMatch name

/-- The method that the naming convention assigns to an unbound field or relation to write it. -/
def writer? (m : Model) (name : String) : Option MethodDeclaration :=
  m.setterOf? m.accessorMatch name

/-- The accessors of a field: those it is bound to, or else those of the methods assigned to it. -/
inductive FieldAccess (m : Model) (f : FieldDeclaration) : ColumnGetter → ColumnSetter → Prop
  | bound {binding} (explicit : f.binding = some binding) :
    FieldAccess m f binding.getter binding.setter
  | assigned {g s getter setter} (unbound : f.binding = none) (reads : m.reader? f.name = some g)
    (writes : m.writer? f.name = some s) (body : g.body = .get getter) (body' : s.body = .set setter) :
    FieldAccess m f getter setter

/-- The accessors of a relation, with the names that stand for them in reports. -/
inductive RelationAccess (m : Model) (r : RelationDeclaration) :
    RelationGetter → String → RelationSetter → String → Prop
  | bound {binding} (explicit : r.binding = some binding) :
    RelationAccess m r binding.getter (accessorName r.name) binding.setter (mutatorName r.name)
  | assigned {g s getter setter} (unbound : r.binding = none) (reads : m.reader? r.name = some g)
    (writes : m.writer? r.name = some s) (body : g.body = .getRelation getter)
    (body' : s.body = .setRelation setter) : RelationAccess m r getter g.name setter s.name

def Links (m : Model) (r : RelationDeclaration) : Prop :=
  ∃ f ∈ m.fields, f.name = r.on ∧ f.semantic.isLink = true

/-- A declaration that keeps every rule. -/
structure WellFormed (m : Model) : Prop where
  visibility : ∀ member ∈ m.members, member.2 = false
  names : m.memberNames.Nodup
  columns : (m.fields.map (·.columnName)).Nodup
  fields : m.fields ≠ []
  primaryKey : ∃ key, m.fields.filter (·.primaryKey) = [key] ∧ key.semantic.isKey = true
    ∧ key.semantic = m.keyType.semantic
  constructor : m.initial ≠ none
  links : ∀ r ∈ m.relations, m.Links r
  fieldAccessors : ∀ f ∈ m.fields, ∃ getter setter, m.FieldAccess f getter setter
    ∧ getter.type.semantic = f.semantic ∧ setter.type.semantic = f.semantic
  relationAccessors : ∀ r ∈ m.relations, ∃ getter accessor setter mutator,
    m.RelationAccess r getter accessor setter mutator
      ∧ ∀ demand ∈ r.demands getter accessor setter mutator, demand.met

/-! ## Broken rules -/

inductive Rule where
  | visibility
  | names
  | columns
  | fields
  | primaryKey
  | constructor
  | links
  | readers
  | writers
  | fieldAccessors
  | relationAccessors
  deriving DecidableEq

/-- The rules in the order in which they are looked at. -/
def Rule.order : List Rule :=
  [.visibility, .names, .columns, .fields, .primaryKey, .constructor, .links, .readers, .writers,
    .fieldAccessors, .relationAccessors]

inductive BadReader (type : SemanticType) : MethodBody → String → Prop
  | kind {body} (other : ∀ getter, body ≠ .get getter) : BadReader type body "is not a column getter"
  | type {getter : ColumnGetter} (differs : getter.type.semantic ≠ type) :
    BadReader type (.get getter) ("returns " ++ getter.type.semantic.name ++ ", field is " ++ type.name)

inductive BadWriter (type : SemanticType) : MethodBody → String → Prop
  | kind {body} (other : ∀ setter, body ≠ .set setter) : BadWriter type body "is not a column setter"
  | type {setter : ColumnSetter} (differs : setter.type.semantic ≠ type) :
    BadWriter type (.set setter) ("takes " ++ setter.type.semantic.name ++ ", field is " ++ type.name)

inductive FieldFault (m : Model) (f : FieldDeclaration) : String → String → Prop
  | bound {binding} (explicit : f.binding = some binding) (differs : binding.type.semantic ≠ f.semantic) :
    FieldFault m f (accessorName f.name)
      ("bound as " ++ binding.type.semantic.name ++ ", declared as " ++ f.semantic.name)
  | reader {g reason} (unbound : f.binding = none) (reads : m.reader? f.name = some g)
    (bad : BadReader f.semantic g.body reason) : FieldFault m f g.name reason
  | writer {g s reason} (unbound : f.binding = none) (reads : m.reader? f.name = some g)
    (writes : m.writer? f.name = some s) (good : ∀ reason, ¬BadReader f.semantic g.body reason)
    (bad : BadWriter f.semantic s.body reason) : FieldFault m f s.name reason

/-- The accessor of a relation that is at fault, and why: that both are accessors of relations comes
    before what they handle. -/
inductive RelationFault (m : Model) (r : RelationDeclaration) : String → String → Prop
  | reader {g} (unbound : r.binding = none) (reads : m.reader? r.name = some g)
    (other : ∀ getter, g.body ≠ .getRelation getter) :
    RelationFault m r g.name "is not a relation getter"
  | writer {g s getter} (unbound : r.binding = none) (reads : m.reader? r.name = some g)
    (writes : m.writer? r.name = some s) (body : g.body = .getRelation getter)
    (other : ∀ setter, s.body ≠ .setRelation setter) :
    RelationFault m r s.name "is not a relation setter"
  | demand {getter accessor setter mutator demand}
    (access : m.RelationAccess r getter accessor setter mutator)
    (first : First (¬·.met) (r.demands getter accessor setter mutator) demand) :
    RelationFault m r demand.method demand.reason

def unread (m : Model) : List String := m.unboundNames.filter fun name => (m.reader? name).isNone

def unwritten (m : Model) : List String := m.unboundNames.filter fun name => (m.writer? name).isNone

/-- A broken rule and what is reported of it: of several members that break it the first one, except
    where they are all named. -/
inductive Breaks (m : Model) : Rule → Violation → Prop
  | visibility {member} (first : First (·.2 = true) m.members member) :
    m.Breaks .visibility (.nonPrivateField m.qualifiedName member.1)
  | names {name} (again : FirstAgain m.memberNames name) :
    m.Breaks .names (.duplicateField m.qualifiedName name)
  | columns {column} (again : FirstAgain (m.fields.map (·.columnName)) column) :
    m.Breaks .columns (.duplicateColumn m.qualifiedName column)
  | fields (none : m.fields = []) : m.Breaks .fields (.emptyEntity m.qualifiedName)
  | noKey (none : m.fields.filter (·.primaryKey) = []) :
    m.Breaks .primaryKey (.missingPrimaryKey m.qualifiedName)
  | severalKeys (several : 2 ≤ (m.fields.filter (·.primaryKey)).length) :
    m.Breaks .primaryKey
      (.multiplePrimaryKeys m.qualifiedName ((m.fields.filter (·.primaryKey)).map (·.name)))
  | keyType {key} (single : m.fields.filter (·.primaryKey) = [key]) (bad : key.semantic.isKey = false) :
    m.Breaks .primaryKey (.invalidPrimaryKeyType m.qualifiedName key.name key.semantic.name)
  | keyMismatch {key} (single : m.fields.filter (·.primaryKey) = [key])
    (good : key.semantic.isKey = true) (differs : key.semantic ≠ m.keyType.semantic) :
    m.Breaks .primaryKey (.primaryKeyTypeMismatch m.qualifiedName key.name key.semantic.name
      m.keyType.semantic.name)
  | constructor (none : m.initial = none) :
    m.Breaks .constructor (.missingDefaultConstructor m.qualifiedName)
  | noLink {r} (first : First (¬m.Links ·) m.relations r) (none : ∀ f ∈ m.fields, f.name ≠ r.on) :
    m.Breaks .links (.unresolvedLinkField m.qualifiedName r.name r.on)
  | linkType {r f} (first : First (¬m.Links ·) m.relations r) (declared : f ∈ m.fields)
    (named : f.name = r.on) :
    m.Breaks .links (.invalidLinkFieldType m.qualifiedName r.name r.on f.semantic.name)
  | readers (some : m.unread ≠ []) : m.Breaks .readers (.missingAccessor m.qualifiedName m.unread)
  | writers (some : m.unwritten ≠ []) : m.Breaks .writers (.missingMutator m.qualifiedName m.unwritten)
  | fieldAccessors {f method reason}
    (first : First (fun f => ∃ method reason, m.FieldFault f method reason) m.fields f)
    (fault : m.FieldFault f method reason) :
    m.Breaks .fieldAccessors (.accessorTypeMismatch m.qualifiedName f.name method reason)
  | relationAccessors {r method reason}
    (first : First (fun r => ∃ method reason, m.RelationFault r method reason) m.relations r)
    (fault : m.RelationFault r method reason) :
    m.Breaks .relationAccessors (.accessorTypeMismatch m.qualifiedName r.name method reason)

def ReportsOf (m : Model) (rules : List Rule) (v : Violation) : Prop :=
  ∃ rule, First (fun rule => ∃ w, m.Breaks rule w) rules rule ∧ m.Breaks rule v

def Reports (m : Model) (v : Violation) : Prop := m.ReportsOf Rule.order v

variable {m : Model} {v : Violation}

theorem not_reportsOf_nil : ¬m.ReportsOf [] v := by
  rintro ⟨rule, first, _⟩
  exact First.not_nil first

theorem reportsOf_cons {rule : Rule} {rest : List Rule} :
    m.ReportsOf (rule :: rest) v ↔
      m.Breaks rule v ∨ (∀ w, ¬m.Breaks rule w) ∧ m.ReportsOf rest v := by
  constructor
  · rintro ⟨other, first, breaks⟩
    rcases First.cons_iff.mp first with ⟨_, rfl⟩ | ⟨kept, first⟩
    · exact .inl breaks
    · exact .inr ⟨not_exists.mp kept, other, first, breaks⟩
  · rintro (breaks | ⟨kept, other, first, breaks⟩)
    · exact ⟨rule, First.here ⟨v, breaks⟩, breaks⟩
    · exact ⟨other, First.later (not_exists.mpr kept) first, breaks⟩

/-- Where a rule is broken, something is reported, and otherwise nothing. -/
theorem exists_reports_iff : (∃ v, m.Reports v) ↔ ∃ rule v, m.Breaks rule v := by
  constructor
  · rintro ⟨v, rule, _, breaks⟩
    exact ⟨rule, v, breaks⟩
  · rintro ⟨rule, v, breaks⟩
    have listed : rule ∈ Rule.order := by cases rule <;> decide
    obtain ⟨first, found⟩ := First.exists_of_mem (p := fun rule => ∃ w, m.Breaks rule w) listed ⟨v, breaks⟩
    obtain ⟨w, reported⟩ := found.holds
    exact ⟨w, first, found, reported⟩

/-! ## Kept rules -/

theorem field_of_name (apart : m.memberNames.Nodup) {f g : FieldDeclaration} (first : f ∈ m.fields)
    (second : g ∈ m.fields) (named : f.name = g.name) : f = g := by
  have names : (m.fields.map (·.name)).Nodup := (List.nodup_append.mp apart).1
  exact List.inj_on_of_nodup_map names first second named

theorem FieldAccess.of_faultless {f : FieldDeclaration} (sound : ∀ method reason, ¬m.FieldFault f method reason)
    (reads : f.binding = none → ∃ g, m.reader? f.name = some g)
    (writes : f.binding = none → ∃ s, m.writer? f.name = some s) :
    ∃ getter setter, m.FieldAccess f getter setter
      ∧ getter.type.semantic = f.semantic ∧ setter.type.semantic = f.semantic := by
  cases explicit : f.binding with
  | some binding =>
    have same : binding.type.semantic = f.semantic := by
      by_contra differs
      exact sound _ _ (.bound explicit differs)
    exact ⟨_, _, .bound explicit, same, same⟩
  | none =>
    obtain ⟨g, found⟩ := reads explicit
    obtain ⟨s, found'⟩ := writes explicit
    -- A fault of the writing method counts only if the reading one has none.
    have good (reason : String) : ¬BadReader f.semantic g.body reason :=
      fun bad => sound _ _ (.reader explicit found bad)
    have good' (reason : String) : ¬BadWriter f.semantic s.body reason :=
      fun bad => sound _ _ (.writer explicit found found' good bad)
    have body : ∃ getter, g.body = .get getter := by
      by_contra other
      exact good _ (.kind (not_exists.mp other))
    have body' : ∃ setter, s.body = .set setter := by
      by_contra other
      exact good' _ (.kind (not_exists.mp other))
    obtain ⟨getter, body⟩ := body
    obtain ⟨setter, body'⟩ := body'
    refine ⟨getter, setter, .assigned explicit found found' body body', ?_, ?_⟩
    · by_contra differs
      rw [body] at good
      exact good _ (.type differs)
    · by_contra differs
      rw [body'] at good'
      exact good' _ (.type differs)

theorem FieldAccess.faultless {f : FieldDeclaration} {getter : ColumnGetter} {setter : ColumnSetter}
    (access : m.FieldAccess f getter setter) (reads : getter.type.semantic = f.semantic)
    (writes : setter.type.semantic = f.semantic) (method reason : String) :
    ¬m.FieldFault f method reason := by
  intro fault
  cases access with
  | bound explicit =>
    cases fault with
    | bound explicit' differs =>
      rw [explicit] at explicit'
      cases explicit'
      exact differs reads
    | reader unbound => rw [explicit] at unbound; cases unbound
    | writer unbound => rw [explicit] at unbound; cases unbound
  | assigned unbound found found' body body' =>
    cases fault with
    | bound explicit => rw [unbound] at explicit; cases explicit
    | reader _ here bad =>
      rw [found] at here
      cases here
      rw [body] at bad
      cases bad with
      | kind other => exact other _ rfl
      | type differs => exact differs reads
    | writer _ _ here _ bad =>
      rw [found'] at here
      cases here
      rw [body'] at bad
      cases bad with
      | kind other => exact other _ rfl
      | type differs => exact differs writes

theorem RelationAccess.unique {r : RelationDeclaration} {getter getter' : RelationGetter}
    {setter setter' : RelationSetter} {accessor accessor' mutator mutator' : String}
    (access : m.RelationAccess r getter accessor setter mutator)
    (access' : m.RelationAccess r getter' accessor' setter' mutator') :
    getter = getter' ∧ accessor = accessor' ∧ setter = setter' ∧ mutator = mutator' := by
  cases access with
  | bound explicit =>
    cases access' with
    | bound explicit' =>
      rw [explicit] at explicit'
      cases explicit'
      exact ⟨rfl, rfl, rfl, rfl⟩
    | assigned unbound => rw [explicit] at unbound; cases unbound
  | assigned unbound reads writes body body' =>
    cases access' with
    | bound explicit => rw [unbound] at explicit; cases explicit
    | assigned _ reads' writes' other other' =>
      rw [reads] at reads'
      cases reads'
      rw [writes] at writes'
      cases writes'
      rw [body] at other
      cases other
      rw [body'] at other'
      cases other'
      exact ⟨rfl, rfl, rfl, rfl⟩

theorem RelationAccess.of_faultless {r : RelationDeclaration}
    (sound : ∀ method reason, ¬m.RelationFault r method reason)
    (reads : r.binding = none → ∃ g, m.reader? r.name = some g)
    (writes : r.binding = none → ∃ s, m.writer? r.name = some s) :
    ∃ getter accessor setter mutator, m.RelationAccess r getter accessor setter mutator
      ∧ ∀ demand ∈ r.demands getter accessor setter mutator, demand.met := by
  have access : ∃ getter accessor setter mutator, m.RelationAccess r getter accessor setter mutator := by
    cases explicit : r.binding with
    | some binding => exact ⟨_, _, _, _, .bound explicit⟩
    | none =>
      obtain ⟨g, found⟩ := reads explicit
      obtain ⟨s, found'⟩ := writes explicit
      have body : ∃ getter, g.body = .getRelation getter := by
        by_contra other
        exact sound _ _ (.reader explicit found (not_exists.mp other))
      obtain ⟨getter, body⟩ := body
      have body' : ∃ setter, s.body = .setRelation setter := by
        by_contra other
        exact sound _ _ (.writer explicit found found' body (not_exists.mp other))
      obtain ⟨setter, body'⟩ := body'
      exact ⟨_, _, _, _, .assigned explicit found found' body body'⟩
  obtain ⟨getter, accessor, setter, mutator, access⟩ := access
  refine ⟨getter, accessor, setter, mutator, access, fun demand listed => ?_⟩
  -- Of the demands that are not met the first one would be reported.
  by_contra unmet
  obtain ⟨first, found⟩ := First.exists_of_mem (p := (¬·.met)) listed unmet
  exact sound _ _ (.demand access found)

theorem RelationAccess.unmet {r : RelationDeclaration} {getter : RelationGetter} {setter : RelationSetter}
    {accessor mutator method reason : String} (access : m.RelationAccess r getter accessor setter mutator)
    (fault : m.RelationFault r method reason) :
    ∃ demand, First (¬·.met) (r.demands getter accessor setter mutator) demand
      ∧ demand.method = method ∧ demand.reason = reason := by
  -- With both accessors found neither of them can be the fault.
  cases fault with
  | demand access' first =>
    obtain ⟨rfl, rfl, rfl, rfl⟩ := access.unique access'
    exact ⟨_, first, rfl, rfl⟩
  | reader unbound reads other =>
    cases access with
    | bound explicit => rw [explicit] at unbound; cases unbound
    | assigned _ reads' _ body =>
      rw [reads] at reads'
      cases reads'
      exact absurd body (other _)
  | writer unbound reads writes body other =>
    cases access with
    | bound explicit => rw [explicit] at unbound; cases unbound
    | assigned _ _ writes' _ body' =>
      rw [writes] at writes'
      cases writes'
      exact absurd body' (other _)

theorem RelationAccess.faultless {r : RelationDeclaration} {getter : RelationGetter}
    {setter : RelationSetter} {accessor mutator : String}
    (access : m.RelationAccess r getter accessor setter mutator)
    (met : ∀ demand ∈ r.demands getter accessor setter mutator, demand.met) (method reason : String) :
    ¬m.RelationFault r method reason := by
  intro fault
  obtain ⟨demand, first, _⟩ := access.unmet fault
  exact first.holds (met demand first.mem)

/-- The members that need a method are the unbound fields and the unbound relations. -/
theorem mem_unboundNames {name : String} : name ∈ m.unboundNames ↔
    (∃ f ∈ m.fields, f.binding = none ∧ f.name = name)
      ∨ ∃ r ∈ m.relations, r.binding = none ∧ r.name = name := by
  rw [unboundNames, List.mem_append, List.mem_map, List.mem_map]
  simp only [List.mem_filter, Option.isNone_iff_eq_none, and_assoc]

theorem WellFormed.methods (sound : m.WellFormed) {name : String} (listed : name ∈ m.unboundNames) :
    ∃ g s, m.reader? name = some g ∧ m.writer? name = some s := by
  rcases mem_unboundNames.mp listed with ⟨f, declared, unbound, rfl⟩ | ⟨r, declared, unbound, rfl⟩
  · obtain ⟨getter, setter, access, _⟩ := sound.fieldAccessors f declared
    cases access with
    | bound explicit => rw [unbound] at explicit; cases explicit
    | assigned _ reads writes => exact ⟨_, _, reads, writes⟩
  · obtain ⟨getter, accessor, setter, mutator, access, _⟩ := sound.relationAccessors r declared
    cases access with
    | bound explicit => rw [unbound] at explicit; cases explicit
    | assigned _ reads writes => exact ⟨_, _, reads, writes⟩

theorem found_of_none_left {α β : Type} {find : α → Option β} {items : List α}
    (none : items.filter (fun a => (find a).isNone) = []) : ∀ a ∈ items, ∃ b, find a = some b := by
  intro a listed
  have found := List.filter_eq_nil_iff.mp none a listed
  rw [Option.isNone_iff_eq_none] at found
  exact Option.ne_none_iff_exists'.mp found

theorem WellFormed.keeps (sound : m.WellFormed) (rule : Rule) (v : Violation) : ¬m.Breaks rule v := by
  intro breaks
  cases breaks with
  | visibility first =>
    have isPrivate := sound.visibility _ first.mem
    rw [first.holds] at isPrivate
    cases isPrivate
  | names again => exact nodup_iff_not_firstAgain.mp sound.names _ again
  | columns again => exact nodup_iff_not_firstAgain.mp sound.columns _ again
  | fields none => exact sound.fields none
  | noKey none =>
    obtain ⟨key, single, _⟩ := sound.primaryKey
    rw [single] at none
    cases none
  | severalKeys several =>
    obtain ⟨key, single, _⟩ := sound.primaryKey
    rw [single] at several
    simp at several
  -- The rules on the type of the key are about the one key that there is.
  | keyType single bad =>
    obtain ⟨key, single', isKey, _⟩ := sound.primaryKey
    rw [single'] at single
    cases single
    rw [isKey] at bad
    cases bad
  | keyMismatch single _ differs =>
    obtain ⟨key, single', _, same⟩ := sound.primaryKey
    rw [single'] at single
    cases single
    exact differs same
  | constructor none => exact sound.constructor none
  | noLink first => exact first.holds (sound.links _ first.mem)
  | linkType first => exact first.holds (sound.links _ first.mem)
  | readers some =>
    refine some (List.filter_eq_nil_iff.mpr fun name listed => ?_)
    obtain ⟨g, s, reads, _⟩ := sound.methods listed
    simp [reads]
  | writers some =>
    refine some (List.filter_eq_nil_iff.mpr fun name listed => ?_)
    obtain ⟨g, s, _, writes⟩ := sound.methods listed
    simp [writes]
  | fieldAccessors first fault =>
    obtain ⟨getter, setter, access, reads, writes⟩ := sound.fieldAccessors _ first.mem
    exact access.faultless reads writes _ _ fault
  | relationAccessors first fault =>
    obtain ⟨getter, accessor, setter, mutator, access, met⟩ := sound.relationAccessors _ first.mem
    exact access.faultless met _ _ fault

section
variable (kept : ∀ rule v, ¬m.Breaks rule v)
include kept

theorem primaryKey_of_kept : ∃ key, m.fields.filter (·.primaryKey) = [key] ∧ key.semantic.isKey = true
    ∧ key.semantic = m.keyType.semantic := by
  rcases keys : m.fields.filter (·.primaryKey) with _ | ⟨key, _ | ⟨other, rest⟩⟩
  · exact absurd (.noKey keys) (kept _ _)
  · have isKey : key.semantic.isKey = true := by
      by_contra bad
      rw [Bool.not_eq_true] at bad
      exact kept _ _ (.keyType keys bad)
    refine ⟨key, keys, isKey, ?_⟩
    by_contra differs
    exact kept _ _ (.keyMismatch keys isKey differs)
  · have several : 2 ≤ (m.fields.filter (·.primaryKey)).length := by simp [keys]
    exact absurd (.severalKeys several) (kept _ _)

theorem links_of_kept (r : RelationDeclaration) (declared : r ∈ m.relations) : m.Links r := by
  by_contra broken
  -- It is the first broken one that the rules are about.
  obtain ⟨other, first⟩ := First.exists_of_mem (p := (¬m.Links ·)) declared broken
  by_cases named : ∃ f ∈ m.fields, f.name = other.on
  · obtain ⟨f, listed, named⟩ := named
    exact kept _ _ (.linkType first listed named)
  · exact kept _ _ (.noLink first fun f listed same => named ⟨f, listed, same⟩)

theorem methods_of_kept {name : String} (listed : name ∈ m.unboundNames) :
    (∃ g, m.reader? name = some g) ∧ ∃ s, m.writer? name = some s := by
  have read : m.unread = [] := by
    by_contra some
    exact kept _ _ (.readers some)
  have written : m.unwritten = [] := by
    by_contra some
    exact kept _ _ (.writers some)
  exact ⟨found_of_none_left read name listed, found_of_none_left written name listed⟩

theorem WellFormed.of_kept : m.WellFormed where
  visibility member listed := by
    by_contra shown
    rw [Bool.not_eq_false] at shown
    obtain ⟨other, first⟩ := First.exists_of_mem (p := (·.2 = true)) listed shown
    exact kept _ _ (.visibility first)
  names := nodup_iff_not_firstAgain.mpr fun _ again => kept _ _ (.names again)
  columns := nodup_iff_not_firstAgain.mpr fun _ again => kept _ _ (.columns again)
  fields none := kept _ _ (.fields none)
  primaryKey := primaryKey_of_kept kept
  constructor none := kept _ _ (.constructor none)
  links := links_of_kept kept
  fieldAccessors f declared := by
    have methods (unbound : f.binding = none) :=
      methods_of_kept kept (mem_unboundNames.mpr (.inl ⟨f, declared, unbound, rfl⟩))
    refine FieldAccess.of_faultless (fun method reason fault => ?_) (fun unbound => (methods unbound).1)
      fun unbound => (methods unbound).2
    obtain ⟨other, first⟩ := First.exists_of_mem
      (p := fun f => ∃ method reason, m.FieldFault f method reason) declared ⟨method, reason, fault⟩
    obtain ⟨_, _, fault⟩ := first.holds
    exact kept _ _ (.fieldAccessors first fault)
  relationAccessors r declared := by
    have methods (unbound : r.binding = none) :=
      methods_of_kept kept (mem_unboundNames.mpr (.inr ⟨r, declared, unbound, rfl⟩))
    refine RelationAccess.of_faultless (fun method reason fault => ?_)
      (fun unbound => (methods unbound).1) fun unbound => (methods unbound).2
    obtain ⟨other, first⟩ := First.exists_of_mem
      (p := fun r => ∃ method reason, m.RelationFault r method reason) declared ⟨method, reason, fault⟩
    obtain ⟨_, _, fault⟩ := first.holds
    exact kept _ _ (.relationAccessors first fault)

end

/-- A declaration is well formed exactly if it breaks no rule. -/
theorem wellFormed_iff : m.WellFormed ↔ ∀ rule v, ¬m.Breaks rule v := ⟨WellFormed.keeps, .of_kept⟩

end Model

end EntityStore
