import EntityStore.Proofs.Catalog.Rules

/-! # The analysis against the rules

Each check of the analysis fails exactly where its rule is broken, provided that the rules before it
are kept, and reports the violation of the rule:

* `Model.checkVisibility_error` and so on — one check, one rule.
* `MatchState.Shares` — the convention hands each name to a method or leaves it over.
* `Model.analyze_error_iff` — the analysis reports the first rule that is broken.
-/

namespace EntityStore

open EntityStore.Engine (bind_eq_ok)

/-! ## Failures in a row -/

section
variable {ε α β : Type} {e : ε}

/-- The first item that fails, where one comes before others. -/
theorem first_failure_cons {f : α → Except ε β} {γ : Type} {b : α} {rest : List α} {next : β → Except ε γ}
    (others : ∀ c, f b = .ok c → (next c = .error e ↔
      ∃ a, First (fun a => ∃ e, f a = .error e) rest a ∧ f a = .error e)) :
    (f b >>= next) = .error e ↔
      ∃ a, First (fun a => ∃ e, f a = .error e) (b :: rest) a ∧ f a = .error e := by
  simp only [bind_eq_error, First.cons_iff]
  cases head : f b with
  | error e' =>
    constructor
    · rintro (same | ⟨_, done, _⟩)
      · cases same
        exact ⟨b, .inl ⟨⟨e, rfl⟩, rfl⟩, head⟩
      · cases done
    · rintro ⟨a, ⟨_, rfl⟩ | ⟨sound, _⟩, failed⟩
      · exact .inl (head.symm.trans failed)
      · exact absurd ⟨e', rfl⟩ sound
  | ok c =>
    have sound : ¬∃ e, (Except.ok c : Except ε β) = .error e := by
      rintro ⟨_, failed⟩
      cases failed
    simp only [sound, false_and, false_or, not_false_eq_true, true_and]
    simpa using others c head

theorem mapM_eq_error {f : α → Except ε β} {items : List α} : items.mapM f = .error e ↔
    ∃ a, First (fun a => ∃ e, f a = .error e) items a ∧ f a = .error e := by
  induction items with
  | nil =>
    rw [List.mapM_nil]
    constructor
    · nofun
    · rintro ⟨a, first, _⟩
      exact absurd first First.not_nil
  | cons b rest ih =>
    rw [List.mapM_cons]
    refine first_failure_cons fun c _ => ?_
    rw [bind_eq_error, ih]
    simp [pure, Except.pure]

theorem forM_eq_error {f : α → Except ε Unit} {items : List α} : items.forM f = .error e ↔
    ∃ a, First (fun a => ∃ e, f a = .error e) items a ∧ f a = .error e := by
  induction items with
  | nil =>
    constructor
    · nofun
    · rintro ⟨a, first, _⟩
      exact absurd first First.not_nil
  | cons b rest ih => exact first_failure_cons fun _ _ => ih

end

namespace Model

variable {m : Model} {v : Violation}

theorem reportsOf_bind {α β : Type} {check : Except Violation α} {next : α → Except Violation β}
    {rule : Rule} {rest : List Rule} (first : ∀ w, check = .error w ↔ m.Breaks rule w)
    (later : ∀ a, check = .ok a → (∀ w, ¬m.Breaks rule w) → (next a = .error v ↔ m.ReportsOf rest v)) :
    (check >>= next) = .error v ↔ m.ReportsOf (rule :: rest) v := by
  rw [bind_eq_error, reportsOf_cons, first]
  -- A rule that is broken hides those after it; one that is kept leaves the report to them.
  cases done : check with
  | error w =>
    have broken : m.Breaks rule w := (first w).mp done
    constructor
    · rintro (breaks | ⟨_, ok, _⟩)
      · exact .inl breaks
      · cases ok
    · rintro (breaks | ⟨kept, _⟩)
      · exact .inl breaks
      · exact absurd broken (kept w)
  | ok a =>
    have kept (w : Violation) : ¬m.Breaks rule w := by
      rw [← first, done]
      nofun
    have others := later a done kept
    constructor
    · rintro (breaks | ⟨_, ⟨⟩, failed⟩)
      · exact .inl breaks
      · exact .inr ⟨kept, others.mp failed⟩
    · rintro (breaks | ⟨_, reports⟩)
      · exact .inl breaks
      · exact .inr ⟨a, rfl, others.mpr reports⟩

/-! ## The members of a declaration -/

theorem publicNames_eq : m.publicNames = (m.members.filter (·.2)).map (·.1) := by
  rw [publicNames, members, List.filter_append, List.map_append, List.filter_map, List.filter_map,
    List.map_map, List.map_map]
  rfl

theorem checkVisibility_error : m.checkVisibility = .error v ↔ m.Breaks .visibility v := by
  rw [checkVisibility, publicNames_eq]
  constructor
  · intro failed
    rcases shown : m.members.filter (·.2) with _ | ⟨member, rest⟩ <;> rw [shown] at failed
    · cases failed
    · cases failed
      obtain ⟨before, after, split, hidden, isPublic, _⟩ := List.filter_eq_cons_iff.mp shown
      exact .visibility ⟨before, after, split, isPublic, hidden⟩
  · intro breaks
    cases breaks with
    | @visibility member first =>
      obtain ⟨before, after, split, isPublic, hidden⟩ := first
      have shown : m.members.filter (·.2) = member :: after.filter (·.2) :=
        List.filter_eq_cons_iff.mpr ⟨before, after, split, hidden, isPublic, rfl⟩
      rw [shown]
      rfl

theorem checkNames_error : m.checkNames = .error v ↔ m.Breaks .names v := by
  rw [checkNames]
  constructor
  · intro failed
    split at failed
    · cases failed
    · next name again => cases failed; exact .names (firstAgain_iff.mp again)
  · intro breaks
    cases breaks with
    | names again => rw [firstAgain_iff.mpr again]

theorem checkColumns_error : m.checkColumns = .error v ↔ m.Breaks .columns v := by
  rw [checkColumns]
  constructor
  · intro failed
    split at failed
    · cases failed
    · next column again => cases failed; exact .columns (firstAgain_iff.mp again)
  · intro breaks
    cases breaks with
    | columns again => rw [firstAgain_iff.mpr again]

theorem checkNonEmpty_error : m.checkNonEmpty = .error v ↔ m.Breaks .fields v := by
  rw [checkNonEmpty]
  constructor
  · intro failed
    split at failed
    · next none => cases failed; exact .fields (List.isEmpty_iff.mp none)
    · cases failed
  · intro breaks
    cases breaks with
    | fields none => rw [none]; rfl

theorem checkPrimaryKey_error : m.checkPrimaryKey = .error v ↔ m.Breaks .primaryKey v := by
  rw [checkPrimaryKey]
  constructor
  · intro failed
    rcases keys : m.fields.filter (·.primaryKey) with _ | ⟨key, _ | ⟨other, rest⟩⟩ <;> rw [keys] at failed
    · cases failed
      exact .noKey keys
    · dsimp only at failed
      split at failed
      · next bad =>
        cases failed
        exact .keyType keys (by simpa using bad)
      · next good =>
        split at failed
        · next differs =>
          cases failed
          exact .keyMismatch keys (by simpa using good) differs
        · cases failed
    · have several : 2 ≤ (m.fields.filter (·.primaryKey)).length := by simp [keys]
      have breaks := Breaks.severalKeys several
      rw [keys] at breaks
      cases failed
      exact breaks
  · intro breaks
    cases breaks with
    | noKey none => rw [none]
    | keyType single bad => simp [single, bad]
    | keyMismatch single good differs => simp [single, good, differs]
    | severalKeys several =>
      rcases keys : m.fields.filter (·.primaryKey) with _ | ⟨key, _ | ⟨other, rest⟩⟩
      · simp [keys] at several
      · simp [keys] at several
      · rw [keys]

theorem checkConstructor_error : m.checkConstructor = .error v ↔ m.Breaks .constructor v := by
  rw [checkConstructor]
  constructor
  · intro failed
    split at failed
    · cases failed
    · next none => cases failed; exact .constructor none
  · intro breaks
    cases breaks with
    | constructor none => rw [none]

/-! ## Links -/

theorem checkLink_error (apart : m.memberNames.Nodup) {r : RelationDeclaration} :
    m.checkLink r = .error v ↔ ¬m.Links r
      ∧ ((∀ f ∈ m.fields, f.name ≠ r.on) ∧ v = .unresolvedLinkField m.qualifiedName r.name r.on
        ∨ ∃ f ∈ m.fields, f.name = r.on
          ∧ v = .invalidLinkFieldType m.qualifiedName r.name r.on f.semantic.name) := by
  rw [checkLink]
  cases found : m.fields.find? (·.name = r.on) with
  | none =>
    have absent (f : FieldDeclaration) (declared : f ∈ m.fields) : f.name ≠ r.on := by
      simpa using List.find?_eq_none.mp found f declared
    have broken : ¬m.Links r := by
      rintro ⟨f, declared, named, _⟩
      exact absent f declared named
    constructor
    · rintro ⟨⟩
      exact ⟨broken, .inl ⟨absent, rfl⟩⟩
    · rintro ⟨_, ⟨_, rfl⟩ | ⟨f, declared, named, _⟩⟩
      · rfl
      · exact absurd named (absent f declared)
  | some f =>
    have declared : f ∈ m.fields := List.mem_of_find?_eq_some found
    have named : f.name = r.on := by simpa using List.find?_some found
    -- The first field of the name is the only one.
    have only (g : FieldDeclaration) (listed : g ∈ m.fields) (same : g.name = r.on) : g = f :=
      field_of_name apart listed declared (same.trans named.symm)
    dsimp only
    split
    · next isLink =>
      constructor
      · rintro ⟨⟩
      · rintro ⟨broken, _⟩
        exact absurd ⟨f, declared, named, isLink⟩ broken
    · next bad =>
      constructor
      · rintro ⟨⟩
        refine ⟨?_, .inr ⟨f, declared, named, rfl⟩⟩
        rintro ⟨g, listed, same, isLink⟩
        rw [only g listed same] at isLink
        exact bad isLink
      · rintro ⟨_, ⟨absent, _⟩ | ⟨g, listed, same, rfl⟩⟩
        · exact absurd named (absent f declared)
        · rw [only g listed same]

theorem checkLinks_error (apart : m.memberNames.Nodup) :
    m.relations.forM m.checkLink = .error v ↔ m.Breaks .links v := by
  -- The first relation whose check fails is the first one without a link.
  have fails : (fun r => ∃ w, m.checkLink r = .error w) = (¬m.Links ·) := by
    ext r
    simp only [checkLink_error apart]
    constructor
    · rintro ⟨_, broken, _⟩
      exact broken
    · intro broken
      by_cases named : ∃ f ∈ m.fields, f.name = r.on
      · obtain ⟨f, declared, named⟩ := named
        exact ⟨_, broken, .inr ⟨f, declared, named, rfl⟩⟩
      · exact ⟨_, broken, .inl ⟨fun f declared same => named ⟨f, declared, same⟩, rfl⟩⟩
  rw [forM_eq_error, fails]
  simp only [checkLink_error apart]
  constructor
  · rintro ⟨r, first, _, ⟨absent, rfl⟩ | ⟨f, declared, named, rfl⟩⟩
    · exact .noLink first absent
    · exact .linkType first declared named
  · intro breaks
    cases breaks with
    | noLink first absent => exact ⟨_, first, first.holds, .inl ⟨absent, rfl⟩⟩
    | linkType first declared named => exact ⟨_, first, first.holds, .inr ⟨_, declared, named, rfl⟩⟩

end Model

/-! ## The naming convention -/

def Shared (names wanted : List String) (taken : List (String × Nat)) (position : Nat) : Prop :=
  ∀ name ∈ names, name ∈ wanted ∧ taken.lookup name = none
    ∨ name ∉ wanted ∧ ∃ i < position, taken.lookup name = some i

namespace Shared

variable {names wanted : List String} {taken : List (String × Nat)} {position : Nat}

theorem start (names : List String) : Shared names names [] 0 :=
  fun _ listed => .inl ⟨listed, rfl⟩

theorem mono (shared : Shared names wanted taken position) : Shared names wanted taken (position + 1) := by
  intro name listed
  rcases shared name listed with waiting | ⟨gone, i, before, found⟩
  · exact .inl waiting
  · exact .inr ⟨gone, i, Nat.lt_succ_of_lt before, found⟩

/-- The method at a position takes a name that is still wanted. -/
theorem take (shared : Shared names wanted taken position) {field : String} (here : field ∈ wanted) :
    Shared names (wanted.filter (· ≠ field)) (taken ++ [(field, position)]) (position + 1) := by
  intro name listed
  rw [List.lookup_append]
  by_cases same : name = field
  · subst same
    rcases shared name listed with ⟨_, absent⟩ | ⟨gone, _⟩
    · refine .inr ⟨by simp, position, Nat.lt_succ_self _, ?_⟩
      rw [absent]
      simp
    · exact absurd here gone
  · have differs : (name == field) = false := by simpa using same
    have other : [(field, position)].lookup name = none := by simp [List.lookup_cons, differs]
    rw [other, Option.or_none]
    rcases shared name listed with ⟨waiting, absent⟩ | ⟨gone, i, before, found⟩
    · exact .inl ⟨by simp [waiting, same], absent⟩
    · exact .inr ⟨by simp [gone], i, Nat.lt_succ_of_lt before, found⟩

end Shared

theorem MatchState.step_shared {s : MatchState} {names names' : List String} {position : Nat}
    (reads : Shared names s.wantedGetters s.getters position)
    (writes : Shared names' s.wantedSetters s.setters position) (method : String × Bool) :
    Shared names (s.step method position).wantedGetters (s.step method position).getters (position + 1)
      ∧ Shared names' (s.step method position).wantedSetters (s.step method position).setters
        (position + 1) := by
  rw [MatchState.step]
  split
  · exact ⟨reads.mono, writes.mono⟩
  · split
    · next field found =>
      have here : field ∈ s.wantedGetters := by simpa using List.find?_some found
      exact ⟨reads.take here, writes.mono⟩
    · split
      · next field found =>
        have here : field ∈ s.wantedSetters := by simpa using List.find?_some found
        exact ⟨reads.mono, writes.take here⟩
      · exact ⟨reads.mono, writes.mono⟩

theorem MatchState.run_shared {s : MatchState} {names names' : List String} {position : Nat}
    (reads : Shared names s.wantedGetters s.getters position)
    (writes : Shared names' s.wantedSetters s.setters position) (methods : List (String × Bool)) :
    Shared names (s.run position methods).wantedGetters (s.run position methods).getters
        (position + methods.length)
      ∧ Shared names' (s.run position methods).wantedSetters (s.run position methods).setters
        (position + methods.length) := by
  induction methods generalizing s position with
  | nil => exact ⟨reads, writes⟩
  | cons method rest ih =>
    obtain ⟨reads, writes⟩ := MatchState.step_shared reads writes method
    have later := ih reads writes
    rw [Nat.add_right_comm, Nat.add_assoc] at later
    exact later

namespace Model

variable {m : Model} {v : Violation}

/-- A name is left over exactly if no method is found for it. -/
theorem wanted_iff {names wanted : List String} {taken : List (String × Nat)}
    (shared : Shared names wanted taken m.methods.length) {name : String} (listed : name ∈ names) :
    wanted.contains name = ((taken.lookup name).bind fun i => m.methods[i]?).isNone := by
  rcases shared name listed with ⟨waiting, absent⟩ | ⟨gone, i, before, found⟩
  · rw [absent]
    simpa using waiting
  · rw [found]
    simpa [before] using gone

theorem missing_eq : m.accessorMatch.missingGetters = m.unread
    ∧ m.accessorMatch.missingSetters = m.unwritten := by
  obtain ⟨reads, writes⟩ := MatchState.run_shared (s := ⟨m.unboundNames, m.unboundNames, [], []⟩)
    (Shared.start m.unboundNames) (Shared.start m.unboundNames)
    (m.methods.map fun d => (d.name, d.isStatic))
  rw [Nat.zero_add, List.length_map] at reads writes
  exact ⟨List.filter_congr fun _ listed => wanted_iff reads listed,
    List.filter_congr fun _ listed => wanted_iff writes listed⟩

/-! ## Accessors -/

theorem columnGetter_error {f : FieldDeclaration} {d : MethodDeclaration} :
    m.columnGetter f d = .error v ↔
      ∃ reason, BadReader f.semantic d.body reason ∧ v = m.mismatch f.name d.name reason := by
  rw [columnGetter]
  constructor
  · intro failed
    split at failed
    · next getter body =>
      split at failed
      · cases failed
      · next differs =>
        cases failed
        exact ⟨_, by rw [body]; exact .type differs, rfl⟩
    · next other =>
      cases failed
      exact ⟨_, .kind fun getter same => other getter same, rfl⟩
  · rintro ⟨reason, bad, rfl⟩
    revert bad
    cases d.body with
    | get getter =>
      intro bad
      cases bad with
      | kind other => exact absurd rfl (other getter)
      | type differs => exact if_neg differs
    | set _ => rintro ⟨⟩; rfl
    | getRelation _ => rintro ⟨⟩; rfl
    | setRelation _ => rintro ⟨⟩; rfl

theorem columnSetter_error {f : FieldDeclaration} {d : MethodDeclaration} :
    m.columnSetter f d = .error v ↔
      ∃ reason, BadWriter f.semantic d.body reason ∧ v = m.mismatch f.name d.name reason := by
  rw [columnSetter]
  constructor
  · intro failed
    split at failed
    · next setter body =>
      split at failed
      · cases failed
      · next differs =>
        cases failed
        exact ⟨_, by rw [body]; exact .type differs, rfl⟩
    · next other =>
      cases failed
      exact ⟨_, .kind fun setter same => other setter same, rfl⟩
  · rintro ⟨reason, bad, rfl⟩
    revert bad
    cases d.body with
    | set setter =>
      intro bad
      cases bad with
      | kind other => exact absurd rfl (other setter)
      | type differs => exact if_neg differs
    | get _ => rintro ⟨⟩; rfl
    | getRelation _ => rintro ⟨⟩; rfl
    | setRelation _ => rintro ⟨⟩; rfl

/-- A binding that is given is at fault where the methods work on values of two types. -/
theorem bindField_bound_error {f : FieldDeclaration} {binding : ColumnBinding}
    (explicit : f.binding = some binding) :
    m.bindField m.accessorMatch f = .error v ↔
      ∃ method reason, m.FieldFault f method reason ∧ v = m.mismatch f.name method reason := by
  rw [bindField, explicit]
  dsimp only
  split
  · next same =>
    constructor
    · rintro ⟨⟩
    · rintro ⟨method, reason, fault, _⟩
      exact absurd fault ((FieldAccess.bound explicit).faultless same same _ _)
  · next differs =>
    constructor
    · rintro ⟨⟩
      exact ⟨_, _, .bound explicit differs, rfl⟩
    · rintro ⟨method, reason, fault, rfl⟩
      cases fault with
      | bound explicit' =>
        rw [explicit] at explicit'
        cases explicit'
        rfl
      | reader unbound => rw [explicit] at unbound; cases unbound
      | writer unbound => rw [explicit] at unbound; cases unbound

/-- Methods that the convention has found are looked at one after the other. -/
theorem bindField_found_error {f : FieldDeclaration} {g s : MethodDeclaration}
    (unbound : f.binding = none) (found : m.reader? f.name = some g)
    (found' : m.writer? f.name = some s) :
    m.bindField m.accessorMatch f = .error v ↔
      ∃ method reason, m.FieldFault f method reason ∧ v = m.mismatch f.name method reason := by
  have getter : m.getterOf? m.accessorMatch f.name = some g := found
  have setter : m.setterOf? m.accessorMatch f.name = some s := found'
  rw [bindField, unbound, getter, setter]
  dsimp only
  -- The method that writes is looked at only if there is nothing wrong with the one that reads.
  rw [bind_eq_error, columnGetter_error]
  simp only [bind_eq_error, columnSetter_error]
  constructor
  · rintro (⟨reason, bad, rfl⟩ | ⟨getter, reads, ⟨reason, bad, rfl⟩ | ⟨_, _, done⟩⟩)
    · exact ⟨_, _, .reader unbound found bad, rfl⟩
    · refine ⟨_, _, .writer unbound found found' (fun reason bad => ?_) bad, rfl⟩
      have failed := (columnGetter_error (m := m)).mpr ⟨reason, bad, rfl⟩
      rw [reads] at failed
      cases failed
    · cases done
  · rintro ⟨method, reason, fault, rfl⟩
    cases fault with
    | bound explicit => rw [unbound] at explicit; cases explicit
    | reader _ here bad =>
      rw [found] at here
      cases here
      exact .inl ⟨_, bad, rfl⟩
    | writer _ here here' good bad =>
      rw [found] at here
      cases here
      rw [found'] at here'
      cases here'
      cases reads : m.columnGetter f g with
      | error w =>
        obtain ⟨reason, bad, _⟩ := columnGetter_error.mp reads
        exact absurd bad (good reason)
      | ok getter => exact .inr ⟨getter, rfl, .inl ⟨_, bad, rfl⟩⟩

theorem bindField_error {f : FieldDeclaration} (reads : f.binding = none → ∃ g, m.reader? f.name = some g)
    (writes : f.binding = none → ∃ s, m.writer? f.name = some s) :
    m.bindField m.accessorMatch f = .error v ↔
      ∃ method reason, m.FieldFault f method reason ∧ v = m.mismatch f.name method reason := by
  cases explicit : f.binding with
  | some binding => exact bindField_bound_error explicit
  | none =>
    obtain ⟨g, found⟩ := reads explicit
    obtain ⟨s, found'⟩ := writes explicit
    exact bindField_found_error explicit found found'

theorem checkRelationAccessors_error {r : RelationDeclaration} {getter : RelationGetter}
    {setter : RelationSetter} {accessor mutator : String} :
    m.checkRelationAccessors r getter accessor setter mutator = .error v ↔
      ∃ demand, First (¬·.met) (r.demands getter accessor setter mutator) demand
        ∧ v = m.mismatch r.name demand.method demand.reason := by
  simp only [checkRelationAccessors, RelationDeclaration.demands, First.cons_iff, First.not_nil]
  by_cases shape : getter.shape = r.cardinality.shape
  · by_cases shape' : setter.shape = r.cardinality.shape
    · by_cases target : getter.target = r.target
      · by_cases target' : setter.target = r.target
        · simp [shape, shape', target, target']
        · simp [shape, shape', target, target', eq_comm]
      · simp [shape, shape', target, eq_comm]
    · simp [shape, shape', eq_comm]
  · simp [shape, eq_comm]

theorem relationGetter_eq_ok {r : RelationDeclaration} {d : MethodDeclaration} {getter : RelationGetter} :
    m.relationGetter r d = .ok getter ↔ d.body = .getRelation getter := by
  rw [relationGetter]
  cases d.body <;> simp

theorem relationGetter_error {r : RelationDeclaration} {d : MethodDeclaration} :
    m.relationGetter r d = .error v ↔ (∀ getter, d.body ≠ .getRelation getter)
      ∧ v = m.mismatch r.name d.name "is not a relation getter" := by
  rw [relationGetter]
  cases d.body <;> simp [eq_comm]

theorem relationSetter_eq_ok {r : RelationDeclaration} {d : MethodDeclaration} {setter : RelationSetter} :
    m.relationSetter r d = .ok setter ↔ d.body = .setRelation setter := by
  rw [relationSetter]
  cases d.body <;> simp

theorem relationSetter_error {r : RelationDeclaration} {d : MethodDeclaration} :
    m.relationSetter r d = .error v ↔ (∀ setter, d.body ≠ .setRelation setter)
      ∧ v = m.mismatch r.name d.name "is not a relation setter" := by
  rw [relationSetter]
  cases d.body <;> simp [eq_comm]

theorem relationAccessors_eq_ok {r : RelationDeclaration} {getter : RelationGetter} {setter : RelationSetter}
    {accessor mutator : String} :
    m.relationAccessors m.accessorMatch r = .ok (getter, accessor, setter, mutator) ↔
      m.RelationAccess r getter accessor setter mutator := by
  rw [relationAccessors]
  constructor
  · intro done
    split at done
    · next explicit => cases done; exact .bound explicit
    · next unbound =>
      split at done
      · next g s found found' =>
        obtain ⟨_, reads, done⟩ := bind_eq_ok done
        obtain ⟨_, writes, done⟩ := bind_eq_ok done
        cases done
        exact .assigned unbound found found' (relationGetter_eq_ok.mp reads) (relationSetter_eq_ok.mp writes)
      · cases done
      · cases done
  · intro access
    cases access with
    | bound explicit => rw [explicit]
    | @assigned g s _ _ unbound found found' body body' =>
      have reads : m.getterOf? m.accessorMatch r.name = some g := found
      have writes : m.setterOf? m.accessorMatch r.name = some s := found'
      rw [unbound, reads, writes]
      dsimp only
      rw [relationGetter_eq_ok.mpr body, relationSetter_eq_ok.mpr body']
      rfl

/-- What looking for the accessors of a relation says, where the convention has found methods. -/
theorem relationAccessors_error {r : RelationDeclaration}
    (reads : r.binding = none → ∃ g, m.reader? r.name = some g)
    (writes : r.binding = none → ∃ s, m.writer? r.name = some s) :
    m.relationAccessors m.accessorMatch r = .error v ↔
      (∀ getter accessor setter mutator, ¬m.RelationAccess r getter accessor setter mutator)
        ∧ ∃ method reason, m.RelationFault r method reason ∧ v = m.mismatch r.name method reason := by
  constructor
  · intro failed
    refine ⟨fun getter accessor setter mutator access => ?_, ?_⟩
    · rw [relationAccessors_eq_ok.mpr access] at failed
      cases failed
    · rw [relationAccessors] at failed
      split at failed
      · cases failed
      · next unbound =>
        split at failed
        · next g s found found' =>
          rcases bind_eq_error.mp failed with first | ⟨getter, reads, failed⟩
          · obtain ⟨other, rfl⟩ := relationGetter_error.mp first
            exact ⟨_, _, .reader unbound found other, rfl⟩
          · rcases bind_eq_error.mp failed with second | ⟨setter, _, done⟩
            · obtain ⟨other, rfl⟩ := relationSetter_error.mp second
              exact ⟨_, _, .writer unbound found found' (relationGetter_eq_ok.mp reads) other, rfl⟩
            · cases done
        · next absent =>
          obtain ⟨g, found⟩ := reads unbound
          rw [reader?, absent] at found
          cases found
        · next absent _ =>
          obtain ⟨s, found⟩ := writes unbound
          rw [writer?, absent] at found
          cases found
  · rintro ⟨none, method, reason, fault, rfl⟩
    -- What is asked of accessors needs both of them, and here they have not been found.
    cases fault with
    | demand access => exact absurd access (none _ _ _ _)
    | @reader g unbound found other =>
      obtain ⟨s, found'⟩ := writes unbound
      have getter : m.getterOf? m.accessorMatch r.name = some g := found
      have setter : m.setterOf? m.accessorMatch r.name = some s := found'
      rw [relationAccessors, unbound, getter, setter]
      exact bind_eq_error.mpr (.inl (relationGetter_error.mpr ⟨other, rfl⟩))
    | @writer g s _ unbound found found' body other =>
      have getter : m.getterOf? m.accessorMatch r.name = some g := found
      have setter : m.setterOf? m.accessorMatch r.name = some s := found'
      rw [relationAccessors, unbound, getter, setter]
      exact bind_eq_error.mpr (.inr ⟨_, relationGetter_eq_ok.mpr body,
        bind_eq_error.mpr (.inl (relationSetter_error.mpr ⟨other, rfl⟩))⟩)

theorem bindRelation_error {columns : List (FieldSpec × Column)} {r : RelationDeclaration}
    (linked : ∃ f ∈ m.fields, f.name = r.on)
    (named : columns.map (·.1.name) = m.fields.map (·.name))
    (reads : r.binding = none → ∃ g, m.reader? r.name = some g)
    (writes : r.binding = none → ∃ s, m.writer? r.name = some s) :
    m.bindRelation m.accessorMatch columns r = .error v ↔
      ∃ method reason, m.RelationFault r method reason ∧ v = m.mismatch r.name method reason := by
  obtain ⟨f, declared, same⟩ := linked
  have listed : r.on ∈ columns.map (·.1.name) := by
    rw [named, ← same]
    exact List.mem_map_of_mem declared
  obtain ⟨pair, member, same⟩ := List.mem_map.mp listed
  -- The rule about links is kept, so the link column is found.
  have located : (columns.find? (·.1.name = r.on)).isSome := by
    rw [List.find?_isSome]
    exact ⟨pair, member, decide_eq_true same⟩
  obtain ⟨⟨link, column⟩, located⟩ := Option.isSome_iff_exists.mp located
  rw [bindRelation, located]
  dsimp only
  rw [bind_eq_error, relationAccessors_error reads writes]
  constructor
  · rintro (⟨_, fault⟩ | ⟨⟨getter, accessor, setter, mutator⟩, found, failed⟩)
    · exact fault
    · rcases bind_eq_error.mp failed with unmet | ⟨_, _, done⟩
      · obtain ⟨demand, first, rfl⟩ := checkRelationAccessors_error.mp unmet
        exact ⟨_, _, .demand (relationAccessors_eq_ok.mp found) first, rfl⟩
      · cases done
  · rintro ⟨method, reason, fault, rfl⟩
    -- What is asked of the accessors is looked at only when both are found.
    by_cases access : ∃ getter accessor setter mutator, m.RelationAccess r getter accessor setter mutator
    · obtain ⟨getter, accessor, setter, mutator, access⟩ := access
      refine .inr ⟨(getter, accessor, setter, mutator), relationAccessors_eq_ok.mpr access, ?_⟩
      obtain ⟨demand, first, rfl, rfl⟩ := access.unmet fault
      exact bind_eq_error.mpr (.inl (checkRelationAccessors_error.mpr ⟨demand, first, rfl⟩))
    · simp only [not_exists] at access
      exact .inl ⟨access, method, reason, fault, rfl⟩

/-! ## The whole analysis -/

/-- A traversal of members reports the fault of the first one that has a fault. -/
theorem mapM_fault {α β : Type} {check : α → Except Violation β} {items : List α}
    {fault : α → String → String → Prop} {name : α → String}
    (each : ∀ a ∈ items, ∀ w, check a = .error w ↔
      ∃ method reason, fault a method reason ∧ w = m.mismatch (name a) method reason) :
    items.mapM check = .error v ↔ ∃ a method reason,
      First (fun a => ∃ method reason, fault a method reason) items a
        ∧ fault a method reason ∧ v = m.mismatch (name a) method reason := by
  have fails (a : α) (listed : a ∈ items) :
      (∃ w, check a = .error w) ↔ ∃ method reason, fault a method reason := by
    simp only [each a listed]
    constructor
    · rintro ⟨_, method, reason, faulty, _⟩
      exact ⟨method, reason, faulty⟩
    · rintro ⟨method, reason, faulty⟩
      exact ⟨_, method, reason, faulty, rfl⟩
  rw [mapM_eq_error]
  constructor
  · rintro ⟨a, first, failed⟩
    obtain ⟨method, reason, faulty, same⟩ := (each a first.mem v).mp failed
    exact ⟨a, method, reason, first.congr fails, faulty, same⟩
  · rintro ⟨a, method, reason, first, faulty, same⟩
    exact ⟨a, first.congr fun b listed => (fails b listed).symm,
      (each a first.mem v).mpr ⟨method, reason, faulty, same⟩⟩

section
variable (read : m.unread = []) (written : m.unwritten = [])
include read written

theorem bindFields_error :
    m.fields.mapM (m.bindField m.accessorMatch) = .error v ↔ m.Breaks .fieldAccessors v := by
  have each (f : FieldDeclaration) (declared : f ∈ m.fields) (w : Violation) :
      m.bindField m.accessorMatch f = .error w ↔
        ∃ method reason, m.FieldFault f method reason ∧ w = m.mismatch f.name method reason := by
    have needed (unbound : f.binding = none) : f.name ∈ m.unboundNames :=
      mem_unboundNames.mpr (.inl ⟨f, declared, unbound, rfl⟩)
    exact bindField_error (fun unbound => found_of_none_left read _ (needed unbound))
      (fun unbound => found_of_none_left written _ (needed unbound))
  rw [mapM_fault each]
  constructor
  · rintro ⟨f, method, reason, first, fault, rfl⟩
    exact .fieldAccessors first fault
  · intro breaks
    cases breaks with
    | fieldAccessors first fault => exact ⟨_, _, _, first, fault, rfl⟩

theorem bindRelations_error {columns : List (FieldSpec × Column)}
    (named : columns.map (·.1.name) = m.fields.map (·.name)) (linked : ∀ r ∈ m.relations, m.Links r) :
    m.relations.mapM (m.bindRelation m.accessorMatch columns) = .error v ↔
      m.Breaks .relationAccessors v := by
  have each (r : RelationDeclaration) (declared : r ∈ m.relations) (w : Violation) :
      m.bindRelation m.accessorMatch columns r = .error w ↔
        ∃ method reason, m.RelationFault r method reason ∧ w = m.mismatch r.name method reason := by
    have needed (unbound : r.binding = none) : r.name ∈ m.unboundNames :=
      mem_unboundNames.mpr (.inr ⟨r, declared, unbound, rfl⟩)
    obtain ⟨f, link, same, _⟩ := linked r declared
    exact bindRelation_error ⟨f, link, same⟩ named
      (fun unbound => found_of_none_left read _ (needed unbound))
      (fun unbound => found_of_none_left written _ (needed unbound))
  rw [mapM_fault each]
  constructor
  · rintro ⟨r, method, reason, first, fault, rfl⟩
    exact .relationAccessors first fault
  · intro breaks
    cases breaks with
    | relationAccessors first fault => exact ⟨_, _, _, first, fault, rfl⟩

end

/-- Names left over are reported before what reports the later rules. -/
theorem reportsOf_if {α : Type} {names : List String} {w : Violation} {refused next : Except Violation α}
    {rule : Rule} {rest : List Rule} (reported : refused = .error w)
    (broken : ∀ v, m.Breaks rule v ↔ names ≠ [] ∧ v = w)
    (later : names = [] → (next = .error v ↔ m.ReportsOf rest v)) :
    (if (!names.isEmpty) = true then refused else next) = .error v ↔ m.ReportsOf (rule :: rest) v := by
  rw [reportsOf_cons]
  by_cases none : names = []
  · have kept (w : Violation) : ¬m.Breaks rule w := fun breaks => ((broken w).mp breaks).1 none
    rw [if_neg (by simp [none]), later none]
    constructor
    · intro reports
      exact .inr ⟨kept, reports⟩
    · rintro (breaks | ⟨_, reports⟩)
      · exact absurd breaks (kept v)
      · exact reports
  · rw [if_pos (by simp [none]), reported]
    constructor
    · rintro ⟨⟩
      exact .inl ((broken _).mpr ⟨none, rfl⟩)
    · rintro (breaks | ⟨kept, _⟩)
      · rw [((broken v).mp breaks).2]
      · exact absurd ((broken w).mpr ⟨none, rfl⟩) (kept w)

theorem breaks_readers_iff :
    m.Breaks .readers v ↔ m.unread ≠ [] ∧ v = .missingAccessor m.qualifiedName m.unread := by
  constructor
  · intro breaks
    cases breaks with
    | readers some => exact ⟨some, rfl⟩
  · rintro ⟨some, rfl⟩
    exact .readers some

theorem breaks_writers_iff :
    m.Breaks .writers v ↔ m.unwritten ≠ [] ∧ v = .missingMutator m.qualifiedName m.unwritten := by
  constructor
  · intro breaks
    cases breaks with
    | writers some => exact ⟨some, rfl⟩
  · rintro ⟨some, rfl⟩
    exact .writers some

theorem analyze_error_iff : m.analyze = .error v ↔ m.Reports v := by
  rw [analyze, checkDeclaration, Reports, Rule.order]
  simp only [bind_assoc]
  -- Rule by rule: a later check may rely on what the earlier ones have let through.
  refine reportsOf_bind (fun _ => checkVisibility_error) fun _ _ _ => ?_
  refine reportsOf_bind (fun _ => checkNames_error) fun _ _ apart => ?_
  have apart : m.memberNames.Nodup := nodup_iff_not_firstAgain.mpr fun _ again => apart _ (.names again)
  refine reportsOf_bind (fun _ => checkColumns_error) fun _ _ _ => ?_
  refine reportsOf_bind (fun _ => checkNonEmpty_error) fun _ _ _ => ?_
  refine reportsOf_bind (fun _ => checkPrimaryKey_error) fun _ _ _ => ?_
  refine reportsOf_bind (fun _ => checkConstructor_error) fun _ _ constructed => ?_
  refine reportsOf_bind (fun _ => checkLinks_error apart) fun _ linked _ => ?_
  have linked (r : RelationDeclaration) (declared : r ∈ m.relations) : m.Links r := by
    obtain ⟨f, found, isLink⟩ := checkLink_ok (forM_ok linked r declared)
    exact ⟨f, List.mem_of_find?_eq_some found, by simpa using List.find?_some found, isLink⟩
  rw [missing_eq.1, missing_eq.2]
  refine reportsOf_if rfl (fun _ => breaks_readers_iff) fun read => ?_
  refine reportsOf_if rfl (fun _ => breaks_writers_iff) fun written => ?_
  refine reportsOf_bind (fun _ => bindFields_error read written) fun columns bound _ => ?_
  have named : columns.map (·.1.name) = m.fields.map (·.name) := by
    refine (map_eq_of_forall₂ ((forall₂_of_mapM bound).imp fun f pair binds => ?_)).symm
    exact (bindField_ok binds).1.symm
  refine reportsOf_bind (fun _ => bindRelations_error read written named linked) fun _ _ _ => ?_
  cases initial : m.initial with
  | none => exact absurd (.constructor initial) (constructed _)
  | some record =>
    constructor
    · rintro ⟨⟩
    · intro reports
      exact absurd reports not_reportsOf_nil

theorem analyze_ok_iff : (∃ a, m.analyze = .ok a) ↔ m.WellFormed := by
  rw [wellFormed_iff]
  have reported : (∃ v, m.analyze = .error v) ↔ ∃ rule v, m.Breaks rule v := by
    simp only [analyze_error_iff]
    exact exists_reports_iff
  constructor
  · rintro ⟨a, done⟩ rule v breaks
    obtain ⟨w, failed⟩ := reported.mpr ⟨rule, v, breaks⟩
    rw [done] at failed
    cases failed
  · intro kept
    cases done : m.analyze with
    | ok a => exact ⟨a, rfl⟩
    | error v =>
      obtain ⟨rule, w, breaks⟩ := reported.mp ⟨v, done⟩
      exact absurd breaks (kept rule w)

end Model

end EntityStore
