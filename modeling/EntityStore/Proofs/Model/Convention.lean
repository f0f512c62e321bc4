import Mathlib.Data.List.Nodup
import EntityStore.Model.Convention

/-! # First come, first served

Methods that are matched to fields by their names:

* `ahead` — the candidates of a method that come before a field.
* `FirstCome` — an assignment in which no method has passed over a field for a later candidate, and
  no field has been left to a later method.
* `FirstCome.skip`, `FirstCome.take` — what one more method does to such an assignment.
* `FirstCome.unique` — there is only one of them.
* `matchAccessors_firstCome` — accessors are matched to fields in just this way.
-/

namespace EntityStore

variable {candidates : String → List String} {methods : List (String × Bool)}
  {expected missing fields : List String} {assigned : List (String × Nat)} {f g : String} {i j : Nat}

/-! ## Candidates -/

/-- The candidates that come before a field. -/
def ahead (fields : List String) (f : String) : List String := fields.takeWhile (· ≠ f)

theorem ahead_append {before after : List String} (apart : f ∉ before) :
    ahead (before ++ f :: after) f = before := by
  rw [ahead, List.takeWhile_append_of_pos, List.takeWhile_cons_of_neg, List.append_nil]
  · simp
  · intro c member
    exact decide_eq_true fun same => apart (same ▸ member)

section
variable {wanted : String → Bool} (found : fields.find? wanted = some f)
include found

/-- Nothing that comes before the first wanted candidate is wanted. -/
theorem unwanted_of_find? (member : g ∈ ahead fields f) : wanted g = false := by
  obtain ⟨isWanted, before, after, rfl, passed⟩ := List.find?_eq_some_iff_append.mp found
  have apart : f ∉ before := fun listed => by simpa [isWanted] using passed f listed
  rw [ahead_append apart] at member
  simpa using passed g member

/-- The first wanted candidate comes before all others that are wanted. -/
theorem mem_ahead_of_find? (other : g ≠ f) (isWanted : wanted g = true) : f ∈ ahead fields g := by
  obtain ⟨_, before, after, rfl, passed⟩ := List.find?_eq_some_iff_append.mp found
  have apart : ∀ c ∈ before, decide (c ≠ g) = true := by
    intro c member
    refine decide_eq_true fun same => ?_
    simpa [same, isWanted] using passed c member
  rw [ahead, List.takeWhile_append_of_pos apart, List.takeWhile_cons, if_pos (decide_eq_true other.symm)]
  exact List.mem_append_right _ (List.mem_cons_self ..)

end

/-! ## Assignments -/

/-- The method at a position has no need of a field: if the field is among its candidates, it has
    one that comes before. -/
def Forgoes (candidates : String → List String) (methods : List (String × Bool))
    (assigned : List (String × Nat)) (j : Nat) (f : String) : Prop :=
  ∀ name, methods[j]? = some (name, false) → f ∈ candidates name →
    ∃ g ∈ ahead (candidates name) f, (g, j) ∈ assigned

/-- The fields that methods have come to, by position, and those that are missing. -/
structure FirstCome (candidates : String → List String) (methods : List (String × Bool))
    (expected : List String) (assigned : List (String × Nat)) (missing : List String) : Prop where
  missing_eq : missing = expected.filter fun f => f ∉ assigned.map (·.1)
  /-- No field is assigned twice. -/
  fields : (assigned.map (·.1)).Nodup
  positions : assigned.Pairwise fun a b => a.2 < b.2
  /-- A field is a candidate of its method, which is not static, and every candidate ahead of it is
      not expected or has gone to an earlier method. -/
  chosen : ∀ f i, (f, i) ∈ assigned → f ∈ expected ∧ ∃ name, methods[i]? = some (name, false)
    ∧ f ∈ candidates name
    ∧ ∀ c ∈ ahead (candidates name) f, c ∉ expected ∨ ∃ j < i, (c, j) ∈ assigned
  earlier : ∀ f i, (f, i) ∈ assigned → ∀ j < i, Forgoes candidates methods assigned j f
  /-- No method at all has need of a field that is missing. -/
  maximal : ∀ f ∈ missing, ∀ j, Forgoes candidates methods assigned j f

namespace FirstCome

theorem start : FirstCome candidates [] expected [] expected where
  missing_eq := by simp
  fields := .nil
  positions := .nil
  chosen := nofun
  earlier := nofun
  maximal _ _ _ _ here := by cases here

section
variable (come : FirstCome candidates methods expected assigned missing)
include come

theorem mem_missing : f ∈ missing ↔ f ∈ expected ∧ ∀ i, (f, i) ∉ assigned := by
  rw [come.missing_eq, List.mem_filter, decide_eq_true_eq]
  simp

theorem position_unique (first : (f, i) ∈ assigned) (second : (f, j) ∈ assigned) : i = j := by
  have same := List.inj_on_of_nodup_map come.fields first second rfl
  exact congrArg Prod.snd same

theorem position_lt (member : (f, i) ∈ assigned) : i < methods.length := by
  obtain ⟨_, name, here, _⟩ := come.chosen f i member
  exact (List.getElem?_eq_some_iff.mp here).1

/-- What is missing is what is still wanted of the expected fields. -/
theorem filter_missing : (expected.filter fun f => missing.contains f) = missing := by
  conv => rhs; rw [come.missing_eq]
  refine List.filter_congr fun f listed => ?_
  rw [Bool.eq_iff_iff, List.contains_iff_mem, come.mem_missing, decide_eq_true_eq]
  simp [listed]

/-! ## One more method -/

omit come in
theorem forgoes_append (more : List (String × Nat)) (method : String × Bool) (old : j < methods.length)
    (forgoes : Forgoes candidates methods assigned j f) :
    Forgoes candidates (methods ++ [method]) (assigned ++ more) j f := by
  intro name here candidate
  rw [List.getElem?_append_left old] at here
  obtain ⟨g, before, member⟩ := forgoes name here candidate
  exact ⟨g, before, List.mem_append_left _ member⟩

omit come in
/-- All methods have no need of a field if none of the old ones has and the last one has not. -/
theorem forgoes_snoc {name : String} {static : Bool} {more : List (String × Nat)}
    (old : ∀ j, Forgoes candidates methods assigned j f)
    (last : static = false → f ∈ candidates name →
      ∃ g ∈ ahead (candidates name) f, (g, methods.length) ∈ assigned ++ more) (j : Nat) :
    Forgoes candidates (methods ++ [(name, static)]) (assigned ++ more) j f := by
  by_cases before : j < methods.length
  · exact forgoes_append more _ before (old j)
  · intro other here candidate
    rw [List.getElem?_append_right (Nat.le_of_not_lt before), List.getElem?_singleton] at here
    split at here
    · next position =>
      obtain ⟨rfl, rfl⟩ := Prod.mk.inj (Option.some.inj here)
      obtain rfl : j = methods.length := by omega
      exact last rfl candidate
    · cases here

theorem chosen_append (more : List (String × Nat)) (method : String × Bool)
    (member : (f, i) ∈ assigned) : f ∈ expected ∧
      ∃ name, (methods ++ [method])[i]? = some (name, false) ∧ f ∈ candidates name
        ∧ ∀ c ∈ ahead (candidates name) f, c ∉ expected ∨ ∃ j < i, (c, j) ∈ assigned ++ more := by
  obtain ⟨isExpected, name, here, candidate, before⟩ := come.chosen f i member
  refine ⟨isExpected, name, ?_, candidate, fun c listed => (before c listed).imp_right ?_⟩
  · rw [List.getElem?_append_left (come.position_lt member)]
    exact here
  · rintro ⟨j, less, taken⟩
    exact ⟨j, less, List.mem_append_left _ taken⟩

/-- A method that is static or has no candidate that is missing changes nothing. -/
theorem skip {name : String} {static : Bool}
    (idle : static = false → ∀ f ∈ missing, f ∉ candidates name) :
    FirstCome candidates (methods ++ [(name, static)]) expected assigned missing where
  missing_eq := come.missing_eq
  fields := come.fields
  positions := come.positions
  chosen f i member := by
    have chosen := come.chosen_append [] (name, static) member
    rwa [List.append_nil] at chosen
  earlier f i member j less := by
    have old := Nat.lt_trans less (come.position_lt member)
    have forgoes := forgoes_append [] (name, static) old
      (come.earlier f i member j less)
    rwa [List.append_nil] at forgoes
  maximal f absent j := by
    have forgoes : Forgoes candidates (methods ++ [(name, static)]) (assigned ++ []) j f :=
      forgoes_snoc (come.maximal f absent) (fun method candidate => absurd candidate (idle method f absent)) j
    rwa [List.append_nil] at forgoes

theorem skip_of_find? {name : String} (none : (candidates name).find? (missing.contains ·) = none) :
    FirstCome candidates (methods ++ [(name, false)]) expected assigned missing := by
  refine come.skip fun _ f absent candidate => ?_
  have unwanted := List.find?_eq_none.mp none f candidate
  rw [List.contains_iff_mem] at unwanted
  exact unwanted absent

theorem passed_of_find? {c name : String}
    (found : (candidates name).find? (missing.contains ·) = some f)
    (before : c ∈ ahead (candidates name) f) :
    c ∉ expected ∨ ∃ j < methods.length, (c, j) ∈ assigned := by
  have unwanted := unwanted_of_find? found before
  rw [← Bool.not_eq_true, List.contains_iff_mem, come.mem_missing] at unwanted
  by_cases wanted : c ∈ expected
  · by_contra neither
    exact unwanted ⟨wanted, fun j taken => neither (.inr ⟨j, come.position_lt taken, taken⟩)⟩
  · exact .inl wanted

theorem take {name : String} (found : (candidates name).find? (missing.contains ·) = some f) :
    FirstCome candidates (methods ++ [(name, false)]) expected (assigned ++ [(f, methods.length)])
      (missing.filter (· ≠ f)) := by
  have absent : f ∈ missing := by simpa using List.find?_some found
  have candidate : f ∈ candidates name := List.mem_of_find?_eq_some found
  have ⟨isExpected, free⟩ := come.mem_missing.mp absent
  have here : (methods ++ [(name, false)])[methods.length]? = some (name, false) := by simp
  refine ⟨?_, ?_, ?_, fun g i member => ?_, fun g i member j less => ?_, fun g listed j => ?_⟩
  · rw [come.missing_eq, List.filter_filter]
    refine List.filter_congr fun g _ => ?_
    simp only [List.map_append, List.map_cons, List.map_nil, List.mem_append, List.mem_singleton,
      ← Bool.decide_and, decide_eq_decide]
    rw [not_or, and_comm]
  · rw [List.map_append, List.map_singleton]
    refine List.nodup_append.mpr ⟨come.fields, List.nodup_singleton f, ?_⟩
    rintro a listed b single rfl
    obtain ⟨⟨g, i⟩, member, same⟩ := List.mem_map.mp listed
    obtain rfl : g = f := same.trans (List.mem_singleton.mp single)
    exact free i member
  · refine List.pairwise_append.mpr ⟨come.positions, List.pairwise_singleton _ _, ?_⟩
    rintro ⟨g, i⟩ member b single
    rw [List.mem_singleton.mp single]
    exact come.position_lt member
  · rcases List.mem_append.mp member with old | new
    · exact come.chosen_append _ _ old
    · obtain ⟨rfl, rfl⟩ := Prod.mk.inj (List.mem_singleton.mp new)
      refine ⟨isExpected, name, here, candidate, fun c before => ?_⟩
      refine (come.passed_of_find? found before).imp_right ?_
      rintro ⟨j, less, taken⟩
      exact ⟨j, less, List.mem_append_left _ taken⟩
  · rcases List.mem_append.mp member with old | new
    · exact forgoes_append _ _ (Nat.lt_trans less (come.position_lt old)) (come.earlier g i old j less)
    · obtain ⟨rfl, rfl⟩ := Prod.mk.inj (List.mem_singleton.mp new)
      exact forgoes_append _ _ less (come.maximal g absent j)
  · obtain ⟨missed, apart⟩ := List.mem_filter.mp listed
    -- What is missing still is a later candidate of the new method than the field that it takes.
    refine forgoes_snoc (come.maximal g missed) (fun _ _ => ?_) j
    refine ⟨f, mem_ahead_of_find? found (of_decide_eq_true apart) ?_, ?_⟩
    · rw [List.contains_iff_mem]
      exact missed
    · exact List.mem_append_right _ (List.mem_singleton_self _)

end

/-! ## One assignment only -/

variable {others : List (String × Nat)} {missed : List String}

theorem agrees (come : FirstCome candidates methods expected assigned missing)
    (other : FirstCome candidates methods expected others missed)
    (before : ∀ j < i, ∀ g, (g, j) ∈ assigned ↔ (g, j) ∈ others) (member : (f, i) ∈ assigned) :
    (f, i) ∈ others := by
  obtain ⟨isExpected, name, here, candidate, passed⟩ := come.chosen f i member
  -- The method cannot have got a candidate ahead of the field: those have gone to earlier methods.
  have needs : ¬Forgoes candidates methods others i f := by
    intro forgoes
    obtain ⟨g, ahead, taken⟩ := forgoes name here candidate
    rcases passed g ahead with unexpected | ⟨j, less, earlier⟩
    · exact unexpected (other.chosen g i taken).1
    · have same := other.position_unique taken ((before j less g).mp earlier)
      omega
  by_cases free : ∀ k, (f, k) ∉ others
  · exact absurd (other.maximal f (other.mem_missing.mpr ⟨isExpected, free⟩) i) needs
  · rw [not_forall] at free
    obtain ⟨k, there⟩ := free
    rw [Classical.not_not] at there
    rcases Nat.lt_trichotomy k i with less | rfl | more
    · have same := come.position_unique member ((before k less f).mpr there)
      omega
    · exact there
    · exact absurd (other.earlier f k there i more) needs

theorem unique (come : FirstCome candidates methods expected assigned missing)
    (other : FirstCome candidates methods expected others missed) :
    others = assigned ∧ missed = missing := by
  have same (i : Nat) : ∀ f, (f, i) ∈ assigned ↔ (f, i) ∈ others := by
    induction i using Nat.strongRecOn with
    | ind i ih =>
      exact fun f => ⟨come.agrees other ih, other.agrees come fun j less g => (ih j less g).symm⟩
  have distinct {list : List (String × Nat)} (ordered : list.Pairwise fun a b => a.2 < b.2) :
      list.Nodup := ordered.imp fun less equal => by rw [equal] at less; exact Nat.lt_irrefl _ less
  have perm : others.Perm assigned :=
    (List.perm_ext_iff_of_nodup (distinct other.positions) (distinct come.positions)).mpr
      fun pair => (same pair.2 pair.1).symm
  have equal : others = assigned :=
    perm.eq_of_pairwise (fun a b _ _ first second => absurd (Nat.lt_trans first second) (Nat.lt_irrefl _))
      other.positions come.positions
  exact ⟨equal, by rw [other.missing_eq, come.missing_eq, equal]⟩

end FirstCome

/-! ## Accessors -/

/-- Accessors that have come to fields, and none of them to read one and to write another. -/
structure AccessorMatch.FirstCome (methods : List (String × Bool)) (getters setters : List String)
    (found : AccessorMatch) : Prop where
  getters : EntityStore.FirstCome getterCandidates methods getters found.getters found.missingGetters
  setters : EntityStore.FirstCome setterCandidates methods setters found.setters found.missingSetters
  apart : ∀ f g i, (f, i) ∈ found.getters → (g, i) ∉ found.setters

/-- No name is that of a method that reads and of one that writes. -/
theorem setterCandidates_of_getter {method : String} (reads : f ∈ getterCandidates method) :
    setterCandidates method = [] := by
  have starts {start : String} {suffix : String} (some_start : start.length ≠ 0)
      (found : suffixAfter? start method = some suffix) :
      method.toList.head? = start.toList.head? := by
    simp only [suffixAfter?] at found
    split at found
    · next both => rw [← both.1, List.head?_take, if_neg some_start]
    · cases found
  -- The first letter tells the prefixes apart.
  have first : method.toList.head? = some 'i' ∨ method.toList.head? = some 'g' := by
    rw [getterCandidates] at reads
    split at reads
    · next found => exact .inl (starts (by decide) found)
    · split at reads
      · next found => exact .inr (starts (by decide) found)
      · cases reads
  rw [setterCandidates]
  split
  · next found =>
    have other : method.toList.head? = some 's' := starts (by decide) found
    rw [other] at first
    rcases first with same | same <;> cases same
  · rfl

namespace MatchState

structure Matches (methods : List (String × Bool)) (getters setters : List String) (s : MatchState) :
    Prop where
  getters : FirstCome getterCandidates methods getters s.getters s.wantedGetters
  setters : FirstCome setterCandidates methods setters s.setters s.wantedSetters

variable {getters setters : List String} {s : MatchState}

theorem matches_start (getters setters : List String) :
    (MatchState.mk getters setters [] []).Matches [] getters setters :=
  ⟨.start, .start⟩

theorem Matches.step (matched : s.Matches methods getters setters) (method : String × Bool) :
    (s.step method methods.length).Matches (methods ++ [method]) getters setters := by
  obtain ⟨name, static⟩ := method
  rw [MatchState.step]
  cases static with
  | true => exact ⟨matched.getters.skip nofun, matched.setters.skip nofun⟩
  | false =>
    dsimp only
    rw [if_neg (by decide)]
    split
    · next field found =>
      -- What reads does not write, so it leaves no field behind that it could have written.
      have silent := setterCandidates_of_getter (List.mem_of_find?_eq_some found)
      refine ⟨matched.getters.take found, matched.setters.skip fun _ f _ listed => ?_⟩
      rw [silent] at listed
      cases listed
    · next none =>
      have reads := matched.getters.skip_of_find? none
      split
      · next field found => exact ⟨reads, matched.setters.take found⟩
      · next none => exact ⟨reads, matched.setters.skip_of_find? none⟩

/-- Any number of methods after those that have been matched. -/
theorem Matches.run (matched : s.Matches methods getters setters) (more : List (String × Bool)) :
    (s.run methods.length more).Matches (methods ++ more) getters setters := by
  induction more generalizing methods s with
  | nil =>
    rw [List.append_nil]
    exact matched
  | cons method rest ih =>
    have next := ih (matched.step method)
    rwa [List.length_append, List.length_singleton, List.append_assoc, List.singleton_append] at next

end MatchState

/-- Methods are matched to fields in the one way in which the first comes first, and so none is missing
    that a method without a field could have served. -/
theorem matchAccessors_firstCome (methods : List (String × Bool)) (getters setters : List String) :
    (matchAccessors methods getters setters).FirstCome methods getters setters
      ∧ ∀ found : AccessorMatch, found.FirstCome methods getters setters →
        found = matchAccessors methods getters setters := by
  have matched := (MatchState.matches_start getters setters).run methods
  rw [List.nil_append, List.length_nil] at matched
  have first : (matchAccessors methods getters setters).FirstCome methods getters setters := by
    refine ⟨?_, ?_, fun f g i reads writes => ?_⟩
    · dsimp only [matchAccessors]
      rw [matched.getters.filter_missing]
      exact matched.getters
    · dsimp only [matchAccessors]
      rw [matched.setters.filter_missing]
      exact matched.setters
    · obtain ⟨_, name, here, candidate, _⟩ := matched.getters.chosen f i reads
      obtain ⟨_, other, there, among, _⟩ := matched.setters.chosen g i writes
      obtain ⟨rfl, _⟩ := Prod.mk.inj (Option.some.inj (here.symm.trans there))
      rw [setterCandidates_of_getter candidate] at among
      cases among
  -- The description determines each part, so nothing else answers to it.
  refine ⟨first, fun found come => ?_⟩
  obtain ⟨sameGetters, sameMissing⟩ := first.getters.unique come.getters
  obtain ⟨sameSetters, sameAbsent⟩ := first.setters.unique come.setters
  obtain ⟨reads, writes, unread, unwritten⟩ := found
  obtain rfl : reads = _ := sameGetters
  obtain rfl : writes = _ := sameSetters
  obtain rfl : unread = _ := sameMissing
  obtain rfl : unwritten = _ := sameAbsent
  rfl

end EntityStore
