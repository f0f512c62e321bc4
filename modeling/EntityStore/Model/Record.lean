import EntityStore.Value.Field

/-! # Records

An entity instance as named properties:

* `Record` — field values and related records, each under a property name.
* `Record.value?`, `Record.setValue` — one field value.
* `Record.related`, `Record.setRelated`, `Record.clearRelated` — the records under one relation.
-/

namespace EntityStore

/-- An instance of an entity: its values, and the instances that it refers to. -/
inductive Record where
  | mk (values : List (String × FieldValue)) (relations : List (String × List Record))

def assoc? {α : Type} (name : String) : List (String × α) → Option α
  | [] => none
  | (n, a) :: rest => if n = name then some a else assoc? name rest

/-- An association list with the value under a name replaced, or added at the end. -/
def setAssoc {α : Type} (name : String) (a : α) : List (String × α) → List (String × α)
  | [] => [(name, a)]
  | (n, b) :: rest => if n = name then (name, a) :: rest else (n, b) :: setAssoc name a rest

def eraseAssoc {α : Type} (name : String) (entries : List (String × α)) : List (String × α) :=
  entries.filter fun entry => entry.1 ≠ name

/-- Setting a name changes what is found under it, and nothing else. -/
theorem assoc?_setAssoc {α : Type} (name other : String) (a : α) (entries : List (String × α)) :
    assoc? other (setAssoc name a entries) =
      if other = name then some a else assoc? other entries := by
  induction entries with
  | nil => by_cases h : name = other <;> simp [setAssoc, assoc?, h, eq_comm]
  | cons entry rest ih =>
    by_cases hn : entry.1 = name
    · by_cases h : name = other <;> simp [setAssoc, assoc?, hn, h, eq_comm]
    · by_cases ho : entry.1 = other
      · have h : other ≠ name := fun h => hn (ho.trans h)
        simp [setAssoc, assoc?, ho, h]
      · simp [setAssoc, assoc?, hn, ho, ih]

/-- Erasing a name leaves nothing under it, and everything else. -/
theorem assoc?_eraseAssoc {α : Type} (name other : String) (entries : List (String × α)) :
    assoc? other (eraseAssoc name entries) =
      if other = name then none else assoc? other entries := by
  induction entries with
  | nil => simp [eraseAssoc, assoc?]
  | cons entry rest ih =>
    unfold eraseAssoc at ih ⊢
    by_cases hn : entry.1 = name
    · by_cases h : other = name
      · simpa [hn, h] using ih
      · simpa [assoc?, hn, h, Ne.symm h] using ih
    · by_cases ho : entry.1 = other
      · have h : other ≠ name := fun h => hn (ho.trans h)
        simp [assoc?, ho, h]
      · simpa [assoc?, hn, ho] using ih

namespace Record

def values : Record → List (String × FieldValue)
  | mk values _ => values

def relations : Record → List (String × List Record)
  | mk _ relations => relations

def empty : Record := mk [] []

instance : Inhabited Record := ⟨empty⟩

def value? (r : Record) (property : String) : Option FieldValue := assoc? property r.values

def setValue (r : Record) (property : String) (value : FieldValue) : Record :=
  mk (setAssoc property value r.values) r.relations

/-- The related records under a property; none if it is unset. -/
def related (r : Record) (property : String) : List Record :=
  (assoc? property r.relations).getD []

/-- The instance with the related records under a property replaced. -/
def setRelated (r : Record) (property : String) (targets : List Record) : Record :=
  mk r.values (setAssoc property targets r.relations)

def clearRelated (r : Record) (property : String) : Record :=
  mk r.values (eraseAssoc property r.relations)

/-! ## What is read after a change -/

@[simp] theorem value?_setValue (r : Record) (property other : String) (v : FieldValue) :
    (r.setValue property v).value? other = if other = property then some v else r.value? other :=
  assoc?_setAssoc property other v r.values

@[simp] theorem related_setRelated (r : Record) (property other : String) (targets : List Record) :
    (r.setRelated property targets).related other =
      if other = property then targets else r.related other := by
  show (assoc? other (setAssoc property targets r.relations)).getD [] = _
  rw [assoc?_setAssoc]
  split <;> rfl

@[simp] theorem related_clearRelated (r : Record) (property other : String) :
    (r.clearRelated property).related other =
      if other = property then [] else r.related other := by
  show (assoc? other (eraseAssoc property r.relations)).getD [] = _
  rw [assoc?_eraseAssoc]
  split <;> rfl

@[simp] theorem related_setValue (r : Record) (property other : String) (v : FieldValue) :
    (r.setValue property v).related other = r.related other := rfl

@[simp] theorem value?_setRelated (r : Record) (property other : String)
    (targets : List Record) : (r.setRelated property targets).value? other = r.value? other := rfl

@[simp] theorem value?_clearRelated (r : Record) (property other : String) :
    (r.clearRelated property).value? other = r.value? other := rfl

end Record

end EntityStore
