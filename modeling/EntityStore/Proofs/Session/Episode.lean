import EntityStore.Proofs.Session.Composition

/-! # Episodes and the logs that tell them

A log is well bracketed if every start of an operation in it has its end:

* `Log.advance`, `Log.Balanced` — a log read with a stack of the operations that are open.
* `Episode`, `Log.Tells` — what has happened, and the events that tell it.
* `Log.Tells.unique` — the events say what has happened, in one way only.
* `Log.Tells.balanced` — what tells episodes is well bracketed, by induction on the episodes.
-/

namespace EntityStore

def Phase.closing (succeeded : Bool) : Phase := if succeeded then .finish else .fail

def Event.Ends (e : Event) : Prop := e.phase ≠ none ∧ e.phase ≠ some .start

/-! ## Brackets -/

/-- An operation whose start has been reported, but not its end. -/
structure OpenOperation where
  op : String
  tag : Option String
  retried : Bool := false
  deriving DecidableEq

namespace Log

/-- The open operations, the innermost first, after one more event; none if the event is out of place. -/
def advance (opened : List OpenOperation) (e : Event) : Option (List OpenOperation) :=
  match e.phase, opened with
  | none, _ => some opened
  | some .start, _ => e.op.map fun op => { op := op, tag := e.tag } :: opened
  | some .retry, o :: rest =>
    -- A write transaction is run at most once more.
    if o.op = updateOp ∧ o.tag = e.tag ∧ o.retried = false then some ({ o with retried := true } :: rest)
    else none
  | some _, o :: rest => if e.op = some o.op then some rest else none
  | some _, [] => none

/-- Every event is in its place, and in the end nothing is open. -/
def Balanced (events : List Event) : Prop := events.foldlM advance [] = some []

instance (events : List Event) : Decidable (Balanced events) := inferInstanceAs (Decidable (_ = _))

end Log

/-! ## Episodes -/

/-- Something that has happened between a start and an end. -/
inductive Episode where
  /-- An operation, with what has happened inside. -/
  | once (op : String) (inside : List Episode) (succeeded : Bool)
  /-- A write transaction of the database `tag` that has been run twice. -/
  | rerun (tag : String) (first second : List Episode) (succeeded : Bool)

namespace Log

/-- The events that tell episodes, with remarks in between. -/
inductive Tells : List Episode → List Event → Prop
  | nothing : Tells [] []
  | remark {episodes : List Episode} {e : Event} {events : List Event} (plain : e.phase = none)
      (rest : Tells episodes events) : Tells episodes (e :: events)
  | once {op : String} {succeeded : Bool} {inside episodes : List Episode} {start close : Event}
      {within events : List Event} (starts : start.Reports op .start) (told : Tells inside within)
      (closes : close.Reports op (.closing succeeded)) (rest : Tells episodes events) :
      Tells (.once op inside succeeded :: episodes) (start :: within ++ close :: events)
  | rerun {tag : String} {succeeded : Bool} {first second episodes : List Episode}
      {start again close : Event} {before between events : List Event}
      (starts : start.Reports updateOp .start) (same : start.tag = some tag) (told : Tells first before)
      (retries : again.Reports updateOp .retry) (own : again.tag = some tag)
      (retold : Tells second between) (closes : close.Reports updateOp (.closing succeeded))
      (rest : Tells episodes events) :
      Tells (.rerun tag first second succeeded :: episodes)
        (start :: before ++ again :: between ++ close :: events)

variable {first second episodes : List Episode} {events more : List Event}

theorem Tells.remarks (plain : ∀ e ∈ events, e.phase = none) : Tells [] events := by
  induction events with
  | nil => exact .nothing
  | cons e rest ih =>
    exact .remark (plain e (List.mem_cons_self ..)) (ih fun e member => plain e (.tail _ member))

theorem Tells.append (told : Tells first events) (then_ : Tells second more) :
    Tells (first ++ second) (events ++ more) := by
  induction told with
  | nothing => exact then_
  | remark plain _ ih => exact .remark plain ih
  | once starts told closes _ _ ih =>
    rw [List.append_assoc]
    exact .once starts told closes ih
  | rerun starts same told retries own retold closes _ _ _ ih =>
    rw [List.append_assoc]
    exact .rerun starts same told retries own retold closes ih

/-! ### Reading logs -/

theorem ends_of_closing {op : String} {succeeded : Bool} {e : Event}
    (closes : e.Reports op (.closing succeeded)) : e.Ends := by
  cases succeeded <;> simp [Event.Ends, closes.phase_eq, Phase.closing]

theorem ends_of_retry {op : String} {e : Event} (retries : e.Reports op .retry) : e.Ends := by
  simp [Event.Ends, retries.phase_eq]

theorem closing_inj {op op' : String} {succeeded succeeded' : Bool} {e : Event}
    (closes : e.Reports op (.closing succeeded)) (closes' : e.Reports op' (.closing succeeded')) :
    succeeded = succeeded' := by
  have same := closes.phase_eq.symm.trans closes'.phase_eq
  cases succeeded <;> cases succeeded' <;> simp_all [Phase.closing]

theorem closing_ne_retry {op op' : String} {succeeded : Bool} {e : Event}
    (closes : e.Reports op (.closing succeeded)) (retries : e.Reports op' .retry) : False := by
  have same := closes.phase_eq.symm.trans retries.phase_eq
  cases succeeded <;> simp [Phase.closing] at same

/-- Where an event that ends something follows, it shows how far the episodes before it go. -/
theorem Tells.split (told : Tells first events) :
    ∀ {second : List Episode} {more rest rest' : List Event} {e e' : Event}, Tells second more →
      e.Ends → e'.Ends → events ++ e :: rest = more ++ e' :: rest' →
        first = second ∧ events = more ∧ e = e' ∧ rest = rest' := by
  -- The first events of both sides are the same, so both have been told by the same rule.
  induction told with
  | nothing =>
    intro _ _ _ _ e e' tells ends ends' same
    cases tells with
    | nothing => exact ⟨rfl, rfl, List.cons.inj same⟩
    | remark plain _ =>
      obtain ⟨rfl, -⟩ := List.cons.inj same
      exact absurd plain ends.1
    | once starts =>
      obtain ⟨rfl, -⟩ := List.cons.inj same
      exact absurd starts.phase_eq ends.2
    | rerun starts =>
      obtain ⟨rfl, -⟩ := List.cons.inj same
      exact absurd starts.phase_eq ends.2
  | remark plain _ ih =>
    intro _ _ _ _ e e' tells ends ends' same
    cases tells with
    | nothing =>
      obtain ⟨rfl, -⟩ := List.cons.inj same
      exact absurd plain ends'.1
    | remark _ tells =>
      obtain ⟨rfl, next⟩ := List.cons.inj same
      obtain ⟨rfl, rfl, last⟩ := ih tells ends ends' next
      exact ⟨rfl, rfl, last⟩
    | once starts =>
      obtain ⟨rfl, -⟩ := List.cons.inj same
      cases plain.symm.trans starts.phase_eq
    | rerun starts =>
      obtain ⟨rfl, -⟩ := List.cons.inj same
      cases plain.symm.trans starts.phase_eq
  | once starts told closes _ inner after =>
    intro _ _ _ _ e e' tells ends ends' same
    cases tells with
    | nothing =>
      obtain ⟨rfl, -⟩ := List.cons.inj same
      exact absurd starts.phase_eq ends'.2
    | remark plain =>
      obtain ⟨rfl, -⟩ := List.cons.inj same
      cases plain.symm.trans starts.phase_eq
    | once starts' told' closes' tells =>
      simp only [List.cons_append, List.append_assoc] at same
      obtain ⟨rfl, next⟩ := List.cons.inj same
      obtain ⟨rfl, rfl, rfl, later⟩ := inner told' (ends_of_closing closes) (ends_of_closing closes') next
      obtain ⟨rfl, rfl, last⟩ := after tells ends ends' later
      cases closing_inj closes closes'
      cases starts.op_eq.symm.trans starts'.op_eq
      exact ⟨rfl, rfl, last⟩
    | rerun starts' _ told' retries =>
      simp only [List.cons_append, List.append_assoc] at same
      obtain ⟨rfl, next⟩ := List.cons.inj same
      obtain ⟨-, -, rfl, -⟩ := inner told' (ends_of_closing closes) (ends_of_retry retries) next
      exact (closing_ne_retry closes retries).elim
  | rerun starts own told retries known retold closes _ before between after =>
    intro _ _ _ _ e e' tells ends ends' same
    cases tells with
    | nothing =>
      obtain ⟨rfl, -⟩ := List.cons.inj same
      exact absurd starts.phase_eq ends'.2
    | remark plain =>
      obtain ⟨rfl, -⟩ := List.cons.inj same
      cases plain.symm.trans starts.phase_eq
    | once starts' told' closes' tells =>
      simp only [List.cons_append, List.append_assoc] at same
      obtain ⟨rfl, next⟩ := List.cons.inj same
      obtain ⟨-, -, rfl, -⟩ := before told' (ends_of_retry retries) (ends_of_closing closes') next
      exact (closing_ne_retry closes' retries).elim
    | rerun starts' own' told' retries' known' retold' closes' tells =>
      simp only [List.cons_append, List.append_assoc] at same
      obtain ⟨rfl, next⟩ := List.cons.inj same
      obtain ⟨rfl, rfl, rfl, again⟩ := before told' (ends_of_retry retries) (ends_of_retry retries') next
      obtain ⟨rfl, rfl, rfl, later⟩ :=
        between retold' (ends_of_closing closes) (ends_of_closing closes') again
      obtain ⟨rfl, rfl, last⟩ := after tells ends ends' later
      cases closing_inj closes closes'
      cases own.symm.trans own'
      exact ⟨rfl, rfl, last⟩

/-- What has happened can be read off the log. -/
theorem Tells.unique (told : Tells first events) (tells : Tells second events) : first = second := by
  let e : Event := { level := .debug, phase := some .finish }
  have ends : e.Ends := ⟨nofun, nofun⟩
  exact (told.split tells ends ends (rfl : events ++ [e] = events ++ [e])).1

/-! ### Operations that are open -/

theorem advance_start {op : String} {e : Event} (starts : e.Reports op .start)
    (opened : List OpenOperation) :
    advance opened e = some ({ op := op, tag := e.tag } :: opened) := by
  simp only [advance, starts.phase_eq, starts.op_eq, Option.map_some]

theorem advance_close {succeeded : Bool} {o : OpenOperation} {e : Event}
    (closes : e.Reports o.op (.closing succeeded)) (opened : List OpenOperation) :
    advance (o :: opened) e = some opened := by
  cases succeeded <;> simp [advance, closes.phase_eq, closes.op_eq, Phase.closing]

theorem advance_retry {tag : Option String} {e : Event} (retries : e.Reports updateOp .retry)
    (own : e.tag = tag) (opened : List OpenOperation) :
    advance ({ op := updateOp, tag := tag } :: opened) e =
      some ({ op := updateOp, tag := tag, retried := true } :: opened) := by
  simp [advance, retries.phase_eq, own]

theorem foldlM_advance {opened next : List OpenOperation} {e : Event}
    (step : advance opened e = some next) (rest : List Event) :
    (e :: rest).foldlM advance opened = rest.foldlM advance next := by
  rw [List.foldlM_cons, step, Option.bind_eq_bind, Option.bind_some]

theorem foldlM_past {opened : List OpenOperation} (past : events.foldlM advance opened = some opened)
    (rest : List Event) : (events ++ rest).foldlM advance opened = rest.foldlM advance opened := by
  rw [List.foldlM_append, past, Option.bind_eq_bind, Option.bind_some]

theorem Tells.advances (told : Tells episodes events) (opened : List OpenOperation) :
    events.foldlM advance opened = some opened := by
  -- Inside an operation one more is open, so the stack is general in the induction.
  induction told generalizing opened with
  | nothing => rfl
  | @remark _ e _ plain _ ih =>
    have step : advance opened e = some opened := by simp only [advance, plain]
    rw [foldlM_advance step, ih]
  | once starts _ closes _ inside after =>
    rw [List.cons_append, foldlM_advance (advance_start starts opened), foldlM_past (inside _),
      foldlM_advance (advance_close closes opened), after]
  | @rerun tag _ _ _ _ start _ _ _ _ _ starts same _ retries own _ closes _ before between after =>
    have own := own.trans same.symm
    rw [List.append_assoc, List.cons_append, List.cons_append,
      foldlM_advance (advance_start starts opened), foldlM_past (before _),
      foldlM_advance (advance_retry retries own opened), foldlM_past (between _),
      foldlM_advance (advance_close closes opened), after]

theorem Tells.balanced (told : Tells episodes events) : Balanced events := told.advances []

end Log

end EntityStore
