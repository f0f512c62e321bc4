import EntityStore.Store.World

/-! # Outcomes of operations

An operation of a session takes a world to its result and the world after it:

* `Session.outcome` — the result and the world, with an equation for each way to build operations.
* `Session.Keeps` — what holds of a world still holds after the operation, whether or not it
  fails.  Every way to build operations keeps what its parts keep.
* `Session.Gives` — what holds of the results of an operation.
* `Session.Yields`, `Session.Succeeds` — an operation succeeds, with a result that is known before,
  or with some result.
* `Session.Refuses` — an operation fails, with a failure that is known before.
-/

namespace EntityStore.Session

variable {α β : Type}

/-- The result of an operation in a world, and the world after it. -/
def outcome (op : Session α) (w : World) : Except Failure α × World := op.run w

/-! ## Equations -/

@[simp] theorem outcome_pure (a : α) (w : World) : (pure a : Session α).outcome w = (.ok a, w) := rfl

@[simp] theorem outcome_throw (failure : Failure) (w : World) :
    (throw failure : Session α).outcome w = (.error failure, w) := rfl

@[simp] theorem outcome_get (w : World) : (get : Session World).outcome w = (.ok w, w) := rfl

@[simp] theorem outcome_set (w v : World) : (set v : Session Unit).outcome w = (.ok (), v) := rfl

@[simp] theorem outcome_modify (f : World → World) (w : World) :
    (modify f : Session Unit).outcome w = (.ok (), f w) := rfl

theorem outcome_bind (op : Session α) (next : α → Session β) (w : World) :
    (op >>= next).outcome w = match op.outcome w with
      | (.ok a, v) => (next a).outcome v
      | (.error failure, v) => (.error failure, v) := by
  change ((op >>= next).run w : Id _) = _
  rw [ExceptT.run_bind]
  change ExceptT.bindCont next (op.outcome w).1 (op.outcome w).2 = _
  rcases op.outcome w with ⟨result, v⟩
  cases result <;> rfl

theorem outcome_bind_ok {op : Session α} {w v : World} {a : α} (done : op.outcome w = (.ok a, v))
    (next : α → Session β) : (op >>= next).outcome w = (next a).outcome v := by
  rw [outcome_bind, done]

theorem outcome_bind_error {op : Session α} {w v : World} {failure : Failure}
    (failed : op.outcome w = (.error failure, v)) (next : α → Session β) :
    (op >>= next).outcome w = (.error failure, v) := by
  rw [outcome_bind, failed]

/-- What succeeds in two steps succeeds in each of them. -/
theorem outcome_bind_inv {op : Session α} {next : α → Session β} {w v : World} {b : β}
    (done : (op >>= next).outcome w = (.ok b, v)) :
    ∃ a u, op.outcome w = (.ok a, u) ∧ (next a).outcome u = (.ok b, v) := by
  rw [outcome_bind] at done
  rcases ran : op.outcome w with ⟨result, u⟩
  rw [ran] at done
  cases result with
  | ok a => exact ⟨a, u, rfl, done⟩
  | error failure => cases done

/-- What fails in two steps fails in one of them. -/
theorem outcome_bind_failed {op : Session α} {next : α → Session β} {w v : World} {failure : Failure}
    (failed : (op >>= next).outcome w = (.error failure, v)) :
    op.outcome w = (.error failure, v)
      ∨ ∃ a u, op.outcome w = (.ok a, u) ∧ (next a).outcome u = (.error failure, v) := by
  rw [outcome_bind] at failed
  rcases ran : op.outcome w with ⟨result, u⟩
  rw [ran] at failed
  cases result with
  | ok a => exact .inr ⟨a, u, rfl, failed⟩
  | error other => cases failed; exact .inl rfl

theorem outcome_forM_failed {f : α → Session PUnit} {items : List α} {w v : World} {failure : Failure}
    (failed : (items.forM f).outcome w = (.error failure, v)) :
    ∃ before a after u, items = before ++ a :: after ∧ (before.forM f).outcome w = (.ok (), u)
      ∧ (f a).outcome u = (.error failure, v) := by
  induction items generalizing w with
  | nil => cases failed
  | cons a rest ih =>
    rcases outcome_bind_failed failed with here | ⟨_, u, done, later⟩
    · exact ⟨[], a, rest, w, rfl, rfl, here⟩
    · obtain ⟨before, b, after, x, split, earlier, there⟩ := ih later
      refine ⟨a :: before, b, after, x, by rw [split, List.cons_append], ?_, there⟩
      exact (outcome_bind_ok done _).trans earlier

theorem outcome_ok {op : Session α} {a : α} {w : World} (done : (op.outcome w).1.toOption = some a) :
    op.outcome w = (.ok a, (op.outcome w).2) := by
  rcases ran : op.outcome w with ⟨result, v⟩
  rw [ran] at done
  cases result with
  | ok b => cases done; rfl
  | error failure => cases done

theorem outcome_map (f : α → β) (op : Session α) (w : World) :
    (f <$> op).outcome w = ((op.outcome w).1.map f, (op.outcome w).2) := by
  rw [← bind_pure_comp, outcome_bind]
  rcases op.outcome w with ⟨result, v⟩
  cases result <;> rfl

theorem outcome_tryCatch (op : Session α) (handler : Failure → Session α) (w : World) :
    (tryCatch op handler).outcome w = match op.outcome w with
      | (.ok a, v) => (.ok a, v)
      | (.error failure, v) => (handler failure).outcome v := by
  change ((tryCatch op handler).run w : Id _) = _
  rw [ExceptT.run_tryCatch]
  rcases done : op.outcome w with ⟨result, v⟩
  have ran : (op.run w : Id _) = (result, v) := done
  simp only [bind, StateT.bind, ran]
  cases result <;> rfl

@[simp] theorem outcome_attempt (op : Session α) (w : World) :
    (attempt op).outcome w = (.ok (op.outcome w).1, (op.outcome w).2) := by
  rw [attempt, outcome_tryCatch, outcome_map]
  rcases op.outcome w with ⟨result, v⟩
  cases result <;> rfl

@[simp] theorem outcome_annotate (note : Failure → Failure) (op : Session α) (w : World) :
    (annotate note op).outcome w = ((op.outcome w).1.mapError note, (op.outcome w).2) := by
  rw [annotate, outcome_tryCatch]
  rcases op.outcome w with ⟨result, v⟩
  cases result <;> rfl

@[simp] theorem outcome_context (id : Nat) (w : World) :
    (context id).outcome w = (.ok (w.contexts.getD id default), w) := rfl

@[simp] theorem outcome_report (e : Event) (w : World) :
    (report e).outcome w = (.ok (), { w with log := e :: w.log }) := rfl

@[simp] theorem outcome_modifyContext (id : Nat) (f : Context → Context) (w : World) :
    (modifyContext id f).outcome w = (.ok (), { w with contexts := w.contexts.modify id f }) := rfl

@[simp] theorem outcome_newRequestId (w : World) :
    newRequestId.outcome w =
      (.ok ⟨BitVec.ofNat 128 w.requests⟩, { w with requests := w.requests + 1 }) := rfl

/-! ## What operations keep -/

/-- What holds of a world holds after the operation, which may fail. -/
def Keeps (P : World → Prop) (op : Session α) : Prop := ∀ w, P w → P (op.outcome w).2

section Keeping
variable {P : World → Prop}

theorem Keeps.pure (a : α) : Keeps P (Pure.pure a : Session α) := fun _ holds => holds

theorem Keeps.throw (failure : Failure) : Keeps P (MonadExcept.throw failure : Session α) :=
  fun _ holds => holds

theorem Keeps.get : Keeps P (MonadState.get : Session World) := fun _ holds => holds

theorem Keeps.change {f : World → World} (kept : ∀ w, P w → P (f w)) :
    Keeps P (modify f : Session Unit) := kept

theorem Keeps.bind {op : Session α} {next : α → Session β} (first : Keeps P op)
    (rest : ∀ a, Keeps P (next a)) : Keeps P (op >>= next) := by
  intro w holds
  have kept := first w holds
  rw [outcome_bind]
  rcases done : op.outcome w with ⟨result, v⟩
  rw [done] at kept
  cases result with
  | ok a => exact rest a v kept
  | error failure => exact kept

theorem Keeps.tryCatch {op : Session α} {handler : Failure → Session α} (kept : Keeps P op)
    (handled : ∀ failure, Keeps P (handler failure)) :
    Keeps P (MonadExcept.tryCatch op handler) := by
  intro w holds
  have kept := kept w holds
  rw [outcome_tryCatch]
  rcases done : op.outcome w with ⟨result, v⟩
  rw [done] at kept
  cases result with
  | ok a => exact kept
  | error failure => exact handled failure v kept

theorem Keeps.attempt {op : Session α} (kept : Keeps P op) : Keeps P (Session.attempt op) := by
  intro w holds
  rw [outcome_attempt]
  exact kept w holds

theorem Keeps.annotate {op : Session α} (note : Failure → Failure) (kept : Keeps P op) :
    Keeps P (Session.annotate note op) := by
  intro w holds
  rw [outcome_annotate]
  exact kept w holds

theorem Keeps.foldlM {step : β → α → Session β} {items : List α}
    (kept : ∀ b, ∀ a ∈ items, Keeps P (step b a)) (b : β) : Keeps P (items.foldlM step b) := by
  induction items generalizing b with
  | nil => exact .pure b
  | cons a rest ih =>
    exact .bind (kept b a (List.mem_cons_self ..))
      (ih fun b a member => kept b a (List.mem_cons_of_mem _ member))

theorem Keeps.mapM {f : α → Session β} {items : List α} (kept : ∀ a ∈ items, Keeps P (f a)) :
    Keeps P (items.mapM f) := by
  induction items with
  | nil => exact .pure []
  | cons a rest ih =>
    rw [List.mapM_cons]
    exact .bind (kept a (List.mem_cons_self ..)) fun _ =>
      .bind (ih fun a member => kept a (List.mem_cons_of_mem _ member)) fun _ => .pure _

theorem Keeps.forM {f : α → Session PUnit} {items : List α} (kept : ∀ a ∈ items, Keeps P (f a)) :
    Keeps P (items.forM f) := by
  induction items with
  | nil => exact .pure PUnit.unit
  | cons a rest ih =>
    exact .bind (kept a (List.mem_cons_self ..)) fun _ =>
      ih fun a member => kept a (List.mem_cons_of_mem _ member)

theorem Keeps.forIn {step : α → Session (ForInStep PUnit)} (kept : ∀ a, Keeps P (step a))
    (items : List α) : Keeps P (ForIn.forIn items PUnit.unit fun a _ => step a) := by
  induction items with
  | nil => exact .pure PUnit.unit
  | cons a rest ih =>
    rw [List.forIn_cons]
    refine .bind (kept a) fun next => ?_
    cases next with
    | done _ => exact .pure _
    | yield _ => exact ih

/-- What holds of every result of an operation that starts in a world with `P` and does not
    fail. -/
def Gives (P : World → Prop) (R : α → Prop) (op : Session α) : Prop :=
  ∀ w a v, P w → op.outcome w = (.ok a, v) → R a

theorem Gives.pure {R : α → Prop} {a : α} (holds : R a) : Gives P R (Pure.pure a : Session α) := by
  rintro _ _ _ _ ⟨⟩
  exact holds

theorem Gives.bind {R : α → Prop} {S : β → Prop} {op : Session α} {next : α → Session β}
    (first : Gives P R op) (rest : ∀ a, R a → Gives (fun _ => True) S (next a)) :
    Gives P S (op >>= next) := by
  intro w b v holds done
  obtain ⟨a, u, ran, done⟩ := outcome_bind_inv done
  exact rest a (first w a u holds ran) u b v trivial done

/-- What comes before the last step of an operation need not be known. -/
theorem Gives.last {S : β → Prop} {op : Session α} {next : α → Session β}
    (rest : ∀ a, Gives (fun _ => True) S (next a)) : Gives P S (op >>= next) :=
  .bind (R := fun _ => True) (fun _ _ _ _ _ => trivial) fun a _ => rest a

theorem Gives.annotate {R : α → Prop} {op : Session α} (note : Failure → Failure)
    (gives : Gives P R op) : Gives P R (Session.annotate note op) := by
  intro w a v holds done
  rw [outcome_annotate] at done
  rcases ran : op.outcome w with ⟨result, u⟩
  rw [ran] at done
  cases result with
  | ok _ =>
    cases done
    exact gives w a u holds ran
  | error failure => cases done

theorem Gives.attempt {R : α → Prop} {op : Session α} (gives : Gives P R op) :
    Gives P (fun result => ∀ a, result = .ok a → R a) (Session.attempt op) := by
  intro w result v holds done a ok
  rw [outcome_attempt] at done
  cases done
  exact gives w a _ holds (Prod.ext ok rfl)

theorem Gives.mapM {R : β → Prop} {f : α → Session β} (each : ∀ a, Gives (fun _ => True) R (f a))
    (items : List α) : Gives (fun _ => True) (fun results => ∀ b ∈ results, R b) (items.mapM f) := by
  induction items with
  | nil => exact .pure nofun
  | cons a rest ih =>
    rw [List.mapM_cons]
    exact .bind (each a) fun b first => .bind ih fun others rest =>
      .pure (List.forall_mem_cons.mpr ⟨first, rest⟩)

/-- What follows an operation only has to keep `P` for the results that there are. -/
theorem Keeps.bind_gives {R : α → Prop} {op : Session α} {next : α → Session β}
    (first : Keeps P op) (gives : Gives P R op) (rest : ∀ a, R a → Keeps P (next a)) :
    Keeps P (op >>= next) := by
  intro w holds
  have kept := first w holds
  rw [outcome_bind]
  rcases done : op.outcome w with ⟨result, v⟩
  rw [done] at kept
  cases result with
  | ok a => exact rest a (gives w a v holds done) v kept
  | error failure => exact kept

end Keeping

/-! ## What operations yield -/

/-- In a world with `P` the operation succeeds with a result, and leaves a world with `Q`. -/
def Yields (P : World → Prop) (op : Session α) (a : α) (Q : World → Prop) : Prop :=
  ∀ w, P w → ∃ v, op.outcome w = (.ok a, v) ∧ Q v

section Yielding
variable {P Q R : World → Prop} {a : α} {b : β}

theorem Yields.pure (a : α) : Yields P (Pure.pure a : Session α) a P :=
  fun w holds => ⟨w, rfl, holds⟩

theorem Yields.change {f : World → World} (leads : ∀ w, P w → Q (f w)) :
    Yields P (modify f : Session Unit) () Q := fun w holds => ⟨f w, rfl, leads w holds⟩

theorem Yields.bind {op : Session α} {next : α → Session β} (first : Yields P op a Q)
    (rest : Yields Q (next a) b R) : Yields P (op >>= next) b R := by
  intro w holds
  obtain ⟨u, done, between⟩ := first w holds
  obtain ⟨v, then_, after⟩ := rest u between
  exact ⟨v, by rw [outcome_bind_ok done, then_], after⟩

/-- What follows an operation when only part of its result is known before. -/
theorem Yields.bind_part {γ : Type} {op : Session α} {f : α → γ} {c : γ} {next : α → Session β}
    (first : Yields P (do return f (← op)) c Q) (rest : ∀ a, f a = c → Yields Q (next a) b R) :
    Yields P (op >>= next) b R := by
  intro w holds
  obtain ⟨u, done, between⟩ := first w holds
  -- The operation has succeeded, since its part has.
  rw [outcome_bind] at done
  rcases ran : op.outcome w with ⟨result, v⟩
  rw [ran] at done
  cases result with
  | error failure => cases done
  | ok a =>
    simp only [outcome_pure, Prod.mk.injEq, Except.ok.injEq] at done
    obtain ⟨part, rfl⟩ := done
    rw [outcome_bind_ok ran]
    exact rest a part v between

theorem Yields.attempt {op : Session α} (yields : Yields P op a Q) :
    Yields P (Session.attempt op) (.ok a) Q := by
  intro w holds
  obtain ⟨v, done, after⟩ := yields w holds
  exact ⟨v, by rw [outcome_attempt, done], after⟩

theorem Yields.annotate {op : Session α} (note : Failure → Failure) (yields : Yields P op a Q) :
    Yields P (Session.annotate note op) a Q := by
  intro w holds
  obtain ⟨v, done, after⟩ := yields w holds
  exact ⟨v, by rw [outcome_annotate, done]; rfl, after⟩

theorem Yields.tryCatch {op : Session α} {handler : Failure → Session α} (yields : Yields P op a Q) :
    Yields P (MonadExcept.tryCatch op handler) a Q := by
  intro w holds
  obtain ⟨v, done, after⟩ := yields w holds
  exact ⟨v, by rw [outcome_tryCatch, done], after⟩

theorem Yields.imp {op : Session α} {P' Q' : World → Prop} (before : ∀ w, P' w → P w)
    (yields : Yields P op a Q) (after : ∀ w, Q w → Q' w) : Yields P' op a Q' := by
  intro w holds
  obtain ⟨v, done, leads⟩ := yields w (before w holds)
  exact ⟨v, done, after v leads⟩

theorem Yields.mapM {f : α → Session β} {g : α → β} {items : List α}
    (each : ∀ a ∈ items, Yields P (f a) (g a) P) : Yields P (items.mapM f) (items.map g) P := by
  induction items with
  | nil => exact .pure []
  | cons a rest ih =>
    rw [List.mapM_cons]
    exact .bind (each a (List.mem_cons_self ..))
      (.bind (ih fun a member => each a (List.mem_cons_of_mem _ member)) (.pure _))

/-- What holds of all worlds with `P` has its own way from each of them. -/
theorem Yields.context {id : Nat} {next : Context → Session β}
    (rest : ∀ c, Yields (fun w => P w ∧ w.contexts.getD id default = c) (next c) b Q) :
    Yields P (Session.context id >>= next) b Q :=
  fun w holds => rest _ w ⟨holds, rfl⟩

def Succeeds (P : World → Prop) (op : Session α) (Q : World → Prop) : Prop :=
  ∀ w, P w → ∃ a v, op.outcome w = (.ok a, v) ∧ Q v

/-- What an operation that succeeds leaves is what it keeps. -/
theorem Yields.keeps {op : Session α} (yields : Yields P op a P) : Keeps P op := by
  intro w holds
  obtain ⟨v, done, after⟩ := yields w holds
  rw [done]
  exact after

theorem Yields.succeeds {op : Session α} (yields : Yields P op a Q) : Succeeds P op Q := by
  intro w holds
  obtain ⟨v, done, after⟩ := yields w holds
  exact ⟨a, v, done, after⟩

theorem Succeeds.keeps {op : Session α} (succeeds : Succeeds P op P) : Keeps P op := by
  intro w holds
  obtain ⟨a, v, done, after⟩ := succeeds w holds
  rw [done]
  exact after

/-- What an operation keeps is there whether or not it fails. -/
theorem Keeps.succeeds_attempt {op : Session α} (kept : Keeps P op) :
    Succeeds P (Session.attempt op) P := by
  intro w holds
  exact ⟨_, _, outcome_attempt op w, kept w holds⟩

theorem Succeeds.bind {op : Session α} {next : α → Session β} (first : Succeeds P op Q)
    (rest : ∀ a, Succeeds Q (next a) R) : Succeeds P (op >>= next) R := by
  intro w holds
  obtain ⟨a, u, done, between⟩ := first w holds
  obtain ⟨b, v, then_, after⟩ := rest a u between
  exact ⟨b, v, by rw [outcome_bind_ok done, then_], after⟩

theorem Yields.bind_succeeds {op : Session α} {next : α → Session β} (first : Yields P op a Q)
    (rest : Succeeds Q (next a) R) : Succeeds P (op >>= next) R := by
  intro w holds
  obtain ⟨u, done, between⟩ := first w holds
  obtain ⟨b, v, then_, after⟩ := rest u between
  exact ⟨b, v, by rw [outcome_bind_ok done, then_], after⟩

theorem Succeeds.mapM {f : α → Session β} (each : ∀ a, Succeeds P (f a) P) (items : List α) :
    Succeeds P (items.mapM f) P := by
  induction items with
  | nil => exact (Yields.pure []).succeeds
  | cons a rest ih =>
    rw [List.mapM_cons]
    exact .bind (each a) fun _ => .bind ih fun _ => (Yields.pure _).succeeds

theorem Succeeds.foldlM {step : β → α → Session β} {items : List α}
    (each : ∀ b, ∀ a ∈ items, Succeeds P (step b a) P) (b : β) :
    Succeeds P (items.foldlM step b) P := by
  induction items generalizing b with
  | nil => exact (Yields.pure b).succeeds
  | cons a rest ih =>
    exact .bind (each b a (List.mem_cons_self ..))
      (ih fun b a member => each b a (List.mem_cons_of_mem _ member))

/-- In a world with `P` the operation fails with a failure, and leaves a world with `Q`. -/
def Refuses (P : World → Prop) (op : Session α) (failure : Failure) (Q : World → Prop) : Prop :=
  ∀ w, P w → ∃ v, op.outcome w = (.error failure, v) ∧ Q v

variable {failure : Failure}

theorem Refuses.bind {op : Session α} {next : α → Session β} (refuses : Refuses P op failure Q) :
    Refuses P (op >>= next) failure Q := by
  intro w holds
  obtain ⟨v, failed, after⟩ := refuses w holds
  exact ⟨v, outcome_bind_error failed _, after⟩

theorem Yields.bind_refuses {op : Session α} {next : α → Session β} (first : Yields P op a Q)
    (refuses : Refuses Q (next a) failure R) : Refuses P (op >>= next) failure R := by
  intro w holds
  obtain ⟨u, done, between⟩ := first w holds
  obtain ⟨v, failed, after⟩ := refuses u between
  exact ⟨v, by rw [outcome_bind_ok done, failed], after⟩

theorem Refuses.annotate {op : Session α} (note : Failure → Failure) (refuses : Refuses P op failure Q) :
    Refuses P (Session.annotate note op) (note failure) Q := by
  intro w holds
  obtain ⟨v, failed, after⟩ := refuses w holds
  exact ⟨v, by rw [outcome_annotate, failed]; rfl, after⟩

theorem Refuses.attempt {op : Session α} (refuses : Refuses P op failure Q) :
    Yields P (Session.attempt op) (.error failure) Q := by
  intro w holds
  obtain ⟨v, failed, after⟩ := refuses w holds
  exact ⟨v, by rw [outcome_attempt, failed], after⟩

end Yielding

end EntityStore.Session
