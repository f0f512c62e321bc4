import EntityStore.Proofs.Transaction.Withstanding
import EntityStore.Store.Registry

/-! # Worlds without the texts of secrets

A world looks the same without the texts of its secrets, to everything but the opening of a connection:

* `World.concealed` — the world with nothing in the place of secret texts.
* `Session.Blind` — an operation that does the same there.
* `Session.Quiet` — an operation that reports nothing and leaves configurations as they are.
* `Session.blind_handling`, `Session.quiet_handling` — what the engine is given to do is both.
-/

namespace EntityStore

open EntityStore.Engine (Handle Lock)

/-! ## Concealing -/

def Secret.concealed (_ : Secret) : Secret := ⟨""⟩

def ContextConfig.concealed (c : ContextConfig) : ContextConfig :=
  { c with secret := c.secret.map Secret.concealed }

def StoreConfig.concealed (c : StoreConfig) : StoreConfig :=
  { c with contexts := c.contexts.map ContextConfig.concealed }

def Context.concealed (c : Context) : Context := { c with config := c.config.concealed }

/-- The world with nothing in the place of the texts of secrets. -/
def World.concealed (w : World) : World := { w with contexts := w.contexts.map Context.concealed }

def World.configs (w : World) : List ContextConfig := w.contexts.map (·.config)

namespace World

@[simp] theorem getD_concealed (w : World) (id : Nat) :
    w.concealed.contexts.getD id default = (w.contexts.getD id default).concealed := by
  simp only [concealed, List.getD_eq_getElem?_getD, List.getElem?_map]
  cases w.contexts[id]? <;> rfl

theorem isIdle_concealed (w : World) (id : Nat) : w.concealed.isIdle id = w.isIdle id := by
  rw [isIdle, getD_concealed]
  rfl

theorem modify_concealed {f : Context → Context} (blind : ∀ c, f c.concealed = (f c).concealed)
    (contexts : List Context) (id : Nat) : (contexts.map Context.concealed).modify id f =
      (contexts.modify id f).map Context.concealed := by
  apply List.ext_getElem?
  intro i
  simp only [List.getElem?_map, List.getElem?_modify]
  cases contexts[i]? with
  | none => rfl
  | some c => by_cases here : id = i <;> simp [here, blind]

theorem modify_configs {f : Context → Context} (kept : ∀ c, (f c).config = c.config)
    (contexts : List Context) (id : Nat) :
    (contexts.modify id f).map (·.config) = contexts.map (·.config) := by
  apply List.ext_getElem?
  intro i
  simp only [List.getElem?_map, List.getElem?_modify]
  cases contexts[i]? with
  | none => rfl
  | some c => by_cases here : id = i <;> simp [here, kept]

theorem othersOn_concealed (w : World) (id : Nat) (path : List String) :
    w.concealed.othersOn id path = w.othersOn id path := by
  simp only [othersOn, concealed, List.zipIdx_map, List.filterMap_map]
  rfl

theorem others_concealed (w : World) (id : Nat) (c : Connection) :
    w.concealed.others id c = w.others id c := by
  rw [others, others]
  cases c.file? with
  | none => rfl
  | some path => exact othersOn_concealed w id path

theorem putHandle_concealed (w : World) (id : Nat) (c : Connection) (h : Handle) :
    w.concealed.putHandle id c h = (w.putHandle id c h).concealed := by
  rw [putHandle, putHandle, concealed, concealed]
  congr 1
  apply modify_concealed
  intro context
  rfl

theorem configs_putHandle (w : World) (id : Nat) (c : Connection) (h : Handle) :
    (w.putHandle id c h).configs = w.configs := by
  apply modify_configs
  intro context
  rfl

end World

namespace Session

variable {α : Type}

/-- An operation that does the same where the texts of secrets are concealed. -/
def Blind (op : Session α) : Prop :=
  ∀ w, op.outcome w.concealed = ((op.outcome w).1, (op.outcome w).2.concealed)

/-- An operation that reports nothing, and leaves the configurations of contexts as they are. -/
def Quiet (op : Session α) : Prop :=
  ∀ w, (op.outcome w).2.log = w.log ∧ (op.outcome w).2.configs = w.configs

/-! ## Single steps -/

theorem blind_modify {f : World → World} (blind : ∀ w, f w.concealed = (f w).concealed) :
    Blind (modify f : Session Unit) := fun w => by rw [outcome_modify, outcome_modify, blind]

theorem quiet_modify {f : World → World} (log : ∀ w, (f w).log = w.log)
    (configs : ∀ w, (f w).configs = w.configs) : Quiet (modify f : Session Unit) :=
  fun w => ⟨log w, configs w⟩

theorem blind_modifyContext {f : Context → Context} (blind : ∀ c, f c.concealed = (f c).concealed)
    (id : Nat) : Blind (modifyContext id f) := by
  refine blind_modify fun w => ?_
  rw [World.concealed, World.concealed]
  congr 1
  exact World.modify_concealed blind w.contexts id

theorem quiet_modifyContext {f : Context → Context} (kept : ∀ c, (f c).config = c.config) (id : Nat) :
    Quiet (modifyContext id f) :=
  quiet_modify (fun _ => rfl) fun w => World.modify_configs kept w.contexts id

theorem blind_nextFault (id : Nat) (kind : Bool → Faults → Nat → Option Refusal) :
    Blind (nextFault id kind) := by
  intro w
  rw [outcome_nextFault, outcome_nextFault, World.isIdle_concealed]
  rfl

theorem quiet_nextFault (id : Nat) (kind : Bool → Faults → Nat → Option Refusal) :
    Quiet (nextFault id kind) := by
  intro w
  rw [outcome_nextFault]
  exact ⟨rfl, rfl⟩

/-- What the engine does behind a connection. -/
def handling (id : Nat) (step : List Lock → Handle → Except Refusal α × Handle) (c : Connection) :
    Session α := do
  let w ← get
  match w.handle? c with
  | none => refuse .foreign
  | some h =>
    let (result, h) := step (w.others id c) h
    set (w.putHandle id c h)
    match result with
    | .ok a => return a
    | .error r => refuse r

theorem outcome_handling (id : Nat) (step : List Lock → Handle → Except Refusal α × Handle)
    (c : Connection) (w : World) : (handling id step c).outcome w =
      match w.handle? c with
      | none => (.error Refusal.foreign.toFailure, w)
      | some h => ((step (w.others id c) h).1.mapError Refusal.toFailure,
          w.putHandle id c (step (w.others id c) h).2) := by
  rw [handling, outcome_bind_ok (outcome_get w)]
  cases w.handle? c with
  | none => rfl
  | some h =>
    dsimp only
    rcases step (w.others id c) h with ⟨result, next⟩
    rw [outcome_bind_ok (outcome_set w _)]
    cases result <;> rfl

variable {id : Nat} {step : List Lock → Handle → Except Refusal α × Handle}

theorem blind_handling (c : Connection) : Blind (handling id step c) := by
  intro w
  have same : w.concealed.handle? c = w.handle? c := rfl
  rw [outcome_handling, outcome_handling, same, World.others_concealed]
  cases w.handle? c with
  | none => rfl
  | some h =>
    dsimp only
    rw [World.putHandle_concealed]

theorem quiet_handling (c : Connection) : Quiet (handling id step c) := by
  intro w
  rw [outcome_handling]
  cases w.handle? c with
  | none => exact ⟨rfl, rfl⟩
  | some h => exact ⟨rfl, World.configs_putHandle ..⟩

def takeFile (path : List String) : Session Unit := do
  let w ← get
  if Engine.mayCommit (w.othersOn w.contexts.length path) then
    set { w with guests := path :: w.guests }
  else refuse .busy

theorem outcome_takeFile (path : List String) (w : World) : (takeFile path).outcome w =
    if Engine.mayCommit (w.othersOn w.contexts.length path) then
      (.ok (), { w with guests := path :: w.guests })
    else (.error Refusal.busy.toFailure, w) := by
  rw [takeFile, outcome_bind_ok (outcome_get w)]
  split <;> rfl

theorem blind_takeFile (path : List String) : Blind (takeFile path) := by
  intro w
  have length : w.concealed.contexts.length = w.contexts.length := List.length_map ..
  rw [outcome_takeFile, outcome_takeFile, length, World.othersOn_concealed]
  split <;> rfl

theorem quiet_takeFile (path : List String) : Quiet (takeFile path) := by
  intro w
  rw [outcome_takeFile]
  split <;> exact ⟨rfl, rfl⟩

end Session

end EntityStore
