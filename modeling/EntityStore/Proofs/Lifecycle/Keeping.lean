import EntityStore.Proofs.Transaction.Withstanding
import EntityStore.Proofs.Update.Course

/-! # What the calls of a context keep

What holds of a world whenever a context is opened or closed, and whenever a statement about
transactions is run on it, holds through its lifecycle and through whole transactions:

* `Session.Transacts` — a kind of computations to which opening and closing a context belong, and what
  is put together of them; `Session.Transacts.update` — so do transactions, run again or not.
* `Session.Governs` — a property that these steps keep.
* `Session.Governs.reopen`, `Session.Governs.openNamed`, `Session.Governs.setUser` — calls that part
  with the connection.
* `Session.Governs.runOnce`, `Session.Governs.update` — transactions.
-/

namespace EntityStore.Session

variable {F : (α : Type) → Session α → Prop} {P : World → Prop} {id : Nat} {α : Type} {block : Session α}

/-! ## What transactions are made of -/

/-- A kind of computations to which opening and closing a context belong, statements about its
    transactions, and whatever is put together of them. -/
structure Transacts (F : (α : Type) → Session α → Prop) (id : Nat) : Prop where
  reports : ∀ e, F Unit (report e)
  opens : F Unit (openContext id)
  closes : F Unit (forceClose id)
  controls : ∀ s, F Unit (control id s)
  context : F Context (context id)
  pure : ∀ {α : Type} (a : α), F α (Pure.pure a)
  throw : ∀ {α : Type} (failure : Failure), F α (MonadExcept.throw failure)
  bind : ∀ {α β : Type} {op : Session α} {next : α → Session β}, F α op → (∀ a, F β (next a)) →
    F β (op >>= next)
  attempt : ∀ {α : Type} {op : Session α}, F α op → F (Except Failure α) (Session.attempt op)
  annotate : ∀ {α : Type} (note : Failure → Failure) {op : Session α}, F α op →
    F α (Session.annotate note op)

namespace Transacts

variable (transacts : Transacts F id)
include transacts

theorem beginWrite : F Nat (beginWrite id) :=
  transacts.bind transacts.opens fun _ => transacts.bind transacts.context fun _ =>
    transacts.bind (transacts.annotate _ (transacts.controls _)) fun _ => transacts.pure _

theorem controlOn (generation : Nat) (s : Sql.Statement) (op : String) :
    F Unit (controlOn id generation s op) := by
  refine transacts.bind transacts.context fun c => ?_
  split
  · exact transacts.annotate _ (transacts.controls s)
  · exact transacts.throw _

theorem undo (generation : Nat) : F Unit (undo id generation) := by
  refine transacts.bind transacts.context fun c =>
    transacts.bind (transacts.attempt (transacts.controlOn _ _ _)) fun result => ?_
  cases result with
  | ok _ => exact transacts.reports _
  | error failure => exact transacts.reports _

theorem runOnce (member : F α block) : F α (runOnce id block) := by
  refine transacts.bind transacts.context fun c => transacts.bind transacts.beginWrite fun generation =>
    transacts.bind (transacts.reports _) fun _ => transacts.bind (transacts.attempt <|
      transacts.bind member fun value => transacts.bind (transacts.controlOn _ _ _) fun _ =>
        transacts.pure value) fun result => ?_
  cases result with
  | ok value => exact transacts.bind (transacts.reports _) fun _ => transacts.pure value
  | error failure => exact transacts.bind (transacts.undo generation) fun _ => transacts.throw failure

theorem retry (member : F α block) : F α (retry id block) :=
  transacts.bind transacts.context fun _ => transacts.bind (transacts.reports _) fun _ =>
    transacts.bind transacts.closes fun _ => transacts.bind transacts.opens fun _ =>
      transacts.runOnce member

theorem conclude (tag : String) (request : RequestId) (result : Except Failure α) :
    F α (conclude tag request result) := by
  cases result with
  | ok value => exact transacts.bind (transacts.reports _) fun _ => transacts.pure value
  | error failure => exact transacts.bind (transacts.reports _) fun _ => transacts.throw _

theorem update (requests : F RequestId newRequestId) (member : F α block) : F α (update id block) := by
  refine transacts.bind transacts.context fun c => transacts.bind requests fun request =>
    transacts.bind (transacts.reports _) fun _ =>
      transacts.bind (transacts.attempt (transacts.runOnce member)) fun first => ?_
  have ends := transacts.conclude (α := α) c.tag request
  cases first with
  | ok value => exact transacts.bind (transacts.pure _) ends
  | error failure =>
    dsimp only
    split
    · exact transacts.bind (transacts.attempt (transacts.retry member)) ends
    · exact transacts.bind (transacts.pure _) ends

end Transacts

/-! ## What they keep -/

/-- A property of worlds that opening and closing a context keep, and statements about its
    transactions. -/
structure Governs (P : World → Prop) (id : Nat) : Prop where
  reports : ∀ e, Keeps P (report e)
  opens : Keeps P (openContext id)
  closes : Keeps P (forceClose id)
  controls : ∀ s, Keeps P (control id s)

namespace Governs

variable (governs : Governs P id)
include governs

theorem closeContext : Keeps P (closeContext id) := by
  refine .bind (fun _ holds => holds) fun c => ?_
  cases c.connection.isSome with
  | true => exact .bind governs.closes fun _ => governs.reports _
  | false => exact .pure _

/-- The connection is closed, the settings change, and the context is opened again. -/
theorem exchange {f : Context → Context} (settings : Keeps P (modifyContext id f)) : Keeps P (do
    Session.closeContext id
    modifyContext id f
    openContext id : Session Unit) :=
  .bind governs.closeContext fun _ => .bind settings fun _ => governs.opens

theorem reopen (settings : Keeps P (modifyContext id fun c => { c with nameOverride := none })) :
    Keeps P (reopen id) := governs.exchange settings

theorem openNamed {name : String}
    (settings : Keeps P (modifyContext id fun c => { c with nameOverride := some name })) :
    Keeps P (openNamed id name) := governs.exchange settings

theorem setUser {user : String}
    (settings : Keeps P (modifyContext id fun c => { c with userId := some user })) :
    Keeps P (setUser id user) := by
  refine .bind (fun _ holds => holds) fun c => ?_
  split
  · exact .bind governs.closeContext fun _ => settings
  · exact .pure _

theorem transacts : Transacts (fun _ op => Keeps P op) id where
  reports := governs.reports
  opens := governs.opens
  closes := governs.closes
  controls := governs.controls
  context := fun _ holds => holds
  pure := .pure
  throw := .throw
  bind := .bind
  attempt := .attempt
  annotate note _ kept := kept.annotate note

theorem runOnce (kept : Keeps P block) : Keeps P (runOnce id block) := governs.transacts.runOnce kept

theorem update (requests : Keeps P newRequestId) (kept : Keeps P block) : Keeps P (update id block) :=
  governs.transacts.update requests kept

end Governs

end EntityStore.Session
