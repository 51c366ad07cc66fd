/-
Module: VortexBackend.Async.Program
Purpose: Programs that have returned or await one call; between two awaits nothing interrupts them.
Main exports: Program, Async, Async.Calls
-/
import Mathlib.Tactic.Common

namespace VortexBackend

/-- A program over calls with the given replies: a value, or an awaited call and its continuation. -/
inductive Program {Call : Type} (Reply : Call → Type) (α : Type) where
  | done (value : α)
  | await (call : Call) (next : Reply call → Program Reply α)

namespace Program

variable {Call : Type} {Reply : Call → Type} {α β γ : Type}

/-- Sequential composition: graft the second program onto every leaf of the first. -/
def bind : Program Reply α → (α → Program Reply β) → Program Reply β
  | .done value, f => f value
  | .await call next, f => .await call fun reply => (next reply).bind f

instance : Monad (Program Reply) where
  pure := .done
  bind := bind

@[simp] theorem pure_eq (value : α) : (pure value : Program Reply α) = .done value := rfl

@[simp] theorem done_bind (value : α) (f : α → Program Reply β) : (Program.done value >>= f) = f value := rfl

@[simp] theorem await_bind (call : Call) (next : Reply call → Program Reply α) (f : α → Program Reply β) :
    (Program.await call next >>= f) = .await call fun reply => next reply >>= f := rfl

theorem map_await (call : Call) (next : Reply call → Program Reply α) (f : α → β) :
    f <$> Program.await call next = .await call fun reply => f <$> next reply := rfl

theorem lawfulMonad : LawfulMonad (Program Reply) := by
  refine .mk' _ (fun x => ?_) (fun _ _ => rfl) fun x f g => ?_
  all_goals
    induction x with
    | done => rfl
    | await call next ih => exact congrArg (Program.await call) (funext ih)

/-- Every call that the program can make, whatever the replies, satisfies `C`. -/
def Calls (C : Call → Prop) : Program Reply α → Prop
  | .done _ => True
  | .await call next => C call ∧ ∀ reply, (next reply).Calls C

variable {x : Program Reply α}

theorem Calls.mono {C C' : Call → Prop} (h : x.Calls C) (weaker : ∀ c, C c → C' c) : x.Calls C' := by
  induction x with
  | done value => trivial
  | await call next ih => exact ⟨weaker call h.1, fun reply => ih reply (h.2 reply)⟩

theorem calls_bind {C : Call → Prop} {f : α → Program Reply β} (first : x.Calls C)
    (rest : ∀ value, (f value).Calls C) :
    (x >>= f).Calls C := by
  induction x with
  | done value => exact rest value
  | await call next ih => exact ⟨first.1, fun reply => ih reply (first.2 reply)⟩

end Program

/-- A program that may also throw: the shape of an `async` function. -/
abbrev Async {Call : Type} (Reply : Call → Type) (ε α : Type) := ExceptT ε (Program Reply) α

namespace Async

variable {Call : Type} {Reply : Call → Type} {ε α β : Type}

/-- Await one call. -/
def call (c : Call) : Async Reply ε (Reply c) := ExceptT.lift (.await c .done)

/-- Await a call whose reply is itself a success or a failure, and rethrow the failure. -/
def attempt (x : Async Reply ε (Except ε α)) : Async Reply ε α := do
  match ← x with
  | .ok value => pure value
  | .error e => throw e

/-- Throw `e` when the condition holds; otherwise go on. -/
def throwWhen (condition : Bool) (e : ε) : Async Reply ε Unit :=
  if condition then throw e else pure ()

/-- Lift a synchronous computation that may throw. -/
def ofExcept : Except ε α → Async Reply ε α
  | .ok value => pure value
  | .error e => throw e

/-- `try { body } finally { cleanup }`: the cleanup runs on both exits and the outcome of the body is
    kept, unless the cleanup throws itself. -/
def tryFinally (body : Async Reply ε α) (cleanup : Async Reply ε Unit) : Async Reply ε α := do
  let outcome ← tryCatch (body >>= fun value => pure (Except.ok value)) fun e => pure (.error e)
  cleanup
  ofExcept outcome

theorem run_tryFinally (body : Async Reply ε α) (cleanup : Async Reply ε Unit) :
    (tryFinally body cleanup).run = body.run >>= fun outcome => cleanup.run >>= fun
      | .ok _ => pure outcome
      | .error e => pure (.error e) := by
  have := @Program.lawfulMonad Call Reply
  change ((body.run >>= _) >>= _) >>= _ = _
  rw [bind_assoc, bind_assoc]
  refine congrArg (body.run >>= ·) (funext fun outcome => ?_)
  cases outcome <;> exact congrArg (cleanup.run >>= ·) (funext fun done => by cases done <;> rfl)

/-- A `for … of` loop over a list that was read before the loop. -/
def onEach (body : α → Async Reply ε Unit) : List α → Async Reply ε Unit
  | [] => pure ()
  | x :: xs => do
    body x
    onEach body xs

/-- A `for … of` loop that carries an accumulator. -/
def onEachWith (body : β → α → Async Reply ε β) : β → List α → Async Reply ε β
  | acc, [] => pure acc
  | acc, x :: xs => do
    let acc ← body acc x
    onEachWith body acc xs

/-! ### Which calls a function can make -/

/-- What a sequel asks of the outcome of what comes before it. -/
def onOk {ε α σ : Type} (Q : ε → σ → Prop) (P : α → σ → Prop) : Except ε α → σ → Prop
  | .ok value, s => P value s
  | .error e, s => Q e s

@[simp] theorem onOk_ok {σ : Type} (Q : ε → σ → Prop) (P : α → σ → Prop) (value : α) (s : σ) :
    onOk Q P (.ok value) s = P value s := rfl

@[simp] theorem onOk_error {σ : Type} (Q : ε → σ → Prop) (P : α → σ → Prop) (e : ε) (s : σ) :
    onOk Q P (.error e) s = Q e s := rfl

/-- Every call that the function can make satisfies `C`. -/
def Calls (C : Call → Prop) (x : Async Reply ε α) : Prop := Program.Calls C x.run

section Calls

variable {C : Call → Prop}

@[simp] theorem calls_pure (value : α) : Calls C (pure value : Async Reply ε α) := trivial

@[simp] theorem calls_throw (e : ε) : Calls C (throw e : Async Reply ε α) := trivial

@[simp] theorem calls_call (c : Call) : Calls C (call c : Async Reply ε (Reply c)) ↔ C c :=
  ⟨fun h => h.1, fun h => ⟨h, fun _ => trivial⟩⟩

variable {x : Async Reply ε α}

theorem calls_bind {f : α → Async Reply ε β} (first : Calls C x) (rest : ∀ value, Calls C (f value)) :
    Calls C (x >>= f) := by
  refine Program.calls_bind first fun outcome => ?_
  cases outcome with
  | ok value => exact rest value
  | error e => trivial

theorem calls_tryCatch {handler : ε → Async Reply ε α} (body : Calls C x) (caught : ∀ e, Calls C (handler e)) :
    Calls C (tryCatch x handler) := by
  refine Program.calls_bind body fun outcome => ?_
  cases outcome with
  | ok value => trivial
  | error e => exact caught e

@[simp] theorem calls_throwWhen (condition : Bool) (e : ε) :
    Calls C (throwWhen condition e : Async Reply ε Unit) := by
  cases condition <;> trivial

@[simp] theorem calls_ofExcept (outcome : Except ε α) : Calls C (ofExcept outcome : Async Reply ε α) := by
  cases outcome <;> trivial

theorem calls_attempt {x : Async Reply ε (Except ε α)} (h : Calls C x) : Calls C (attempt x) := by
  refine calls_bind h fun outcome => ?_
  cases outcome <;> trivial

theorem calls_onEachWith {body : β → α → Async Reply ε β} {xs acc}
    (h : ∀ acc, ∀ x ∈ xs, Calls C (body acc x)) :
    Calls C (onEachWith body acc xs) := by
  induction xs generalizing acc with
  | nil => trivial
  | cons x xs ih => exact calls_bind (h acc x (.head _)) fun _ => ih fun acc y hy => h acc y (.tail _ hy)

theorem calls_tryFinally {body : Async Reply ε α} {cleanup : Async Reply ε Unit} (h : Calls C body)
    (last : Calls C cleanup) : Calls C (tryFinally body cleanup) := by
  refine calls_bind (calls_tryCatch (calls_bind h fun _ => ?_) fun _ => ?_) fun _ => ?_
  · exact calls_pure _
  · exact calls_pure _
  · exact calls_bind last fun _ => calls_ofExcept _

theorem Calls.mono {C' : Call → Prop} (h : Calls C x) (weaker : ∀ c, C c → C' c) : Calls C' x :=
  Program.Calls.mono h weaker

end Calls

end Async

end VortexBackend
