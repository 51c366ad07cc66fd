/-
Module: VortexBackend.Async.RelyGuarantee
Purpose: A program keeps a contract, and ends in its postcondition, while others that keep it move at every await.
Main exports: wp, Stable, Contract.Holds
-/
import Mathlib.Logic.Relation
import VortexBackend.Async.Service

namespace VortexBackend

variable {Call : Type} {Reply : Call → Type} {World Choice Drift Request Outcome : Type}

/-- What every program keeps: an invariant of the shared view, and a promise about each of its calls in
    the view in which the call is made. -/
structure Contract {Call : Type} (Reply : Call → Type) (World Request : Type) where
  inv : View Reply World Request → Prop
  promise : View Reply World Request → Event Reply Request → Prop

/-- A call made within the contract. -/
structure Kept (S : Service Reply World Choice Drift Request Outcome)
    (E : Setting Reply World Request) (K : Contract Reply World Request)
    (v : View Reply World Request) (e : Event Reply Request) (v' : View Reply World Request) :
    Prop extends Answered S E v e v' where
  before : K.inv v
  promise : K.promise v e
  after : K.inv v'

section Logic

variable (S : Service Reply World Choice Drift Request Outcome) (E : Setting Reply World Request)
  (K : Contract Reply World Request)

/-- One move of anything but `a`: a call of another program within the contract, or a drift. -/
inductive Interference (a : Actor Request) :
    View Reply World Request → View Reply World Request → Prop where
  | call {v v' : View Reply World Request} {e : Event Reply Request} (other : e.actor.pid ≠ a.pid)
      (kept : Kept S E K v e v') : Interference a v v'
  | drift {v : View Reply World Request} {d : Drift} {w : World}
      (drifted : S.drift d v.world = some w) (before : K.inv v)
      (after : K.inv { v with world := w }) : Interference a v { v with world := w }

variable (a : Actor Request)

/-- Any number of moves of everything but `a`. -/
def Rely : View Reply World Request → View Reply World Request → Prop :=
  Relation.ReflTransGen (Interference S E K a)

/-- An assertion that no move of anything but `a` destroys. -/
def Stable (P : View Reply World Request → Prop) : Prop :=
  ∀ v v', Interference S E K a v v' → P v → P v'

/-- From `v`, the program of `a` keeps the contract whatever the others do at its awaits, and if it
    returns it returns in `Q`. -/
def wpProgram (a : Actor Request) {α : Type} :
    Program Reply α → (α → View Reply World Request → Prop) → View Reply World Request → Prop
  | .done value, Q, v => Q value v
  | .await call next, Q, v =>
    ∀ v₁ reply v₂, Rely S E K a v v₁ → K.inv v₁ → Answered S E v₁ ⟨a, call, reply⟩ v₂ →
      K.promise v₁ ⟨a, call, reply⟩ ∧ K.inv v₂ ∧ wpProgram a (next reply) Q v₂

/-- The same for an asynchronous function, whose outcome is a value or what it threw. -/
def wp {ε α : Type} (x : Async Reply ε α)
    (Q : Except ε α → View Reply World Request → Prop) (v : View Reply World Request) : Prop :=
  wpProgram S E K a x.run Q v

/-- The contract, asked once of everything a run is made of. A program starts with no call of its own
    in the history. -/
structure Contract.Holds : Prop where
  initial : ∀ w, E.initial w → K.inv ⟨w, []⟩
  drift : ∀ v d w, K.inv v → S.drift d v.world = some w → K.inv { v with world := w }
  start : ∀ pid request v, E.admits request → K.inv v → (∀ e ∈ v.history, e.actor.pid ≠ pid) →
    wpProgram S E K ⟨pid, request⟩ (S.start request) (fun _ _ => True) v

end Logic

variable {S : Service Reply World Choice Drift Request Outcome} {E : Setting Reply World Request}
  {K : Contract Reply World Request} {a : Actor Request} {α β ε : Type}

/-! ### Stability -/

variable {P : View Reply World Request → Prop} {v : View Reply World Request} {x : Program Reply α}
  {v' : View Reply World Request}

theorem Stable.rely (stable : Stable S E K a P) (rely : Rely S E K a v v') (holds : P v) : P v' := by
  induction rely with
  | refl => exact holds
  | tail _ last ih => exact stable _ _ last ih

theorem Stable.and {Q : View Reply World Request → Prop} (hP : Stable S E K a P) (hQ : Stable S E K a Q) :
    Stable S E K a fun v => P v ∧ Q v :=
  fun v v' move holds => ⟨hP v v' move holds.1, hQ v v' move holds.2⟩

theorem Stable.const (p : Prop) : Stable S E K a fun _ => p := fun _ _ _ holds => holds

/-- An assertion is stable when every kept call of another program and every drift preserves it. -/
theorem Stable.of_moves (call : ∀ v e v', e.actor.pid ≠ a.pid → Kept S E K v e v' → P v → P v')
    (drift : ∀ v d w, S.drift d v.world = some w → K.inv v → K.inv { v with world := w } → P v →
      P { v with world := w }) : Stable S E K a P := by
  intro v v' move holds
  cases move with
  | call other kept => exact call v _ v' other kept holds
  | drift drifted before after => exact drift v _ _ drifted before after holds

/-! ### Rules for programs -/

theorem wpProgram_mono {Q Q' : α → View Reply World Request → Prop}
    (weaker : ∀ value v, Q value v → Q' value v) :
    ∀ {v}, wpProgram S E K a x Q v → wpProgram S E K a x Q' v := by
  induction x with
  | done value => exact fun h => weaker value _ h
  | await call next ih =>
    intro v h v₁ reply v₂ rely inv answered
    obtain ⟨promise, after, rest⟩ := h v₁ reply v₂ rely inv answered
    exact ⟨promise, after, ih reply rest⟩

theorem wpProgram_bind (x : Program Reply α) (f : α → Program Reply β)
    (Q : β → View Reply World Request → Prop) (v : View Reply World Request) :
    wpProgram S E K a (x >>= f) Q v ↔ wpProgram S E K a x (fun value v' => wpProgram S E K a (f value) Q v') v := by
  induction x generalizing v with
  | done value => rfl
  | await call next ih => simp only [Program.await_bind, wpProgram, ih]

/-- Moves of the others before the next await do not matter to a program with no postcondition. -/
theorem wpProgram_rely (h : wpProgram S E K a x (fun _ _ => True) v) (rely : Rely S E K a v v') :
    wpProgram S E K a x (fun _ _ => True) v' := by
  cases x with
  | done value => trivial
  | await call next => exact fun v₁ reply v₂ later => h v₁ reply v₂ (rely.trans later)

/-! ### Rules for asynchronous functions -/

open Async (onOk onOk_ok onOk_error)

theorem wp_mono {x} {Q Q' : Except ε α → View Reply World Request → Prop}
    (weaker : ∀ outcome v, Q outcome v → Q' outcome v) (h : wp S E K a x Q v) : wp S E K a x Q' v :=
  wpProgram_mono weaker h

variable {Q : Except ε α → View Reply World Request → Prop} {v : View Reply World Request}

@[simp] theorem wp_pure (value : α) : wp S E K a (pure value : Async Reply ε α) Q v ↔ Q (.ok value) v := Iff.rfl

@[simp] theorem wp_throw (e : ε) : wp S E K a (throw e : Async Reply ε α) Q v ↔ Q (.error e) v := Iff.rfl

@[simp] theorem wp_bind (x : Async Reply ε β) (f : β → Async Reply ε α) :
    wp S E K a (x >>= f) Q v ↔
      wp S E K a x (onOk (fun e v' => Q (.error e) v') fun value v' => wp S E K a (f value) Q v') v := by
  refine (wpProgram_bind x (ExceptT.bindCont f) Q v).trans ?_
  constructor <;> refine wp_mono fun outcome v' h => ?_ <;> cases outcome <;> exact h

@[simp] theorem wp_tryCatch (x : Async Reply ε α) (handler : ε → Async Reply ε α) :
    wp S E K a (tryCatch x handler) Q v ↔
      wp S E K a x (onOk (fun e v' => wp S E K a (handler e) Q v') fun value v' => Q (.ok value) v') v := by
  refine (wpProgram_bind x _ Q v).trans ?_
  constructor <;> refine wp_mono fun outcome v' h => ?_ <;> cases outcome <;> exact h

@[simp] theorem wp_throwWhen (condition : Bool) (e : ε) (Q : Except ε Unit → View Reply World Request → Prop) :
    wp S E K a (Async.throwWhen condition e) Q v ↔
      (condition = true → Q (.error e) v) ∧ (condition = false → Q (.ok ()) v) := by
  cases condition <;> simp [Async.throwWhen]

@[simp] theorem wp_ofExcept (outcome : Except ε α) : wp S E K a (Async.ofExcept outcome) Q v ↔ Q outcome v := by
  cases outcome <;> rfl

@[simp] theorem wp_attempt (x : Async Reply ε (Except ε α)) :
    wp S E K a (Async.attempt x) Q v ↔
      wp S E K a x (onOk (fun e v' => Q (.error e) v') fun outcome v' => Q outcome v') v := by
  refine (wp_bind x _).trans ?_
  constructor <;> refine wp_mono fun outcome v' h => ?_
  · rcases outcome with e | (e | value) <;> exact h
  · rcases outcome with e | (e | value) <;> exact h

theorem wp_attempt_bind {x} {f : β → Async Reply ε α}
    (h : wp S E K a x (onOk (fun e v' => Q (.error e) v') fun reply v' =>
      onOk (fun e v' => Q (.error e) v') (fun value v' => wp S E K a (f value) Q v') reply v') v) :
    wp S E K a (Async.attempt x >>= f) Q v :=
  (wp_bind _ _).mpr ((wp_attempt _).mpr h)

theorem wp_tryFinally (body : Async Reply ε α) (cleanup : Async Reply ε Unit) :
    wp S E K a (Async.tryFinally body cleanup) Q v ↔
      wp S E K a body (fun outcome v' => wp S E K a cleanup
        (onOk (fun e v'' => Q (.error e) v'') fun _ v'' => Q outcome v'') v') v := by
  unfold Async.tryFinally
  simp only [wp_bind, wp_tryCatch, wp_pure, wp_ofExcept]
  constructor <;> refine wp_mono fun outcome v' h => ?_ <;> cases outcome <;> exact h

theorem wp_call {c} {Q : Except ε (Reply c) → View Reply World Request → Prop}
    (stable : Stable S E K a P) (holds : P v)
    (made : ∀ v₁ reply v₂, K.inv v₁ → P v₁ → Answered S E v₁ ⟨a, c, reply⟩ v₂ →
      K.promise v₁ ⟨a, c, reply⟩ ∧ K.inv v₂ ∧ Q (.ok reply) v₂) :
    wp S E K a (Async.call c : Async Reply ε (Reply c)) Q v :=
  fun v₁ reply v₂ rely inv answered => made v₁ reply v₂ inv (stable.rely rely holds) answered

/-- A loop over a list that carries an accumulator, from an assertion about what is left that every iteration advances.
    -/
theorem wp_onEachWith {body : β → α → Async Reply ε β} {P : List α → View Reply World Request → Prop}
    {Q : Except ε β → View Reply World Request → Prop} {xs acc}
    (iteration : ∀ acc x rest, (∃ done, xs = done ++ x :: rest) → ∀ v, P (x :: rest) v →
      wp S E K a (body acc x) (onOk (fun e v' => Q (.error e) v') fun _ v' => P rest v') v)
    (finished : ∀ acc v, P [] v → Q (.ok acc) v) (holds : P xs v) :
    wp S E K a (Async.onEachWith body acc xs) Q v := by
  induction xs generalizing v acc with
  | nil => exact finished acc v holds
  | cons x xs ih =>
    refine (wp_bind _ _).mpr (wp_mono (fun outcome v' h => ?_) (iteration acc x xs ⟨[], rfl⟩ v holds))
    cases outcome with
    | error e => exact h
    | ok acc' =>
      refine ih (fun acc y rest hy => iteration acc y rest ?_) h
      obtain ⟨done, rfl⟩ := hy
      exact ⟨x :: done, rfl⟩

variable {F : View Reply World Request → Prop}

/-- The frame rule: what the others and every call of the program preserve is preserved by the program. -/
theorem wpProgram_frame {C : Call → Prop} (stable : Stable S E K a F)
    (own : ∀ v e v', e.actor = a → C e.call → Kept S E K v e v' → F v → F v')
    {Q : α → View Reply World Request → Prop}
    (calls : x.Calls C) :
    ∀ {v}, wpProgram S E K a x Q v → F v → wpProgram S E K a x (fun value v' => Q value v' ∧ F v') v := by
  induction x with
  | done value => exact fun h frame => ⟨h, frame⟩
  | await call next ih =>
    intro v h frame v₁ reply v₂ rely inv answered
    obtain ⟨promise, after, rest⟩ := h v₁ reply v₂ rely inv answered
    have kept : Kept S E K v₁ ⟨a, call, reply⟩ v₂ := ⟨answered, inv, promise, after⟩
    have frame₂ : F v₂ := own v₁ _ v₂ rfl calls.1 kept (stable.rely rely frame)
    exact ⟨promise, after, ih reply (calls.2 reply) rest frame₂⟩

theorem wp_frame {C : Call → Prop} (stable : Stable S E K a F)
    (own : ∀ v e v', e.actor = a → C e.call → Kept S E K v e v' → F v → F v') {x} (calls : x.Calls C)
    (h : wp S E K a x Q v) (frame : F v) : wp S E K a x (fun outcome v' => Q outcome v' ∧ F v') v :=
  wpProgram_frame stable own calls h frame

/-! ### Soundness -/

namespace Run

/-- Every program of the pool keeps the contract from where it is, and every call in the history was
    made by a program of the pool. -/
private structure Pooled (S : Service Reply World Choice Drift Request Outcome)
    (E : Setting Reply World Request) (K : Contract Reply World Request)
    (c : Config Reply World Request Outcome) : Prop where
  inv : K.inv c.view
  programs : ∀ pid request x, c.pool[pid]? = some (request, x) →
    wpProgram S E K ⟨pid, request⟩ x (fun _ _ => True) c.view
  actors : ∀ e ∈ c.history, e.actor.pid < c.pool.length

variable {c : Config Reply World Request Outcome}
  {ts : List (Transition Reply World Choice Drift Request Outcome)}

theorem Pooled.arrive (pooled : Pooled S E K c) (holds : K.Holds S E) {request} (admitted : E.admits request) :
    Pooled S E K { c with pool := c.pool ++ [(request, S.start request)] } where
  inv := pooled.inv
  programs := by
    intro pid r x hx
    rcases Nat.lt_trichotomy pid c.pool.length with hlt | heq | hgt
    · rw [List.getElem?_append_left hlt] at hx
      exact pooled.programs pid r x hx
    · subst heq
      simp only [List.getElem?_concat_length, Option.some.injEq, Prod.mk.injEq] at hx
      obtain ⟨rfl, rfl⟩ := hx
      exact holds.start _ _ _ admitted pooled.inv fun e he => Nat.ne_of_lt (pooled.actors e he)
    · rw [List.getElem?_eq_none (by simp; omega)] at hx
      cases hx
  actors := by
    intro e he
    have := pooled.actors e he
    simp only [List.length_append, List.length_cons, List.length_nil]
    omega

theorem Pooled.drift (pooled : Pooled S E K c) (holds : K.Holds S E) {d w} (drifted : S.drift d c.world = some w) :
    Pooled S E K { c with world := w } where
  inv := holds.drift c.view d w pooled.inv drifted
  programs := fun pid request x hx => wpProgram_rely (pooled.programs pid request x hx)
    (.single (.drift (v := c.view) drifted pooled.inv (holds.drift c.view d w pooled.inv drifted)))
  actors := pooled.actors

theorem Pooled.act (pooled : Pooled S E K c) {pid request call} {next : Reply call → Program Reply Outcome}
    {choice reply w} (scheduled : c.pool[pid]? = some (request, .await call next))
    (performed : S.perform call choice c.world = some (reply, w))
    (met : E.meets c.view ⟨⟨pid, request⟩, call, reply⟩ w = true) :
    Kept S E K c.view ⟨⟨pid, request⟩, call, reply⟩
        (c.view.after ⟨⟨pid, request⟩, call, reply⟩ w) ∧
      Pooled S E K
        ⟨w, ⟨⟨pid, request⟩, call, reply⟩ :: c.history, c.pool.set pid (request, next reply)⟩ := by
  have answered : Answered S E c.view ⟨⟨pid, request⟩, call, reply⟩
      (c.view.after ⟨⟨pid, request⟩, call, reply⟩ w) := ⟨⟨choice, w, performed, rfl⟩, met⟩
  obtain ⟨promise, after, rest⟩ :=
    pooled.programs pid request _ scheduled c.view reply _ .refl pooled.inv answered
  have kept : Kept S E K c.view ⟨⟨pid, request⟩, call, reply⟩ _ :=
    ⟨answered, pooled.inv, promise, after⟩
  have bound : pid < c.pool.length := (List.getElem?_eq_some_iff.mp scheduled).1
  refine ⟨kept, after, ?_, ?_⟩
  · intro pid' request' x hx
    by_cases same : pid = pid'
    · subst same
      rw [List.getElem?_set_self bound] at hx
      cases hx
      exact rest
    · rw [List.getElem?_set_ne same] at hx
      exact wpProgram_rely (pooled.programs pid' request' x hx) (.single (.call same kept))
  · intro e he
    rw [List.length_set]
    rcases List.mem_cons.mp he with rfl | earlier
    · exact bound
    · exact pooled.actors e earlier

section

variable (holds : K.Holds S E) (run : Run S E ts c)
include holds run

theorem pooled :
    Pooled S E K c ∧ ∀ t ∈ ts, K.inv t.before.view ∧ K.inv t.after.view ∧
      ∀ e, t.event = some e → Kept S E K t.before.view e t.after.view := by
  induction run with
  | start initial =>
    refine ⟨⟨holds.initial _ initial, ?_, ?_⟩, ?_⟩ <;> simp [Config.idle]
  | @step ts c c' m event prior admitted moved met ih =>
    obtain ⟨pooled, past⟩ := ih
    cases m with
    | arrive request =>
      cases moved
      have next := pooled.arrive holds (admitted request rfl)
      exact ⟨next, List.forall_mem_cons.mpr ⟨⟨pooled.inv, next.inv, nofun⟩, past⟩⟩
    | drift d =>
      obtain ⟨w, drifted, rfl, rfl⟩ := S.step_drift_cases moved
      have next := pooled.drift holds drifted
      exact ⟨next, List.forall_mem_cons.mpr ⟨⟨pooled.inv, next.inv, nofun⟩, past⟩⟩
    | act pid choice =>
      obtain ⟨request, call, x, reply, w, scheduled, performed, rfl, rfl⟩ := S.step_act_cases moved
      obtain ⟨kept, next⟩ := pooled.act scheduled performed (met _ rfl)
      refine ⟨next, List.forall_mem_cons.mpr ⟨⟨pooled.inv, next.inv, ?_⟩, past⟩⟩
      intro e he
      cases he
      exact kept

theorem keeps_inv : K.inv c.view :=
  (pooled holds run).1.inv

theorem keeps {t} (ht : t ∈ ts) {e} (he : t.event = some e) : Kept S E K t.before.view e t.after.view :=
  ((pooled holds run).2 t ht).2.2 e he

end

end Run

end VortexBackend
