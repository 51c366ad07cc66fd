/-
Module: VortexBackend.Async.Discipline
Purpose: What a program may call, judged by its own past; the invariant rule for programs that keep to it.
Main exports: Program.Follows, Discipline, Run.invariant
-/
import VortexBackend.Async.Service

namespace VortexBackend

variable {Call : Type} {Reply : Call → Type} {World Choice Drift Request Outcome : Type}

/-- One call of a program and what it was answered. -/
structure Exchange {Call : Type} (Reply : Call → Type) where
  call : Call
  reply : Reply call

/-- From a past (newest first), every call of the program is allowed, and if it returns it returns in
    `Q`. -/
def Program.Follows (allows : List (Exchange Reply) → Call → Prop) {α : Type} :
    Program Reply α → (α → List (Exchange Reply) → Prop) → List (Exchange Reply) → Prop
  | .done value, Q, past => Q value past
  | .await call next, Q, past =>
    allows past call ∧ ∀ reply, (next reply).Follows allows Q (⟨call, reply⟩ :: past)

variable {C : Call → Prop}

namespace Program

variable {allows : List (Exchange Reply) → Call → Prop} {α β : Type} {x : Program Reply α}

theorem follows_mono {Q Q' : α → List (Exchange Reply) → Prop}
    (weaker : ∀ value past, Q value past → Q' value past) :
    ∀ {past}, x.Follows allows Q past → x.Follows allows Q' past := by
  induction x with
  | done value => exact fun h => weaker value _ h
  | await call next ih => exact fun h => ⟨h.1, fun reply => ih reply (h.2 reply)⟩

theorem follows_bind (x : Program Reply α) (f : α → Program Reply β) (Q : β → List (Exchange Reply) → Prop)
    (past : List (Exchange Reply)) :
    (x >>= f).Follows allows Q past ↔
      x.Follows allows (fun value past' => (f value).Follows allows Q past') past := by
  induction x generalizing past with
  | done value => rfl
  | await call next ih => simp only [await_bind, Follows, ih]

theorem follows_free (x : Program Reply α) {past} : x.Follows (fun _ _ => True) (fun _ _ => True) past := by
  induction x generalizing past with
  | done value => trivial
  | await call next ih => exact ⟨trivial, fun reply => ih reply⟩

variable {Q : α → List (Exchange Reply) → Prop}

theorem follows_weaken {allows' : List (Exchange Reply) → Call → Prop}
    (weaker : ∀ past call, allows past call → allows' past call) :
    ∀ {past}, x.Follows allows Q past → x.Follows allows' Q past := by
  induction x with
  | done value => exact fun h => h
  | await call next ih => exact fun h => ⟨weaker _ call h.1, fun reply => ih reply (h.2 reply)⟩

variable {past : List (Exchange Reply)}

/-- A program all of whose calls are in `C` extends its past by such calls. -/
theorem follows_of_calls (calls : x.Calls C)
    (allowed : ∀ recent, (∀ e ∈ recent, C e.call) → ∀ c, C c → allows (recent ++ past) c)
    (returns : ∀ value recent, (∀ e ∈ recent, C e.call) → Q value (recent ++ past)) :
    x.Follows allows Q past := by
  suffices h : ∀ recent, (∀ e ∈ recent, C e.call) → x.Follows allows Q (recent ++ past) from
    h [] (nofun)
  induction x with
  | done value => exact fun recent h => returns value recent h
  | await call next ih =>
    intro recent h
    refine ⟨allowed recent h call calls.1, fun reply => ih reply (calls.2 reply) (⟨call, reply⟩ :: recent) ?_⟩
    exact List.forall_mem_cons.mpr ⟨calls.1, h⟩

theorem follows_suffix :
    ∀ {past}, x.Follows allows Q past →
      x.Follows allows (fun value past' => Q value past' ∧ past <:+ past') past := by
  induction x with
  | done value => exact fun h => ⟨h, List.suffix_refl _⟩
  | await call next ih =>
    intro past h
    refine ⟨h.1, fun reply => follows_mono ?_ (ih reply (h.2 reply))⟩
    exact fun value past' ⟨holds, longer⟩ => ⟨holds, (List.suffix_cons _ _).trans longer⟩

end Program

/-! ### Rules for asynchronous functions -/

namespace Async

/-- The same for an asynchronous function, whose outcome is a value or what it threw. -/
def Follows (allows : List (Exchange Reply) → Call → Prop) {ε α : Type} (x : Async Reply ε α)
    (Q : Except ε α → List (Exchange Reply) → Prop) (past : List (Exchange Reply)) : Prop :=
  Program.Follows allows x.run Q past

variable {allows : List (Exchange Reply) → Call → Prop} {ε α β : Type}
  {Q : Except ε α → List (Exchange Reply) → Prop} {past : List (Exchange Reply)} {x : Async Reply ε α}

theorem follows_mono {Q' : Except ε α → List (Exchange Reply) → Prop}
    (weaker : ∀ outcome past, Q outcome past → Q' outcome past) (h : x.Follows allows Q past) :
    x.Follows allows Q' past :=
  Program.follows_mono weaker h

@[simp] theorem follows_pure (value : α) :
    Follows allows (pure value : Async Reply ε α) Q past ↔ Q (.ok value) past := Iff.rfl

@[simp] theorem follows_throw (e : ε) :
    Follows allows (throw e : Async Reply ε α) Q past ↔ Q (.error e) past := Iff.rfl

@[simp] theorem follows_bind (x : Async Reply ε β) (f : β → Async Reply ε α) :
    Follows allows (x >>= f) Q past ↔
      Follows allows x (onOk (fun e past' => Q (.error e) past')
        fun value past' => Follows allows (f value) Q past') past := by
  refine (Program.follows_bind x (ExceptT.bindCont f) Q past).trans ?_
  constructor <;> refine follows_mono fun outcome past' h => ?_ <;> cases outcome <;> exact h

@[simp] theorem follows_tryCatch (x : Async Reply ε α) (handler : ε → Async Reply ε α) :
    Follows allows (tryCatch x handler) Q past ↔
      Follows allows x (onOk (fun e past' => Follows allows (handler e) Q past')
        fun value past' => Q (.ok value) past') past := by
  refine (Program.follows_bind x _ Q past).trans ?_
  constructor <;> refine follows_mono fun outcome past' h => ?_ <;> cases outcome <;> exact h

@[simp] theorem follows_throwWhen (condition : Bool) (e : ε) (Q : Except ε Unit → List (Exchange Reply) → Prop) :
    Follows allows (throwWhen condition e) Q past ↔
      (condition = true → Q (.error e) past) ∧ (condition = false → Q (.ok ()) past) := by
  cases condition <;> simp [throwWhen]

@[simp] theorem follows_ofExcept (outcome : Except ε α) :
    Follows allows (ofExcept outcome) Q past ↔ Q outcome past := by
  cases outcome <;> rfl

@[simp] theorem follows_attempt (x : Async Reply ε (Except ε α)) :
    Follows allows (attempt x) Q past ↔
      Follows allows x (onOk (fun e past' => Q (.error e) past') fun outcome past' => Q outcome past') past := by
  refine (follows_bind x _).trans ?_
  constructor <;> refine follows_mono fun outcome past' h => ?_
  · rcases outcome with e | (e | value) <;> exact h
  · rcases outcome with e | (e | value) <;> exact h

@[simp] theorem follows_tryFinally (body : Async Reply ε α) (cleanup : Async Reply ε Unit) :
    Follows allows (tryFinally body cleanup) Q past ↔
      Follows allows body (fun outcome past' => Follows allows cleanup
        (onOk (fun e past'' => Q (.error e) past'') fun _ past'' => Q outcome past'') past') past := by
  unfold tryFinally
  simp only [follows_bind, follows_tryCatch, follows_pure, follows_ofExcept]
  constructor <;> refine follows_mono fun outcome past' h => ?_ <;> cases outcome <;> exact h

@[simp] theorem follows_call (c : Call) (Q : Except ε (Reply c) → List (Exchange Reply) → Prop) :
    Follows allows (call c : Async Reply ε (Reply c)) Q past ↔
      allows past c ∧ ∀ reply, Q (.ok reply) (⟨c, reply⟩ :: past) := Iff.rfl

theorem Follows.call_bind {c} {f : Reply c → Async Reply ε α} (allowed : allows past c)
    (rest : ∀ reply, (f reply).Follows allows Q (⟨c, reply⟩ :: past)) : (call c >>= f).Follows allows Q past :=
  ⟨allowed, rest⟩

variable {f : β → Async Reply ε α}

theorem Follows.attempt_bind {x} (h : x.Follows allows (onOk (fun e past' => Q (.error e) past') fun reply past' =>
      onOk (fun e past' => Q (.error e) past') (fun value past' => (f value).Follows allows Q past') reply past')
        past) :
    (attempt x >>= f).Follows allows Q past :=
  (follows_bind _ _).mpr ((follows_attempt _).mpr h)

theorem Follows.throwWhen_bind {condition e} {f : Unit → Async Reply ε α}
    (thrown : condition = true → Q (.error e) past) (rest : condition = false → (f ()).Follows allows Q past) :
    (throwWhen condition e >>= f).Follows allows Q past :=
  (follows_bind _ _).mpr ((follows_throwWhen _ _ _).mpr ⟨thrown, rest⟩)

theorem follows_onOk {R : ε → List (Exchange Reply) → Prop} {S : α → List (Exchange Reply) → Prop}
    (h : x.Follows allows Q past) (throws : ∀ e past', Q (.error e) past' → R e past')
    (returns : ∀ value past', Q (.ok value) past' → S value past') : x.Follows allows (onOk R S) past := by
  refine follows_mono (fun outcome past' holds => ?_) h
  cases outcome with
  | error e => exact throws e past' holds
  | ok value => exact returns value past' holds

variable {x : Async Reply ε β}

theorem Follows.andThen {P : Except ε β → List (Exchange Reply) → Prop} (first : x.Follows allows P past)
    (throws : ∀ e past', P (.error e) past' → Q (.error e) past')
    (rest : ∀ value past', P (.ok value) past' → (f value).Follows allows Q past') :
    (x >>= f).Follows allows Q past :=
  (follows_bind _ _).mpr (follows_onOk first throws rest)

theorem follows_onEach {body : α → Async Reply ε Unit} {P : List α → List (Exchange Reply) → Prop}
    {Q : Except ε Unit → List (Exchange Reply) → Prop} {xs} (iteration : ∀ x rest past, P (x :: rest) past →
      Follows allows (body x) (onOk (fun e past' => Q (.error e) past') fun _ past' => P rest past') past)
    (finished : ∀ past, P [] past → Q (.ok ()) past) (holds : P xs past) :
    Follows allows (onEach body xs) Q past := by
  induction xs generalizing past with
  | nil => exact finished past holds
  | cons x xs ih =>
    exact .andThen (iteration x xs past holds) (fun _ _ h => h) fun _ _ h => ih h

theorem follows_onEachWith {body : β → α → Async Reply ε β}
    {P : β → List α → List (Exchange Reply) → Prop}
    {Q : Except ε β → List (Exchange Reply) → Prop} {xs acc}
    (iteration : ∀ acc x rest past, P acc (x :: rest) past →
      Follows allows (body acc x) (onOk (fun e past' => Q (.error e) past') fun acc' past' => P acc' rest past')
        past) (finished : ∀ acc past, P acc [] past → Q (.ok acc) past) (holds : P acc xs past) :
    Follows allows (onEachWith body acc xs) Q past := by
  induction xs generalizing past acc with
  | nil => exact finished acc past holds
  | cons x xs ih =>
    exact .andThen (iteration acc x xs past holds) (fun _ _ h => h) fun _ _ h => ih h

theorem follows_suffix {x : Async Reply ε α} (h : x.Follows allows Q past) :
    x.Follows allows (fun outcome past' => Q outcome past' ∧ past <:+ past') past :=
  Program.follows_suffix h

/-- What follows a function may use the outcome of the function and that the past has only grown. -/
theorem follows_bind_of {P : β → List (Exchange Reply) → Prop}
    (first : x.Follows allows (onOk (fun e past' => Q (.error e) past') P) past)
    (rest : ∀ value past', past <:+ past' → P value past' → (f value).Follows allows Q past') :
    (x >>= f).Follows allows Q past :=
  .andThen (follows_suffix first) (fun _ _ h => h.1) fun value past' h => rest value past' h.2 h.1

/-- A function all of whose calls are in `C` extends its past by such calls. -/
theorem follows_of_calls {x : Async Reply ε α} (calls : x.Calls C)
    (allowed : ∀ recent, (∀ e ∈ recent, C e.call) → ∀ c, C c → allows (recent ++ past) c)
    (returns : ∀ outcome recent, (∀ e ∈ recent, C e.call) → Q outcome (recent ++ past)) :
    x.Follows allows Q past :=
  Program.follows_of_calls calls allowed returns

theorem follows_calls_bind (calls : x.Calls C)
    (allowed : ∀ recent, (∀ e ∈ recent, C e.call) → ∀ c, C c → allows (recent ++ past) c)
    (throws : ∀ e recent, (∀ e ∈ recent, C e.call) → Q (.error e) (recent ++ past))
    (rest : ∀ value recent, (∀ e ∈ recent, C e.call) → (f value).Follows allows Q (recent ++ past)) :
    (x >>= f).Follows allows Q past := by
  apply (follows_bind _ _).mpr
  apply follows_of_calls calls allowed
  intro outcome recent made
  cases outcome with
  | error e => exact throws e recent made
  | ok value => exact rest value recent made

end Async

/-! ### What a program remembers -/

section Memory

variable {M : Type} {observe : M → Exchange Reply → M} {start : M}

/-- A summary of the past, which every call updates. -/
def remember (observe : M → Exchange Reply → M) (start : M) : List (Exchange Reply) → M
  | [] => start
  | x :: earlier => observe (remember observe start earlier) x

theorem remember_append {recent past} (aside : ∀ m c reply, C c → observe m ⟨c, reply⟩ = m)
    (made : ∀ e ∈ recent, C e.call) : remember observe start (recent ++ past) = remember observe start past := by
  induction recent with
  | nil => rfl
  | cons e recent ih =>
    have earlier := ih fun e' member => made e' (.tail _ member)
    exact (aside _ _ e.reply (made e (.head _))).trans earlier

theorem Async.follows_aside {ε α : Type} {allows : M → Call → Prop} {x : Async Reply ε α} {P : M → Prop}
    (calls : x.Calls C) (aside : ∀ m c reply, C c → observe m ⟨c, reply⟩ = m)
    (allowed : ∀ m c, C c → allows m c) (holds : P (remember observe start past)) :
    x.Follows (fun past c => allows (remember observe start past) c)
      (fun _ past' => P (remember observe start past')) past := by
  apply follows_of_calls calls
  · exact fun _ _ c made => allowed _ c made
  · intro _ recent made
    rw [remember_append aside made]
    exact holds

end Memory

/-! ### Soundness -/

/-- The calls of program `pid` in a history, newest first. -/
def past (pid : Nat) (history : List (Event Reply Request)) : List (Exchange Reply) :=
  history.filterMap fun e => if e.actor.pid = pid then some ⟨e.call, e.reply⟩ else none

@[simp] theorem past_nil (pid : Nat) : past pid ([] : List (Event Reply Request)) = [] := rfl

@[simp] theorem past_cons_self (e : Event Reply Request) (history : List (Event Reply Request)) :
    past e.actor.pid (e :: history) = ⟨e.call, e.reply⟩ :: past e.actor.pid history := by
  simp [past]

variable {pid : Nat} {e : Event Reply Request} {history : List (Event Reply Request)} {x : Exchange Reply}

theorem past_cons_of_ne (other : e.actor.pid ≠ pid) (history : List (Event Reply Request)) :
    past pid (e :: history) = past pid history := by
  simp [past, other]

variable {v : View Reply World Request}

theorem past_own {w} (own : e.actor.pid = pid) :
    past pid (v.after e w).history = ⟨e.call, e.reply⟩ :: past pid v.history := by
  subst own
  exact past_cons_self e v.history

theorem past_other {w} (other : e.actor.pid ≠ pid) : past pid (v.after e w).history = past pid v.history :=
  past_cons_of_ne other _

theorem mem_past : x ∈ past pid history ↔ ∃ e ∈ history, e.actor.pid = pid ∧ x = ⟨e.call, e.reply⟩ := by
  simp only [past, List.mem_filterMap]
  constructor
  · rintro ⟨e, he, h⟩
    split at h
    · cases h
      exact ⟨e, he, ‹_›, rfl⟩
    · cases h
  · rintro ⟨e, he, own, rfl⟩
    exact ⟨e, he, if_pos own⟩

theorem mem_past_cons :
    x ∈ past pid (e :: history) ↔ e.actor.pid = pid ∧ x = ⟨e.call, e.reply⟩ ∨ x ∈ past pid history := by
  by_cases own : e.actor.pid = pid
  · subst own
    simp
  · simp [past_cons_of_ne own, own]

/-- What holds of the past of every program that has made a call holds of every program's. -/
theorem past_of_all {p : List (Exchange Reply) → Bool} (nothing : p [] = true)
    (all : (history.all fun e => p (past e.actor.pid history)) = true) (pid : Nat) : p (past pid history) = true := by
  cases made : past pid history with
  | nil => exact nothing
  | cons x earlier =>
    have member : x ∈ past pid history := made ▸ .head _
    obtain ⟨e, inHistory, own, _⟩ := mem_past.mp member
    have holds := List.all_eq_true.mp all e inHistory
    rwa [own, made] at holds

/-- Which calls each request may make, given its past, and how it may end. -/
structure Discipline {Call : Type} (Reply : Call → Type) (Request Outcome : Type) where
  allows : Request → List (Exchange Reply) → Call → Prop
  returns : Request → Outcome → List (Exchange Reply) → Prop := fun _ _ _ => True

variable (D : Discipline Reply Request Outcome) (S : Service Reply World Choice Drift Request Outcome)
  (E : Setting Reply World Request)

/-- Every admitted request follows the discipline. -/
def Discipline.Followed : Prop :=
  ∀ request, E.admits request →
    (S.start request).Follows (D.allows request) (D.returns request) []

/-- No restriction: an invariant that needs nothing from the programs is proved with it. -/
def Discipline.free : Discipline Reply Request Outcome where
  allows _ _ _ := True

theorem Discipline.free_followed : Discipline.free.Followed S E :=
  fun request _ => (S.start request).follows_free

namespace Run

variable {S : Service Reply World Choice Drift Request Outcome} {E : Setting Reply World Request}
  {D : Discipline Reply Request Outcome}

/-- Every program of the pool follows the discipline from its past, and every call in the history was
    made by a program of the pool. -/
private structure Disciplined (D : Discipline Reply Request Outcome)
    (c : Config Reply World Request Outcome) : Prop where
  programs : ∀ (pid : Nat) (request : Request) (x : Program Reply Outcome),
    c.pool[pid]? = some (request, x) →
    x.Follows (D.allows request) (D.returns request) (past pid c.history)
  actors : ∀ e ∈ c.history, ∃ x, c.pool[e.actor.pid]? = some (e.actor.request, x)

variable {c : Config Reply World Request Outcome} {request : Request} {pid : Nat}
  {ts : List (Transition Reply World Choice Drift Request Outcome)}

theorem Disciplined.fresh (disciplined : Disciplined D c) : past c.pool.length c.history = [] := by
  rw [List.eq_nil_iff_forall_not_mem]
  intro x member
  obtain ⟨e, made, own, _⟩ := mem_past.mp member
  obtain ⟨_, inPool⟩ := disciplined.actors e made
  rw [own, List.getElem?_eq_none (Nat.le_refl _)] at inPool
  cases inPool

theorem Disciplined.arrive (disciplined : Disciplined D c)
    (follows : (S.start request).Follows (D.allows request) (D.returns request) []) :
    Disciplined D { c with pool := c.pool ++ [(request, S.start request)] } where
  programs := by
    intro pid r x hx
    rcases Nat.lt_trichotomy pid c.pool.length with hlt | heq | hgt
    · rw [List.getElem?_append_left hlt] at hx
      exact disciplined.programs pid r x hx
    · subst heq
      simp only [List.getElem?_concat_length, Option.some.injEq, Prod.mk.injEq] at hx
      obtain ⟨rfl, rfl⟩ := hx
      rw [disciplined.fresh]
      exact follows
    · rw [List.getElem?_eq_none (by simp; omega)] at hx
      cases hx
  actors := by
    intro e he
    obtain ⟨x, hx⟩ := disciplined.actors e he
    exact ⟨x, (List.getElem?_append_left (List.getElem?_eq_some_iff.mp hx).1).trans hx⟩

theorem Disciplined.act (disciplined : Disciplined D c) {call : Call} {next : Reply call → Program Reply Outcome}
    {reply : Reply call} {w : World} (scheduled : c.pool[pid]? = some (request, .await call next)) :
    Disciplined D
      ⟨w, ⟨⟨pid, request⟩, call, reply⟩ :: c.history, c.pool.set pid (request, next reply)⟩ := by
  have follows := disciplined.programs pid request _ scheduled
  have bound : pid < c.pool.length := (List.getElem?_eq_some_iff.mp scheduled).1
  constructor
  · intro pid' request' x hx
    by_cases same : pid = pid'
    · subst same
      rw [List.getElem?_set_self bound] at hx
      cases hx
      exact past_cons_self ⟨⟨pid, request⟩, call, reply⟩ c.history ▸ follows.2 reply
    · rw [List.getElem?_set_ne same] at hx
      rw [past_cons_of_ne (by exact same)]
      exact disciplined.programs pid' request' x hx
  · intro e he
    by_cases same : pid = e.actor.pid
    · rcases List.mem_cons.mp he with rfl | earlier
      · exact ⟨next reply, List.getElem?_set_self bound⟩
      · obtain ⟨x, hx⟩ := disciplined.actors e earlier
        rw [← same, scheduled] at hx
        cases hx
        exact ⟨next reply, same ▸ List.getElem?_set_self bound⟩
    · rcases List.mem_cons.mp he with rfl | earlier
      · exact absurd rfl same
      · obtain ⟨x, hx⟩ := disciplined.actors e earlier
        exact ⟨x, (List.getElem?_set_ne same).trans hx⟩

theorem disciplined (followed : D.Followed S E) (run : Run S E ts c) : Disciplined D c := by
  induction run with
  | start initial => constructor <;> simp [Config.idle]
  | @step ts c c' m event prior admitted moved met ih =>
    cases m with
    | arrive request =>
      cases moved
      exact ih.arrive (followed request (admitted request rfl))
    | drift d =>
      obtain ⟨w, drifted, rfl, rfl⟩ := S.step_drift_cases moved
      exact ⟨ih.programs, ih.actors⟩
    | act pid choice =>
      obtain ⟨request, call, next, reply, w, scheduled, performed, rfl, rfl⟩ := S.step_act_cases moved
      exact ih.act scheduled

/-- One call of a run: answered by the environment and allowed by the past of its program. -/
structure Allowed (S : Service Reply World Choice Drift Request Outcome) (E : Setting Reply World Request)
    (D : Discipline Reply Request Outcome) (v : View Reply World Request) (e : Event Reply Request)
    (v' : View Reply World Request) : Prop extends Answered S E v e v' where
  allowed : D.allows e.actor.request (past e.actor.pid v.history) e.call
  actor : ∀ e' ∈ v.history, e'.actor.pid = e.actor.pid → e'.actor = e.actor

section

variable (followed : D.Followed S E)
include followed

variable {I : View Reply World Request → Prop}

/-- An invariant of the shared view holds wherever a run leads, and around each of its calls. -/
theorem invariant (initial : ∀ w, E.initial w → I ⟨w, []⟩)
    (drift : ∀ v d w, I v → S.drift d v.world = some w → I { v with world := w })
    (call : ∀ v e v', I v → Allowed S E D v e v' → I v') (run : Run S E ts c) :
    I c.view ∧ ∀ t ∈ ts, I t.before.view ∧ I t.after.view ∧
      ∀ e, t.event = some e → Allowed S E D t.before.view e t.after.view := by
  induction run with
  | start start =>
    refine ⟨initial _ start, ?_⟩
    simp
  | @step ts c c' m event prior admitted moved met ih =>
    obtain ⟨now, before⟩ := ih
    cases m with
    | arrive request =>
      cases moved
      exact ⟨now, List.forall_mem_cons.mpr ⟨⟨now, now, nofun⟩, before⟩⟩
    | drift d =>
      obtain ⟨w, drifted, rfl, rfl⟩ := S.step_drift_cases moved
      have next := drift c.view d w now drifted
      exact ⟨next, List.forall_mem_cons.mpr ⟨⟨now, next, nofun⟩, before⟩⟩
    | act pid choice =>
      obtain ⟨request, c₀, k, reply, w, scheduled, performed, rfl, rfl⟩ := S.step_act_cases moved
      have followsNow := disciplined followed prior
      have allowed : Allowed S E D c.view ⟨⟨pid, request⟩, c₀, reply⟩
          (c.view.after ⟨⟨pid, request⟩, c₀, reply⟩ w) := by
        refine ⟨⟨⟨choice, w, performed, rfl⟩, met _ rfl⟩,
          (followsNow.programs pid request _ scheduled).1, ?_⟩
        intro e' he' own
        obtain ⟨x, hx⟩ := followsNow.actors e' he'
        obtain ⟨⟨pid', request'⟩, c', reply'⟩ := e'
        cases (show pid' = pid from own)
        rw [show c.pool[pid]? = _ from scheduled] at hx
        cases hx
        rfl
      have next := call _ _ _ now allowed
      refine ⟨next, List.forall_mem_cons.mpr ⟨⟨now, next, ?_⟩, before⟩⟩
      intro e he
      cases he
      exact allowed

/-- Induction along a run: a step is either a call, allowed by the past of its program, or it makes no call, leaves the
    history as it is, and the world is the same or has drifted. -/
theorem induct
    {P : List (Transition Reply World Choice Drift Request Outcome) → Config Reply World Request Outcome → Prop}
    (start : ∀ w, E.initial w → P [] (.idle w))
    (quiet : ∀ ts t, P ts t.before → t.event = none → t.after.history = t.before.history →
      (t.after.world = t.before.world ∨ ∃ d, S.drift d t.before.world = some t.after.world) →
      P (t :: ts) t.after) (call : ∀ ts t e, P ts t.before → t.event = some e →
      Allowed S E D t.before.view e t.after.view → P (t :: ts) t.after) (run : Run S E ts c) : P ts c := by
  induction run with
  | start initial => exact start _ initial
  | @step ts c c' m event prior admitted moved met ih =>
    have whole : Run S E (⟨c, m, event, c'⟩ :: ts) c' := .step prior admitted moved met
    have allowed := (invariant followed (fun _ _ => trivial) (fun _ _ _ _ _ => trivial)
      (fun _ _ _ _ _ => trivial) whole (I := fun _ => True)).2 ⟨c, m, event, c'⟩ (.head _)
    cases event with
    | some e => exact call ts ⟨c, m, some e, c'⟩ e ih rfl (allowed.2.2 e rfl)
    | none =>
      cases m with
      | arrive request =>
        cases moved
        exact quiet ts _ ih rfl rfl (.inl rfl)
      | drift d =>
        obtain ⟨w, drifted, _, rfl⟩ := S.step_drift_cases moved
        exact quiet ts _ ih rfl rfl (.inr ⟨d, drifted⟩)
      | act pid choice =>
        obtain ⟨_, _, _, _, _, _, _, isEvent, _⟩ := S.step_act_cases moved
        cases isEvent

theorem steps {P : Transition Reply World Choice Drift Request Outcome → Prop}
    (initial : ∀ w, E.initial w → I ⟨w, []⟩)
    (drift : ∀ v d w, I v → S.drift d v.world = some w → I { v with world := w })
    (call : ∀ v e v', I v → Allowed S E D v e v' → I v')
    (quiet : ∀ t, (t.after.world = t.before.world ∨ ∃ d, S.drift d t.before.world = some t.after.world) → P t)
    (acts : ∀ t e, I t.before.view → Allowed S E D t.before.view e t.after.view → P t) (run : Run S E ts c) :
    ∀ t ∈ ts, P t := by
  have holds := (invariant followed initial drift call run).2
  have still : ∀ t ∈ ts, t.event = none →
      t.after.world = t.before.world ∨ ∃ d, S.drift d t.before.world = some t.after.world := by
    refine induct (P := fun ts _ => ∀ t ∈ ts, t.event = none →
      t.after.world = t.before.world ∨ ∃ d, S.drift d t.before.world = some t.after.world) followed ?_ ?_ ?_ run
    · exact nofun
    · exact fun ts t ih _ _ moved => List.forall_mem_cons.mpr ⟨fun _ => moved, ih⟩
    · intro ts t e ih isEvent _
      refine List.forall_mem_cons.mpr ⟨fun none => ?_, ih⟩
      rw [isEvent] at none
      cases none
  intro t member
  cases isEvent : t.event with
  | none => exact quiet t (still t member isEvent)
  | some e => exact acts t e (holds t member).1 ((holds t member).2.2 e isEvent)

theorem returned (run : Run S E ts c) {outcome} (ended : c.returned pid = some (request, outcome)) :
    D.returns request outcome (past pid c.history) :=
  (disciplined followed run).programs pid request _ (Config.pool_of_returned ended)

end

theorem past_fresh (run : Run S E ts c) : past c.pool.length c.history = [] :=
  (disciplined (Discipline.free_followed S E) run).fresh

theorem request_of_returned (run : Run S E ts c) {outcome} (ended : c.returned pid = some (request, outcome)) {e}
    (made : e ∈ c.history) (own : e.actor.pid = pid) : e.actor.request = request := by
  obtain ⟨x, inPool⟩ := (disciplined (Discipline.free_followed S E) run).actors e made
  rw [own, Config.pool_of_returned ended] at inPool
  cases inPool
  rfl

end Run

end VortexBackend
