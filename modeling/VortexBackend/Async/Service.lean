/-
Module: VortexBackend.Async.Service
Purpose: Interleaved runs over a shared world. A program that is never scheduled again has crashed.
Main exports: Service, Run, Run.exists_of_trace
-/
import VortexBackend.Async.Program

namespace VortexBackend

/-- One program of the pool: its index and the request that started it. -/
structure Actor (Request : Type) where
  pid : Nat
  request : Request

/-- One call that was made, by whom, and the reply it got. -/
structure Event {Call : Type} (Reply : Call → Type) (Request : Type) where
  actor : Actor Request
  call : Call
  reply : Reply call

/-- What the programs share: the world, and the calls made so far, newest first. -/
structure View {Call : Type} (Reply : Call → Type) (World Request : Type) where
  world : World
  history : List (Event Reply Request)

/-- The effect of the calls, the moves of the environment and the program behind each request. A call
    with no result is not enabled. -/
structure Service {Call : Type} (Reply : Call → Type)
    (World Choice Drift Request Outcome : Type) where
  perform : (call : Call) → Choice → World → Option (Reply call × World)
  drift : Drift → World → Option World
  start : Request → Program Reply Outcome

/-- The world, the history and the pool of programs, in order of arrival. -/
structure Config {Call : Type} (Reply : Call → Type) (World Request Outcome : Type) where
  world : World
  history : List (Event Reply Request)
  pool : List (Request × Program Reply Outcome)

/-- The request of a program that has ended, and its outcome. -/
def Config.returned {Call : Type} {Reply : Call → Type} {World Request Outcome : Type}
    (c : Config Reply World Request Outcome) (pid : Nat) : Option (Request × Outcome) :=
  match c.pool[pid]? with
  | some (request, .done outcome) => some (request, outcome)
  | _ => none

theorem Config.pool_of_returned {Call : Type} {Reply : Call → Type} {World Request Outcome : Type}
    {c : Config Reply World Request Outcome} {pid : Nat} {request : Request} {outcome : Outcome}
    (returned : c.returned pid = some (request, outcome)) : c.pool[pid]? = some (request, .done outcome) := by
  unfold Config.returned at returned
  split at returned
  · rename_i ended
    cases returned
    exact ended
  · cases returned

/-- One move of the scheduler or the environment. -/
inductive Move (Choice Drift Request : Type) where
  | arrive (request : Request)
  | act (pid : Nat) (choice : Choice)
  | drift (d : Drift)

/-- One step of a run, with the call it made, if any. -/
structure Transition {Call : Type} (Reply : Call → Type)
    (World Choice Drift Request Outcome : Type) where
  before : Config Reply World Request Outcome
  move : Move Choice Drift Request
  event : Option (Event Reply Request)
  after : Config Reply World Request Outcome

/-- Which runs are considered: the worlds they start in, the requests that may arrive, and the
    condition that every call of the run meets, on the view in which it is made and on the world in which
    the environment answers it. -/
structure Setting {Call : Type} (Reply : Call → Type) (World Request : Type) where
  initial : World → Prop
  admits : Request → Prop
  meets : View Reply World Request → Event Reply Request → World → Bool := fun _ _ _ => true

variable {Call : Type} {Reply : Call → Type} {World Choice Drift Request Outcome : Type}

namespace Config

/-- The part of a configuration that a program can observe. -/
def view (c : Config Reply World Request Outcome) : View Reply World Request :=
  ⟨c.world, c.history⟩

/-- A world before anything arrived. -/
def idle (w : World) : Config Reply World Request Outcome := ⟨w, [], []⟩

end Config

namespace View

variable (v : View Reply World Request) (e : Event Reply Request) (w : World)

/-- The view after an actor's call. -/
def after : View Reply World Request :=
  ⟨w, e :: v.history⟩

@[simp] theorem after_world : (v.after e w).world = w := rfl

@[simp] theorem after_history : (v.after e w).history = e :: v.history := rfl

end View

namespace Service

variable (S : Service Reply World Choice Drift Request Outcome)

/-- One move, with the call it makes. -/
def step (c : Config Reply World Request Outcome) : Move Choice Drift Request →
    Option (Option (Event Reply Request) × Config Reply World Request Outcome)
  | .arrive request => some (none, { c with pool := c.pool ++ [(request, S.start request)] })
  | .drift d =>
    match S.drift d c.world with
    | some w => some (none, { c with world := w })
    | none => none
  | .act pid choice =>
    match c.pool[pid]? with
    | some (request, .await call next) =>
      match S.perform call choice c.world with
      | some (reply, w) =>
        some (some ⟨⟨pid, request⟩, call, reply⟩,
          ⟨w, ⟨⟨pid, request⟩, call, reply⟩ :: c.history, c.pool.set pid (request, next reply)⟩)
      | none => none
    | _ => none

variable {c c' : Config Reply World Request Outcome} {event : Option (Event Reply Request)}

/-- Everything an enabled `act` move can be. -/
theorem step_act_cases {pid choice} (h : S.step c (.act pid choice) = some (event, c')) :
    ∃ request call next reply w, c.pool[pid]? = some (request, .await call next) ∧
      S.perform call choice c.world = some (reply, w) ∧
      event = some ⟨⟨pid, request⟩, call, reply⟩ ∧
      c' = ⟨w, ⟨⟨pid, request⟩, call, reply⟩ :: c.history, c.pool.set pid (request, next reply)⟩ := by
  simp only [step] at h
  split at h
  · rename_i request call next hpool
    split at h
    · rename_i reply w hperform
      simp only [Option.some.injEq, Prod.mk.injEq] at h
      exact ⟨request, call, next, reply, w, hpool, hperform, h.1.symm, h.2.symm⟩
    · cases h
  · cases h

/-- Everything an enabled `drift` move can be. -/
theorem step_drift_cases {d} (h : S.step c (.drift d) = some (event, c')) :
    ∃ w, S.drift d c.world = some w ∧ event = none ∧ c' = { c with world := w } := by
  simp only [step] at h
  split at h
  · rename_i w hdrift
    simp only [Option.some.injEq, Prod.mk.injEq] at h
    exact ⟨w, hdrift, h.1.symm, h.2.symm⟩
  · cases h

end Service

/-- The call of `e` is enabled in `v`, meets the condition of the setting, and leads to `v'`. -/
structure Answered (S : Service Reply World Choice Drift Request Outcome)
    (E : Setting Reply World Request) (v : View Reply World Request) (e : Event Reply Request)
    (v' : View Reply World Request) : Prop where
  performed : ∃ choice w, S.perform e.call choice v.world = some (e.reply, w) ∧ v' = v.after e w
  met : E.meets v e v'.world = true

/-- The runs of a service in a setting, with their transitions, newest first. -/
inductive Run (S : Service Reply World Choice Drift Request Outcome)
    (E : Setting Reply World Request) :
    List (Transition Reply World Choice Drift Request Outcome) →
      Config Reply World Request Outcome → Prop where
  | start {w : World} (initial : E.initial w) : Run S E [] (.idle w)
  | step {ts : List (Transition Reply World Choice Drift Request Outcome)}
      {c c' : Config Reply World Request Outcome} {m : Move Choice Drift Request}
      {event : Option (Event Reply Request)} (prior : Run S E ts c)
      (admitted : ∀ request, m = .arrive request → E.admits request)
      (moved : S.step c m = some (event, c'))
      (met : ∀ e, event = some e → E.meets c.view e c'.world = true) :
      Run S E (⟨c, m, event, c'⟩ :: ts) c'

namespace Service

variable (S : Service Reply World Choice Drift Request Outcome)

/-- Replay moves from a configuration, refusing a move that is not enabled or whose call does not meet
    the condition. -/
def trace (meets : View Reply World Request → Event Reply Request → World → Bool)
    (ts : List (Transition Reply World Choice Drift Request Outcome))
    (c : Config Reply World Request Outcome) : List (Move Choice Drift Request) →
    Option (List (Transition Reply World Choice Drift Request Outcome) × Config Reply World Request Outcome)
  | [] => some (ts, c)
  | m :: ms =>
    match S.step c m with
    | none => none
    | some (event, c') =>
      if event.all (meets c.view · c'.world) then trace meets (⟨c, m, event, c'⟩ :: ts) c' ms else none

end Service

namespace Run

variable {S : Service Reply World Choice Drift Request Outcome}
  {E : Setting Reply World Request} {ts : List (Transition Reply World Choice Drift Request Outcome)}

theorem history_eq {c} (run : Run S E ts c) : c.history = ts.filterMap (·.event) := by
  induction run with
  | start initial => rfl
  | @step ts c c' m event prior admitted moved met ih =>
    cases m with
    | arrive request =>
      cases moved
      exact ih
    | drift d =>
      obtain ⟨w, drifted, rfl, rfl⟩ := S.step_drift_cases moved
      exact ih
    | act pid choice =>
      obtain ⟨request, call, next, reply, w, scheduled, performed, rfl, rfl⟩ := S.step_act_cases moved
      exact congrArg _ ih

theorem before {later earlier t c} (run : Run S E (later ++ t :: earlier) c) : Run S E earlier t.before := by
  induction later generalizing c with
  | nil =>
    cases run with
    | step prior admitted moved met => exact prior
  | cons last later ih =>
    cases run with
    | step prior admitted moved met => exact ih prior

variable {ms : List (Move Choice Drift Request)}

theorem trace :
    ∀ {ts ts' : List (Transition Reply World Choice Drift Request Outcome)}
      {c c' : Config Reply World Request Outcome}, Run S E ts c →
      (∀ request, Move.arrive request ∈ ms → E.admits request) →
      S.trace E.meets ts c ms = some (ts', c') → Run S E ts' c' := by
  induction ms with
  | nil =>
    intro ts ts' c c' prior _ replayed
    obtain ⟨rfl, rfl⟩ := replayed
    exact prior
  | cons m ms ih =>
    intro ts ts' c c' prior admitted replayed
    simp only [Service.trace] at replayed
    split at replayed
    · cases replayed
    · rename_i event next moved
      split at replayed
      · rename_i met
        refine ih (.step prior ?_ moved ?_) (fun r hr => admitted r (.tail _ hr)) replayed
        · intro request hm
          exact admitted request (hm ▸ .head _)
        · intro e he
          simpa [he] using met
      · cases replayed

theorem of_trace {w c} (initial : E.initial w) (admitted : ∀ request, Move.arrive request ∈ ms → E.admits request)
    (replayed : S.trace E.meets [] (.idle w) ms = some (ts, c)) : Run S E ts c :=
  (Run.start initial).trace admitted replayed

/-- A computable fact about a replay is a fact about some run. -/
theorem exists_of_trace (S : Service Reply World Choice Drift Request Outcome) (E : Setting Reply World Request)
    (w : World) (moves : List (Move Choice Drift Request))
    (p : List (Transition Reply World Choice Drift Request Outcome) → Config Reply World Request Outcome → Bool)
    (initial : E.initial w) (admitted : ∀ request, Move.arrive request ∈ moves → E.admits request)
    (holds : (S.trace E.meets [] (.idle w) moves).any (fun run => p run.1 run.2) = true) :
    ∃ ts c, Run S E ts c ∧ p ts c = true := by
  cases replayed : S.trace E.meets [] (.idle w) moves with
  | none => simp [replayed] at holds
  | some run =>
    refine ⟨run.1, run.2, of_trace initial admitted replayed, ?_⟩
    simpa [replayed] using holds

end Run

end VortexBackend
