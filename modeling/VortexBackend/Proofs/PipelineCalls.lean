/-
Module: VortexBackend.Proofs.PipelineCalls
Purpose: What the slashing pipeline does, as one discipline over what a program remembers of its calls.
Main exports: SagaWrite, PipelineMemory
-/
import VortexBackend.Proofs.ServiceCalls

namespace VortexBackend

open SlashingPipeline Async IntentsService
open Async (calls_bind calls_attempt calls_pure)
open IntentsService (calls_one calls_plain)

/-- Any stored slashes, and any calls of the pipeline. -/
def slashingSetting (meets : BackendView → BackendEvent → BackendWorld → Bool) : BackendSetting where
  initial _ := True
  admits
    | .processDue _ | .detect _ | .cancelByAdmin .. | .cancelByFillProof .. => True
    | _ => False
  meets

/-! ### What a program remembers -/

/-- A look at the chain that found no fill in time. -/
structure FillScan where
  intentId : String
  fillDeadline : Nat
  latestAcceptable : Nat
  now : Nat

structure PipelineMemory where
  /-- the time of the pass and the rows that it found -/
  time : Nat := 0
  rows : List PendingSlash := []
  /-- every row that a reply has shown -/
  seen : List PendingSlash := []
  /-- the row whose lease was taken last, as the program last saw it -/
  last : List PendingSlash := []
  scan : Option FillScan := none
  /-- what the chain said of a transaction, since the row was seen -/
  checked : Option (String × TxCheckStatus) := none
  /-- the intents whose slash the program has cancelled, and whether it is still compensating the last of them -/
  won : List String := []
  cancelling : Bool := false
  /-- the penalty and the counter that were looked up last, and the intents whose counter was lowered -/
  penalty : Option (String × Option PendingPenalty) := none
  count : Option (String × Nat) := none
  reversed : List String := []
  /-- the intents that were seen or left in another state than `slashed` -/
  compensated : List String := []
  /-- the replies fit the store -/
  fits : Prop := True
  /-- no store failed while the held row was submitted -/
  careful : Prop := True
  /-- no store failed during a compensation, and there was a penalty to take back -/
  sound : Prop := True

namespace PipelineMemory

variable (m : PipelineMemory)

/-- The intent whose cancelled slash the program is compensating. -/
def cancels : Option String := if m.cancelling then m.won.head? else none

/-- The state of a row after a transition. -/
def leadsTo («from» : List PendingSlashState) (patch : PendingSlashPatch) (state : PendingSlashState) : Prop :=
  match patch.state with
  | some target => state = target
  | none => state ∈ «from»

/-- What a successful transition adds. -/
def moved (id : String) («from» : List PendingSlashState) (patch : PendingSlashPatch)
    (row : PendingSlash) : PipelineMemory :=
  { m with
    seen := row :: m.seen
    last := [row]
    checked := none
    won := if patch.state = some .cancelled then id :: m.won else m.won
    cancelling := patch.state == some .cancelled
    fits := m.fits ∧ row.intentId = id ∧ leadsTo «from» patch row.state ∧
      (patch.state = some .cancelled → id ∉ m.won) }

/-- A store failed. -/
def failed : PipelineMemory :=
  { m with
    careful := m.careful ∧ ∀ row ∈ m.last, row.state ≠ .submitted
    sound := m.sound ∧ m.cancelling = false }

/-- The penalty of a slash was looked up: one that is pending can be taken back, and without an entry the solver
    of the slash is used. -/
def lookedUp (id : String) (entry : Option PendingPenalty) : PipelineMemory :=
  { m with
    penalty := some (id, entry)
    sound := m.sound ∧ match entry with
      | some entry => entry.state = .pending
      | none => ∀ row ∈ m.seen, row.intentId = id → row.solverAddress ≠ "" }

def observe : BackendExchange → PipelineMemory
  | ⟨.slashes (.findDue now _), rows⟩ => { m with time := now, rows, seen := rows ++ m.seen, checked := none }
  | ⟨.slashes (.findByIntent _), stored⟩ => { m with seen := Option.toList stored ++ m.seen }
  | ⟨.slashes (.claim id ..), taken⟩ =>
    if taken = true then
      { m with last := m.rows.filter (·.intentId == id), checked := none, cancelling := false }
    else m
  | ⟨.slashes (.transition id «from» patch _), result⟩ =>
    match (result : Option PendingSlash) with
    | some row => m.moved id «from» patch row
    | none => m
  | ⟨.external (.findLandedFill intentId fillDeadline latestAcceptable now), answer⟩ =>
    { m with scan := match (answer : Except BackendError (Option String)) with
        | .ok none => some ⟨intentId, fillDeadline, latestAcceptable, now⟩
        | _ => none }
  | ⟨.external (.checkTx txHash), answer⟩ =>
    { m with checked := match (answer : Except BackendError TxCheckStatus) with
        | .ok status => some (txHash, status)
        | .error _ => none }
  | ⟨.external .storeAnswer, answer⟩ =>
    match (answer : Except BackendError Unit) with
    | .ok _ => m
    | .error _ => m.failed
  | ⟨.external (.broadcast ..), _⟩ => { m with cancelling := false }
  | ⟨.solvers (.penalty id), entry⟩ => m.lookedUp id entry
  | ⟨.solvers (.findByAddress address), fillsFailed⟩ =>
    { m with
      count := Option.map (address, ·) fillsFailed
      sound := m.sound ∧ (m.cancelling = true → Option.isSome fillsFailed = true) }
  | ⟨.solvers (.save ..), _⟩ => { m with reversed := (m.penalty.map Prod.fst).toList ++ m.reversed }
  | ⟨.intents (.findById id), stored⟩ =>
    if (Option.any (·.state == .slashed) stored) = true then m else { m with compensated := id :: m.compensated }
  | ⟨.intents (.transitionIf id «from» ..), _⟩ =>
    if «from» = .slashed then { m with compensated := id :: m.compensated } else m
  | _ => m

end PipelineMemory

/-- What a program of the pipeline remembers. -/
abbrev pipelineMemory : List BackendExchange → PipelineMemory := remember PipelineMemory.observe {}

/-! ### The discipline -/

/-- As far as the program knows, the row of the intent is not submitted. -/
def Calm (id : String) (m : PipelineMemory) : Prop :=
  m.fits → m.careful → ∃ row ∈ m.last, row.intentId = id ∧ row.state ≠ .submitted

variable (m : PipelineMemory)

/-- The chain says that the transaction failed, or it does not know the transaction long after the submission. -/
def Dropped (row : PendingSlash) (txHash : String) : Prop :=
  m.checked = some (txHash, .failed) ∨
    m.checked = some (txHash, .notFound) ∧
      (row.submittedAt.all fun at' => SUBMIT_NOT_FOUND_GRACE_SECONDS * 1000 < m.time - at') = true

/-- The writes of the pipeline to the row of an intent: from which states, and what. -/
inductive SagaWrite (m : PipelineMemory) (id : String) : List PendingSlashState → PendingSlashPatch → Prop where
  | opened : SagaWrite m id [.detected] { state := some .challengeWindow }
  | cancelled (slash : PendingSlash) (reason : SlashCancelReason) (actor : String) (extra : CancelExtra)
      (clock : Nat) : SagaWrite m id CANCELLABLE (cancelPatch slash reason actor extra clock)
  | gaveUp (slash : PendingSlash) (extra : CancelExtra) (clock : Nat) (calm : Calm id m) :
      SagaWrite m id [.challengeWindow, .submitted] (cancelPatch slash .submitFailed "system" extra clock)
  | retried (state : PendingSlashState) (attempts nextAttemptAt : Nat) (error : String)
      (live : state ≠ .confirmed ∧ state ≠ .cancelled) : SagaWrite m id [state]
        { attempts := some attempts, nextAttemptAt := some nextAttemptAt, lastError := some (some error) }
  | recorded (result : SlashResult) (now : Nat) : SagaWrite m id [.challengeWindow] (submittedPatch result now)
  | paused (nextAttemptAt : Nat) (error : String) : SagaWrite m id [.challengeWindow]
        { nextAttemptAt := some nextAttemptAt, lastError := some (some error) }
  | reopened (row : PendingSlash) (txHash : String) (isLast : row ∈ m.last) (isId : row.intentId = id)
      (hash : row.txHash = some txHash) (dropped : Dropped m row txHash) :
      SagaWrite m id [.submitted] { state := some .challengeWindow, txHash := some none }
  | confirmed (now : Nat) :
      SagaWrite m id [.submitted] { state := some .confirmed, confirmedAt := some (some now) }
  | touched (nextAttemptAt : Option Nat) (error : Option String) :
      SagaWrite m id [.submitted] { nextAttemptAt, lastError := error.map some }

/-- Every slash that the program has cancelled is compensated. -/
def PipelineMemory.Settled : Prop :=
  m.fits → m.sound → ∀ id ∈ m.won, m.reversed.count id = 1 ∧ id ∈ m.compensated

/-- Whose counter a rollback lowers: that of the solver in the entry, or else that of the solver of the slash. -/
def PipelineMemory.Charged (id : String) (entry : Option PendingPenalty) (address : String) : Prop :=
  match entry with
  | some entry => address = entry.solverAddress
  | none => ∃ row ∈ m.seen, row.intentId = id ∧ row.solverAddress = address

variable (cfg : BackendSettings)

/-- What each call of the pipeline may rely on. -/
def PipelineCall (m : PipelineMemory) : BackendCall → Prop
  | .external (.slashSolver _ id _) =>
    ∃ scan, m.scan = some scan ∧ scan.intentId = id ∧
      scan.latestAcceptable = scan.fillDeadline + cfg.clockSkewToleranceSeconds ∧
      ∃ row ∈ m.rows, row.intentId = id ∧ row.fillDeadline = scan.fillDeadline
  | .external (.broadcast ..) | .slashes (.claim ..) => m.Settled
  | .slashes (.transition id «from» patch _) => m.Settled ∧ (m.fits → SagaWrite m id «from» patch)
  | .solvers (.penalty id) => m.cancels = some id
  | .solvers (.save address fillsFailed) =>
    ∃ id entry read, m.penalty = some (id, entry) ∧ m.cancels = some id ∧ m.Charged id entry address ∧
      m.count = some (address, read) ∧ fillsFailed = read - 1
  | .intents (.transitionIf _ «from» «to» _) => «from» = .slashed ∧ «to» ≠ .slashed
  | .intents (.findById _) => True
  | .intents _ => False
  | _ => True

def pipelineDiscipline : BackendDiscipline where
  allows _ past call := PipelineCall cfg (pipelineMemory past) call
  returns _ _ past := (pipelineMemory past).Settled

/-- A function of the pipeline, from what is remembered to what is remembered. -/
abbrev Recalls {α : Type} (x : Backend α)
    (Q : Except BackendError α → PipelineMemory → Prop) (past : List BackendExchange) : Prop :=
  x.Follows (fun past call => PipelineCall cfg (pipelineMemory past) call)
    (fun outcome past' => Q outcome (pipelineMemory past')) past

theorem PipelineMemory.fits_of_observe {m : PipelineMemory} {x : BackendExchange} (fits : (m.observe x).fits) :
    m.fits := by
  obtain ⟨call, reply⟩ := x
  cases call with
  | slashes c =>
    cases c with
    | claim id now leaseUntil =>
      simp only [observe] at fits
      split at fits <;> exact fits
    | transition id «from» patch now =>
      cases reply with
      | none => exact fits
      | some row => exact fits.1
    | _ => exact fits
  | external c =>
    cases c with
    | storeAnswer => cases reply <;> exact fits
    | _ => exact fits
  | intents c =>
    cases c with
    | findById | transitionIf =>
      simp only [observe] at fits
      split at fits <;> exact fits
    | _ => exact fits
  | solvers c => cases c <;> exact fits
  | _ => exact fits

theorem fits_of_suffix {earlier past : List BackendExchange} (longer : earlier <:+ past)
    (fits : (pipelineMemory past).fits) : (pipelineMemory earlier).fits := by
  obtain ⟨recent, rfl⟩ := longer
  induction recent with
  | nil => exact fits
  | cons x recent ih => exact ih (PipelineMemory.fits_of_observe fits)

/-! ### Between and during compensations -/

/-- Between two compensations: the rows and the time of the pass are remembered, and what was cancelled is
    compensated. -/
structure Between (rows : List PendingSlash) (time : Nat) (m : PipelineMemory) : Prop where
  isRows : m.rows = rows
  isTime : m.time = time
  seen : ∀ row ∈ rows, row ∈ m.seen
  reversed : ∀ id ∈ m.reversed, id ∈ m.won
  settled : m.Settled

/-- While the program compensates the slash of an intent, after its counter was lowered `times` times. -/
structure Compensating (rows : List PendingSlash) (time : Nat) (id : String) (times : Nat) (m : PipelineMemory) :
    Prop where
  isRows : m.rows = rows
  isTime : m.time = time
  seen : ∀ row ∈ rows, row ∈ m.seen
  reversed : ∀ other ∈ m.reversed, other ∈ m.won
  calm : Calm id m
  cancels : m.cancels = some id
  others : m.fits → m.sound → ∀ other ∈ m.won, other ≠ id →
    m.reversed.count other = 1 ∧ other ∈ m.compensated
  own : m.fits → m.sound → m.reversed.count id = times

variable {entry : Option PendingPenalty}

section Memory

variable {rows : List PendingSlash} {time times : Nat} {id : String} {m : PipelineMemory}
  {«from» : List PendingSlashState} {patch : PendingSlashPatch} {row : PendingSlash}

theorem PipelineMemory.mem_won (cancels : m.cancels = some id) : id ∈ m.won := by
  rw [PipelineMemory.cancels] at cancels
  split at cancels
  · exact List.mem_of_head? cancels
  · cases cancels

theorem PipelineMemory.cancelling_of_cancels (cancels : m.cancels = some id) : m.cancelling = true := by
  rw [PipelineMemory.cancels] at cancels
  split at cancels
  · assumption
  · cases cancels

theorem Calm.failed (calm : Calm id m) : Calm id m.failed := fun fits careful => calm fits careful.1

theorem calm_of_submitted (isLast : row ∈ m.last) (submitted : row.state = .submitted) : Calm id m.failed :=
  fun _ careful => absurd submitted (careful.2 row isLast)

theorem calm_of_last (isLast : row ∈ m.last) (notSubmitted : row.state ≠ .submitted) : Calm row.intentId m :=
  fun _ _ => ⟨row, isLast, rfl, notSubmitted⟩

/-- A row that the program has moved to another state than `submitted`. -/
theorem calm_moved (leads : ∀ state, PipelineMemory.leadsTo «from» patch state → state ≠ .submitted) :
    Calm id (m.moved id «from» patch row) :=
  fun fits _ => ⟨row, .head _, fits.2.1, leads _ fits.2.2.1⟩

theorem Between.failed (between : Between rows time m) : Between rows time m.failed :=
  { between with settled := fun fits sound => between.settled fits sound.1 }

theorem Between.moved (between : Between rows time m) (noCancel : patch.state ≠ some .cancelled) :
    Between rows time (m.moved id «from» patch row) where
  __ := between
  seen := fun other member => .tail _ (between.seen other member)
  reversed := by
    rw [PipelineMemory.moved, if_neg noCancel]
    exact between.reversed
  settled := by
    rw [PipelineMemory.moved, if_neg noCancel]
    exact fun fits sound => between.settled fits.1 sound

theorem Between.cancels (between : Between rows time m) (cancels : patch.state = some .cancelled) :
    Compensating rows time id 0 (m.moved id «from» patch row) where
  __ := between
  seen := fun other member => .tail _ (between.seen other member)
  reversed := by
    rw [PipelineMemory.moved, if_pos cancels]
    exact fun other member => .tail _ (between.reversed other member)
  calm := by
    apply calm_moved
    intro state leads
    rw [PipelineMemory.leadsTo, cancels] at leads
    subst leads
    decide
  cancels := by
    rw [PipelineMemory.cancels, PipelineMemory.moved, if_pos cancels, cancels]
    rfl
  others := by
    rw [PipelineMemory.moved, if_pos cancels]
    intro fits sound other member different
    exact between.settled fits.1 sound other (List.mem_of_ne_of_mem different member)
  own := by
    intro fits _
    have isNew : id ∉ m.won := fits.2.2.2 cancels
    exact List.count_eq_zero.mpr fun member => isNew (between.reversed id member)

theorem Compensating.failed (during : Compensating rows time id times m) : Between rows time m.failed := by
  refine { during with settled := fun _ sound => ?_ }
  have stopped : m.cancelling = false := sound.2
  rw [PipelineMemory.cancelling_of_cancels during.cancels] at stopped
  cases stopped

theorem Compensating.learns (during : Compensating rows time id times m) {penalty count} {sound : Prop}
    (narrower : sound → m.sound) : Compensating rows time id times { m with penalty, count, sound } :=
  { during with
    others := fun fits isSound => during.others fits (narrower isSound)
    own := fun fits isSound => during.own fits (narrower isSound) }

theorem Compensating.reverses (during : Compensating rows time id 0 m) (penalty : m.penalty = some (id, entry)) :
    Compensating rows time id 1 { m with reversed := (m.penalty.map Prod.fst).toList ++ m.reversed } := by
  rw [penalty]
  refine { during with reversed := ?_, others := ?_, own := ?_ }
  · exact List.forall_mem_cons.mpr ⟨PipelineMemory.mem_won during.cancels, during.reversed⟩
  · intro fits sound other member different
    obtain ⟨once, compensated⟩ := during.others fits sound other member different
    exact ⟨(List.count_cons_of_ne (Ne.symm different)).trans once, compensated⟩
  · intro fits sound
    have none : m.reversed.count id = 0 := during.own fits sound
    exact List.count_cons_self.trans (congrArg (· + 1) none)

/-- The intent is seen or left in another state than `slashed`. -/
theorem Compensating.compensates (during : Compensating rows time id times m) :
    Compensating rows time id times { m with compensated := id :: m.compensated } := by
  refine { during with others := fun fits sound other member different => ?_ }
  obtain ⟨once, compensated⟩ := during.others fits sound other member different
  exact ⟨once, .tail _ compensated⟩

theorem Compensating.finished (during : Compensating rows time id 1 m) (compensated : id ∈ m.compensated) :
    Between rows time m := by
  refine { during with settled := fun fits sound other member => ?_ }
  by_cases same : other = id
  · subst same
    exact ⟨during.own fits sound, compensated⟩
  · exact during.others fits sound other member same

end Memory

/-! ### The functions of the pipeline -/

section Recalls

variable {cfg : BackendSettings} {rows : List PendingSlash} {time : Nat} {past : List BackendExchange}

theorem answers (past : List BackendExchange) :
    PipelineCall cfg (pipelineMemory past) (.external .storeAnswer) := trivial

/-- During a compensation, a failure ends it. -/
private abbrev SlashStage (rows : List PendingSlash) (time : Nat) (id : String)
    (P : PipelineMemory → Prop) {α : Type} :
    Except BackendError α → PipelineMemory → Prop :=
  onOk (fun _ m => Between rows time m ∧ Calm id m) fun _ m => P m

variable {id : String} {slash : PendingSlash} {now : Nat}

theorem recalls_countFailure {address} (during : Compensating rows time id 0 (pipelineMemory past))
    (penalty : (pipelineMemory past).penalty = some (id, entry))
    (charged : (pipelineMemory past).Charged id entry address) :
    Recalls cfg (SolversService.countFailure address (· - 1))
      (SlashStage rows time id (Compensating rows time id 1)) past := by
  refine follows_fallible_bind answers (fun _ => ⟨during.failed, during.calm.failed⟩) trivial ?_ fun solver => ?_
  · exact fun _ _ => ⟨(during.learns And.left).failed, during.calm.failed⟩
  · cases solver with
    | none =>
      refine { during.learns And.left with own := fun _ sound => ?_ }
      have isSome := sound.2 (PipelineMemory.cancelling_of_cancels during.cancels)
      cases isSome
    | some fillsFailed =>
      have read : Compensating rows time id 0 (pipelineMemory
          (storeAnswered (.ok ()) :: ⟨.solvers (.findByAddress address), some fillsFailed⟩ ::
            storeAnswered (.ok ()) :: past)) := during.learns And.left
      refine follows_fallible_bind answers (fun _ => ⟨read.failed, read.calm.failed⟩)
        ⟨id, entry, fillsFailed, penalty, read.cancels, charged, rfl, rfl⟩ ?_ fun _ => ?_
      · exact fun _ _ => ⟨(read.reverses penalty).failed, read.calm.failed⟩
      · exact read.reverses penalty

theorem recalls_rollbackPenalty {solverAddress} (during : Compensating rows time id 0 (pipelineMemory past))
    (isSeen : ∃ row ∈ (pipelineMemory past).seen, row.intentId = id ∧ row.solverAddress = solverAddress) :
    Recalls cfg (SolversService.rollbackPenalty id solverAddress)
      (SlashStage rows time id (Compensating rows time id 1)) past := by
  refine .call_bind during.cancels fun entry => ?_
  cases entry with
  | none =>
    dsimp only
    split
    · -- Without an entry and without a solver nothing can be taken back.
      rename_i isEmpty
      refine { during.learns And.left with own := fun _ sound => ?_ }
      obtain ⟨row, member, isId, isSolver⟩ := isSeen
      have named : row.solverAddress ≠ "" := sound.2 row member isId
      exact absurd (isSolver.trans (String.isEmpty_iff.mp isEmpty)) named
    · exact .andThen (recalls_countFailure (during.learns And.left) rfl isSeen) (fun _ _ done => done) fun _ _ done =>
        done
  | some entry =>
    dsimp only
    split
    · rename_i settled
      refine { during.learns And.left with own := fun _ sound => ?_ }
      exact absurd sound.2 settled
    · refine .andThen (recalls_countFailure (during.learns And.left) rfl rfl) (fun _ _ done => done) ?_
      intro counted past' done
      cases counted with
      | false => exact done
      | true => exact ⟨trivial, fun _ => done⟩

/-- Calls that leave no trace in what is remembered. -/
def BackendCall.Aside : BackendCall → Prop
  | .now | .audit .. | .recordFill _ => True
  | _ => False

theorem recalls_aside {α : Type} {x : Backend α} {P : PipelineMemory → Prop} (calls : x.Calls BackendCall.Aside)
    (holds : P (pipelineMemory past)) : Recalls cfg x (fun _ m => P m) past := by
  refine follows_aside calls ?_ ?_ holds
  · intro m c reply isAside
    cases c with
    | now | audit | recordFill => rfl
    | _ => cases isAside
  · intro m c isAside
    cases c with
    | now | audit | recordFill => trivial
    | _ => cases isAside

theorem calls_afterCompensation (p : TransitionPlan) (intent updated : Intent)
    («to» : IntentsService.Compensation) (now : Nat) :
    Async.Calls BackendCall.Aside (do
      recordCompensation cfg intent updated «to» now
      recordTransition p (some updated)
      pure (some updated)) := by
  refine calls_bind (calls_recordCompensation (fun _ => trivial) _ _ _ _) fun _ => ?_
  exact calls_bind (calls_one trivial) fun _ => calls_pure _

theorem plan_compensation (intentId : String) («to» : IntentsService.Compensation) (ctx : TransitionContext) :
    ∃ p, plan intentId .slashed «to».state { ctx with override := true } = pure p := by
  cases «to» with
  | filled | expired => exact ⟨_, rfl⟩

theorem recalls_compensateSlash {«to» : IntentsService.Compensation} {ctx : TransitionContext}
    {patch : IntentPatch} (during : Compensating rows time id 1 (pipelineMemory past)) :
    Recalls cfg (compensateSlash cfg id «to» ctx patch none)
      (fun _ m => Compensating rows time id 1 m ∧ id ∈ m.compensated) past := by
  have done {m} (isAfter : m = { pipelineMemory past with compensated := id :: (pipelineMemory past).compensated }) :
      Compensating rows time id 1 m ∧ id ∈ m.compensated := by
    rw [isAfter]
    exact ⟨during.compensates, .head _⟩
  refine (follows_bind _ _).mpr (.call_bind trivial fun ms => ?_)
  change Async.Follows _ (_ >>= _) _ _
  refine .call_bind trivial fun stored => ?_
  cases stored with
  | none => exact done rfl
  | some intent =>
    dsimp only
    split
    · rename_i notSlashed
      have isNot : ((some intent).any (·.state == .slashed)) ≠ true := by simpa using notSlashed
      exact done (if_neg isNot)
    · rename_i isSlashed
      have isSlashed : intent.state = .slashed := not_not.mp isSlashed
      have known : pipelineMemory (⟨.intents (.findById id), some intent⟩ :: ⟨.now, ms⟩ :: past) =
          pipelineMemory past := if_pos (by simpa using isSlashed)
      obtain ⟨p, planned⟩ := plan_compensation intent.intentId «to» ctx
      rw [isSlashed, planned]
      refine .call_bind ⟨rfl, by cases «to» <;> decide⟩ fun result => ?_
      have after : pipelineMemory (⟨.intents (.transitionIf id .slashed «to».state patch), result⟩ ::
          ⟨.intents (.findById id), some intent⟩ :: ⟨.now, ms⟩ :: past) =
          { pipelineMemory past with compensated := id :: (pipelineMemory past).compensated } := by
        rw [← known]
        rfl
      split
      · exact done after
      · exact recalls_aside (P := fun m => Compensating rows time id 1 m ∧ id ∈ m.compensated)
          (calls_afterCompensation _ _ _ _ _) (done after)

theorem recalls_compensate {reason actor extra}
    (during : Compensating rows time slash.intentId 1 (pipelineMemory past)) :
    Recalls cfg (compensate cfg slash reason actor extra) (SlashStage rows time slash.intentId fun m =>
      Compensating rows time slash.intentId 1 m ∧ slash.intentId ∈ m.compensated) past := by
  refine (follows_bind _ _).mpr (follows_fallible answers (fun _ => ⟨during.failed, during.calm.failed⟩) ?_)
  refine follows_mono ?_ (recalls_compensateSlash during)
  rintro (e | compensated) past' ⟨done, isCompensated⟩
  · exact ⟨done.finished isCompensated, done.calm⟩
  · refine ⟨fun _ => ⟨done.failed, done.calm.failed⟩, ?_⟩
    cases compensated with
    | some _ => exact ⟨done, isCompensated⟩
    | none => exact ⟨trivial, fun _ => ⟨done, isCompensated⟩⟩

theorem recalls_cancel {reason actor extra now} (between : Between rows time (pipelineMemory past))
    (write :
      ∀ clock, (pipelineMemory past).fits → SagaWrite (pipelineMemory past) slash.intentId (cancellable reason)
      (cancelPatch slash reason actor extra clock))
    (isSeen : ∃ row ∈ (pipelineMemory past).seen, row.intentId = slash.intentId ∧
      row.solverAddress = slash.solverAddress) :
    Recalls cfg (cancel cfg slash reason actor extra now) (fun _ m => Between rows time m ∧
      (Calm slash.intentId (pipelineMemory past) → Calm slash.intentId m)) past := by
  refine .call_bind trivial fun clock => ?_
  have cancels : (cancelPatch slash reason actor extra clock).state = some .cancelled := rfl
  refine follows_slashes_bind answers (fun _ => ⟨between.failed, Calm.failed⟩) ⟨between.settled, write clock⟩
    ?_ fun result => ?_
  · intro e result
    cases result with
    | none => exact ⟨between.failed, Calm.failed⟩
    | some row => exact ⟨(between.cancels cancels).failed, fun _ => (between.cancels cancels).calm.failed⟩
  · cases result with
    | none => exact ⟨between, id⟩
    | some row =>
      obtain ⟨known, member, isId, isSolver⟩ := isSeen
      refine .andThen
        (recalls_rollbackPenalty (between.cancels cancels) ⟨known, .tail _ member, isId, isSolver⟩)
        (fun _ _ during => ⟨during.1, fun _ => during.2⟩) fun _ past₁ during => ?_
      refine .andThen (recalls_compensate during) (fun _ _ done => ⟨done.1, fun _ => done.2⟩) ?_
      rintro _ past₂ ⟨done, isCompensated⟩
      have finished := done.finished isCompensated
      have ended : Between rows time { pipelineMemory past₂ with cancelling := false } :=
        { finished with settled := finished.settled }
      exact .attempt_bind ⟨finished.settled, fun | .error _ | .ok _ => ⟨ended, fun _ => done.calm⟩⟩

section

variable {α : Type} {Q : Except BackendError α → PipelineMemory → Prop} {C : PipelineMemory → Prop}
  {«from» : List PendingSlashState} {patch : PendingSlashPatch} {due : Option Nat}
    {f : Option PendingSlash → Backend α}
  {result : SlashResult} (between : Between rows time (pipelineMemory past))
include between

/-- A write to a row that cancels nothing. `C` is what is known once a store has failed. -/
theorem recalls_transition (failed : ∀ e m, Between rows time m → C m → Q (.error e) m)
    (noCancel : patch.state ≠ some .cancelled)
    (write : (pipelineMemory past).fits → SagaWrite (pipelineMemory past) id «from» patch)
    (before : C (pipelineMemory past).failed)
    (after : ∀ row, C ((pipelineMemory past).moved id «from» patch row).failed)
    (rest : ∀ result, Recalls cfg (f result) Q (storeAnswered (.ok ()) ::
      ⟨.slashes (.transition id «from» patch due), result⟩ :: storeAnswered (.ok ()) :: past)) :
    Recalls cfg (Backend.slashes (.transition id «from» patch due) >>= f) Q past := by
  refine follows_slashes_bind answers (fun e => failed e _ between.failed before) ⟨between.settled, write⟩ ?_ rest
  intro e result
  cases result with
  | none => exact failed e _ between.failed before
  | some row => exact failed e _ (between.moved noCancel).failed (after row)

theorem recalls_retryOrGiveUp {error} (calm : Calm slash.intentId (pipelineMemory past))
    (live : (pipelineMemory past).fits → slash.state ≠ .confirmed ∧ slash.state ≠ .cancelled)
    (isSeen : slash ∈ (pipelineMemory past).seen) :
    Recalls cfg (retryOrGiveUp cfg slash error now) (fun _ m => Between rows time m ∧
      (slash.state ≠ .submitted → Calm slash.intentId m)) past := by
  unfold retryOrGiveUp
  dsimp only
  split
  · refine .andThen
      (recalls_cancel between (fun clock _ => .gaveUp _ _ clock calm) ⟨slash, isSeen, rfl, rfl⟩) ?_ ?_
    all_goals exact fun _ _ after => ⟨after.1, fun _ => after.2 calm⟩
  · have leads (notSubmitted : slash.state ≠ .submitted) (row : PendingSlash) :
        Calm slash.intentId ((pipelineMemory past).moved slash.intentId [slash.state]
          { attempts := some (slash.attempts + 1), nextAttemptAt := some (backoff (slash.attempts + 1) now)
            lastError := some (some error) } row) := by
      apply calm_moved
      intro state leads
      exact List.mem_singleton.mp leads ▸ notSubmitted
    exact recalls_transition between (fun _ _ => And.intro) (by simp) (fun fits => .retried _ _ _ _ (live fits))
      (fun _ => calm.failed) (fun row notSubmitted => (leads notSubmitted row).failed) fun
        | none => ⟨between, fun _ => calm⟩
        | some row => ⟨between.moved (by simp), fun notSubmitted => leads notSubmitted row⟩

theorem recalls_openChallengeWindow :
    Recalls cfg (openChallengeWindow slash) (fun _ m => Between rows time m ∧
      (Calm slash.intentId (pipelineMemory past) → Calm slash.intentId m)) past := by
  have leads (row : PendingSlash) : Calm slash.intentId ((pipelineMemory past).moved slash.intentId [.detected]
      { state := some .challengeWindow } row) := by
    apply calm_moved
    rintro _ rfl
    decide
  exact recalls_transition between (fun _ _ => And.intro) (by simp) (fun _ => .opened) Calm.failed
    (fun row _ => (leads row).failed) fun
      | none => ⟨between, id⟩
      | some row => ⟨trivial, fun _ => ⟨between.moved (by simp), fun _ => leads row⟩⟩

/-- A row in the window state that the program holds. -/
private structure Holds (slash : PendingSlash) (m : PipelineMemory) : Prop where
  isLast : slash ∈ m.last
  isSeen : slash ∈ m.seen
  isRow : slash ∈ m.rows

omit between in
theorem Holds.calm {m} (holds : Holds slash m) (inWindow : slash.state = .challengeWindow) : Calm slash.intentId m :=
  calm_of_last holds.isLast (by rw [inWindow]; decide)

theorem recalls_recordSubmission (holds : Holds slash (pipelineMemory past))
    (inWindow : slash.state = .challengeWindow) :
    Recalls cfg (recordSubmission cfg slash result now)
      (SlashStage rows time slash.intentId (Between rows time)) past := by
  have calm := holds.calm inWindow
  unfold recordSubmission
  split
  · refine follows_mono ?_ (recalls_retryOrGiveUp between calm ?_ holds.isSeen)
    · rintro (e | _) past' ⟨after, kept⟩
      · exact ⟨after, kept (by rw [inWindow]; decide)⟩
      · exact after
    · rw [inWindow]
      exact fun _ => by decide
  · have noCancel : (submittedPatch result now).state ≠ some .cancelled := by simp [submittedPatch]
    -- Once the submission is recorded, a failure is not careful.
    exact recalls_transition between (fun _ _ => And.intro) noCancel (fun _ => .recorded _ _) calm.failed
      (fun row fits careful => absurd fits.2.2.1 (careful.2 row (.head _))) fun
        | none => between
        | some row => ⟨trivial, fun _ => between.moved noCancel⟩

theorem recalls_submit (holds : Holds slash (pipelineMemory past)) (inWindow : slash.state = .challengeWindow) {scan}
    (scanned : (pipelineMemory past).scan = some scan) (isId : scan.intentId = slash.intentId)
    (isDeadline : scan.fillDeadline = slash.fillDeadline)
    (tolerance : scan.latestAcceptable = scan.fillDeadline + cfg.clockSkewToleranceSeconds) :
    Recalls cfg (submit cfg slash now) (SlashStage rows time slash.intentId (Between rows time)) past := by
  have calm := holds.calm inWindow
  refine .call_bind ⟨scan, scanned, isId, tolerance, slash, holds.isRow, rfl, isDeadline.symm⟩ fun outcome => ?_
  cases outcome with
  | ok result => exact recalls_recordSubmission between holds inWindow
  | error e =>
    cases e with
    | killSwitchActive active =>
      refine recalls_transition between (fun _ _ => And.intro) (by simp) (fun _ => .paused _ _) calm.failed
        (fun row => Calm.failed (calm_moved fun state leads => ?_)) fun
          | none => between
          | some row => between.moved (by simp)
      rw [List.mem_singleton.mp leads]
      decide
    | _ => exact ⟨between, calm⟩

theorem recalls_verifyAndSubmit (holds : Holds slash (pipelineMemory past))
    (inWindow : slash.state = .challengeWindow) :
    Recalls cfg (verifyAndSubmit cfg slash now) (SlashStage rows time slash.intentId (Between rows time)) past := by
  have calm := holds.calm inWindow
  refine .call_bind trivial fun landed => ?_
  have scanned : Between rows time (pipelineMemory (⟨.external (.findLandedFill slash.intentId slash.fillDeadline
      (latestAcceptable cfg slash) (now / 1000)), landed⟩ :: past)) := { between with settled := between.settled }
  -- A cancellation before the broadcast.
  have cancels {past' : List BackendExchange} (between' : Between rows time (pipelineMemory past'))
      (calm' : Calm slash.intentId (pipelineMemory past')) (isSeen : slash ∈ (pipelineMemory past').seen)
      (reason : SlashCancelReason) (before : cancellable reason = CANCELLABLE) (extra : CancelExtra) :
      Recalls cfg (cancel cfg slash reason "system" extra none >>= fun _ => pure ())
        (SlashStage rows time slash.intentId (Between rows time)) past' := by
    refine .andThen (recalls_cancel between' (fun clock _ => ?_) ⟨slash, isSeen, rfl, rfl⟩)
      (fun _ _ after => ⟨after.1, after.2 calm'⟩) fun _ _ after => after.1
    rw [before]
    exact .cancelled _ _ _ _ _
  rcases landed with e | (_ | txHash)
  · refine follows_mono ?_ (recalls_retryOrGiveUp scanned calm ?_ holds.isSeen)
    · rintro (e | _) past' ⟨after, kept⟩
      · exact ⟨after, kept (by rw [inWindow]; decide)⟩
      · exact after
    · rw [inWindow]
      exact fun _ => by decide
  · refine (follows_bind _ _).mpr ((follows_attempt _).mpr ⟨trivial, fun answer => ?_⟩)
    have asked : Between rows time (pipelineMemory (⟨.external (.getSolver slash.solverAddress), answer⟩ ::
        ⟨.external (.findLandedFill slash.intentId slash.fillDeadline (latestAcceptable cfg slash) (now / 1000)),
          .ok none⟩ :: past)) := scanned
    rcases answer with e | (_ | solver)
    · exact ⟨asked, calm⟩
    · exact cancels asked calm holds.isSeen .solverNotFound rfl {}
    · exact recalls_submit asked ⟨holds.isLast, holds.isSeen, holds.isRow⟩ inWindow rfl rfl rfl rfl
  · exact cancels scanned calm holds.isSeen .fillLanded rfl { fillTxHash := some txHash }

section

variable (isLast : slash ∈ (pipelineMemory past).last) (submitted : slash.state = .submitted)
include isLast submitted

theorem recalls_touchSubmitted (nextAttemptAt : Option Nat) (error : Option String) :
    Recalls cfg (touchSubmitted slash { nextAttemptAt, lastError := error.map some })
      (SlashStage rows time slash.intentId (Between rows time)) past := by
  exact recalls_transition between (fun _ _ => And.intro) (by simp) (fun _ => .touched _ _)
    (calm_of_submitted isLast submitted)
    (fun row fits careful => absurd (List.mem_singleton.mp fits.2.2.1) (careful.2 row (.head _))) fun
      | none => between
      | some row => between.moved (by simp)

theorem recalls_reopen {txHash what} (hash : slash.txHash = some txHash)
    (dropped : Dropped (pipelineMemory past) slash txHash) :
    Recalls cfg (reopen cfg slash txHash what now) (SlashStage rows time slash.intentId (Between rows time)) past := by
  have leads (row : PendingSlash) : Calm slash.intentId ((pipelineMemory past).moved slash.intentId [.submitted]
      { state := some .challengeWindow, txHash := some none } row) := by
    apply calm_moved
    rintro _ rfl
    decide
  refine recalls_transition between (fun _ _ => And.intro) (by simp)
    (fun _ => .reopened slash txHash isLast rfl hash dropped) (calm_of_submitted isLast submitted)
    (fun row => (leads row).failed) fun
      | none => between
      | some row => ?_
  -- The row goes on under the id and in the state that the store gave it.
  have inWindow (fits : ((pipelineMemory past).moved slash.intentId [.submitted]
      { state := some .challengeWindow, txHash := some none } row).fits) : row.state = .challengeWindow := fits.2.2.1
  refine follows_mono ?_ (follows_suffix
    (recalls_retryOrGiveUp (between.moved (by simp)) (fun fits _ => ⟨row, .head _, rfl, ?_⟩)
      (fun fits => ?_) (.head _)))
  · rintro outcome past' ⟨⟨after, kept⟩, longer⟩
    have calm : Calm slash.intentId (pipelineMemory past') := by
      intro fits careful
      have earlier := fits_of_suffix longer fits
      obtain ⟨known, isKnown, isId, notSubmitted⟩ := kept (by rw [inWindow earlier]; decide) fits careful
      exact ⟨known, isKnown, isId.trans earlier.2.1, notSubmitted⟩
    cases outcome with
    | error e => exact ⟨after, calm⟩
    | ok _ => exact after
  · rw [inWindow fits]
    decide
  · rw [inWindow fits]
    decide

theorem recalls_confirm :
    Recalls cfg (confirm cfg slash time) (SlashStage rows time slash.intentId (Between rows time)) past := by
  unfold confirm
  split
  · exact recalls_touchSubmitted between isLast submitted none none
  · rename_i txHash isHash
    have hash : slash.txHash = some txHash := (Option.filter_eq_some_iff.mp isHash).1
    refine .call_bind trivial fun status => ?_
    have checked : Between rows time (pipelineMemory (⟨.external (.checkTx txHash), status⟩ :: past)) :=
      { between with settled := between.settled }
    rcases status with e | (_ | _ | _)
    · exact recalls_touchSubmitted checked isLast submitted (some _) (some _)
    · refine recalls_transition checked (fun _ _ => And.intro) (by simp) (fun _ => .confirmed _)
        (calm_of_submitted isLast submitted) (fun row => Calm.failed (calm_moved ?_)) fun
          | none => checked
          | some row => ⟨trivial, fun _ => checked.moved (by simp)⟩
      rintro _ rfl
      decide
    · exact recalls_reopen checked isLast submitted hash (.inl rfl)
    · dsimp only
      split
      · rename_i isOld
        exact recalls_reopen checked isLast submitted hash (.inr ⟨rfl, checked.isTime ▸ isOld⟩)
      · exact recalls_touchSubmitted checked isLast submitted (some _) none

end

theorem recalls_step (holds : Holds slash (pipelineMemory past)) :
    Recalls cfg (step cfg slash time) (onOk (fun _ m => (Between rows time m ∧ Calm slash.intentId m) ∧
      slash.state ≠ .confirmed ∧ slash.state ≠ .cancelled) fun _ m => Between rows time m) past := by
  have live {x : Backend Unit} (alive : slash.state ≠ .confirmed ∧ slash.state ≠ .cancelled)
      (h : Recalls cfg x (SlashStage rows time slash.intentId (Between rows time)) past) :
      Recalls cfg x (onOk (fun _ m => (Between rows time m ∧ Calm slash.intentId m) ∧
        slash.state ≠ .confirmed ∧ slash.state ≠ .cancelled) fun _ m => Between rows time m) past := by
    refine follows_mono ?_ h
    rintro (e | _) past' done
    · exact ⟨done, alive⟩
    · exact done
  unfold step
  split
  · rename_i detected
    refine live (by rw [detected]; decide) ?_
    exact .andThen (recalls_openChallengeWindow between)
      (fun _ _ after => ⟨after.1, after.2 (calm_of_last holds.isLast (by rw [detected]; decide))⟩) fun _ _ after =>
        after.1
  · rename_i inWindow
    exact live (by rw [inWindow]; decide) (recalls_verifyAndSubmit between holds inWindow)
  · rename_i submitted
    exact live (by rw [submitted]; decide) (recalls_confirm between holds.isLast submitted)
  · exact between
  · exact between

theorem recalls_processRow (member : slash ∈ rows) :
    Recalls cfg (processRow cfg time slash) (fun _ m => Between rows time m) past := by
  have claims (taken : Bool) : Between rows time (pipelineMemory
      (⟨.slashes (.claim slash.intentId time (time + LEASE_SECONDS * 1000)), taken⟩ :: past)) := by
    cases taken with
    | false => exact between
    | true => exact { between with settled := between.settled }
  refine follows_slashes_bind answers (fun _ => between.failed) between.settled
    (fun _ taken => (claims taken).failed) fun taken => ?_
  cases taken with
  | false => exact between
  | true =>
    have isRow : slash ∈ (pipelineMemory past).rows := between.isRows ▸ member
    have holds : Holds slash (pipelineMemory (storeAnswered (.ok ()) ::
        ⟨.slashes (.claim slash.intentId time (time + LEASE_SECONDS * 1000)), true⟩ ::
          storeAnswered (.ok ()) :: past)) :=
      ⟨List.mem_filter.mpr ⟨isRow, beq_self_eq_true _⟩, between.seen slash member, isRow⟩
    refine (follows_tryCatch _ _).mpr
      (follows_mono ?_ (follows_suffix (recalls_step (claims true) holds)))
    rintro (e | _) past' ⟨done, longer⟩
    · obtain ⟨⟨after, calm⟩, live⟩ := done
      refine follows_mono ?_ (recalls_retryOrGiveUp after calm (fun _ => live) (after.seen slash member))
      exact fun _ _ done => done.1
    · exact done

end

/-! ### The requests -/

theorem between_start : Between [] 0 (pipelineMemory []) where
  isRows := rfl
  isTime := rfl
  seen := fun _ member => absurd member List.not_mem_nil
  reversed := fun _ member => absurd member List.not_mem_nil
  settled := fun _ _ _ member => absurd member List.not_mem_nil

theorem recalls_processDue (worker : Nat) : Recalls cfg (processDue cfg worker) (fun _ m => m.Settled) [] := by
  refine .call_bind trivial fun now => ?_
  refine .call_bind trivial fun begun => ?_
  cases begun with
  | false => exact between_start.settled
  | true =>
    apply (follows_tryFinally _ _).mpr
    refine follows_slashes_bind answers (fun _ => ⟨trivial, fun _ => between_start.failed.settled⟩) trivial
      (fun _ _ => ⟨trivial, fun _ => between_start.failed.settled⟩) fun due => ?_
    have listed : Between due now (pipelineMemory [storeAnswered (.ok ()),
        ⟨.slashes (.findDue now PROCESS_BATCH_SIZE), due⟩, storeAnswered (.ok ()),
        ⟨.beginLoop (.slashing worker), true⟩, ⟨.now, now⟩]) := by
      refine ⟨rfl, rfl, fun row member => List.mem_append_left _ member, between_start.reversed, ?_⟩
      exact between_start.settled
    apply follows_onEach (P := fun rest past => Between due now (pipelineMemory past) ∧
      ∀ slash ∈ rest, slash ∈ due)
    · intro slash rest past ⟨between, members⟩
      refine follows_mono ?_ (recalls_processRow between (members slash (.head _)))
      rintro (e | _) past' after
      · exact ⟨trivial, fun _ => after.settled⟩
      · exact ⟨after, fun other member => members other (.tail _ member)⟩
    · exact fun past ⟨between, _⟩ => ⟨trivial, fun _ => between.settled⟩
    · exact ⟨listed, fun _ member => member⟩

theorem recalls_detect (input : DetectMissedFillInput) : Recalls cfg (detect cfg input) (fun _ m => m.Settled) [] := by
  refine follows_slashes_bind answers (fun _ => between_start.failed.settled) trivial
    (fun _ _ => between_start.failed.settled) fun reply => ?_
  obtain ⟨slash, created⟩ := reply
  cases created with
  | false => exact between_start.settled
  | true =>
    exact .andThen (recalls_openChallengeWindow between_start) (fun _ _ after => after.1.settled)
      fun _ _ after => after.1.settled

theorem between_found (slash : PendingSlash) (intentId : String) :
    Between [] 0 (pipelineMemory [⟨.slashes (.findByIntent intentId), some slash⟩]) :=
  { between_start with
    seen := fun _ member => absurd member List.not_mem_nil
    settled := between_start.settled }

theorem recalls_cancelByAdmin (intentId actor note : String) :
    Recalls cfg (cancelByAdmin cfg intentId actor note) (fun _ m => m.Settled) [] := by
  refine follows_slashes_bind answers (fun _ => between_start.failed.settled) trivial ?_ fun stored => ?_
  · intro e stored
    cases stored with
    | none => exact between_start.failed.settled
    | some slash => exact (between_found slash intentId).failed.settled
  · cases stored with
    | none => exact between_start.settled
    | some slash =>
      refine .call_bind trivial fun now => ?_
      refine (follows_bind _ _).mpr (follows_mono ?_ (recalls_cancel (between_found slash intentId)
        (fun _ _ => .cancelled _ _ _ _ _) ⟨slash, .head _, rfl, rfl⟩))
      rintro (e | (_ | row)) past' ⟨after, _⟩ <;> exact after.settled

theorem recalls_cancelByFillProof (intentId solver txHash : String) :
    Recalls cfg (cancelByFillProof cfg intentId solver txHash) (fun _ m => m.Settled) [] := by
  refine follows_slashes_bind answers (fun _ => between_start.failed.settled) trivial ?_ fun stored => ?_
  · intro e stored
    cases stored with
    | none => exact between_start.failed.settled
    | some slash => exact (between_found slash intentId).failed.settled
  · cases stored with
    | none => exact between_start.settled
    | some slash =>
      have settled := (between_found slash intentId).settled
      refine .throwWhen_bind (fun _ => settled) fun _ => ?_
      refine .throwWhen_bind (fun _ => settled) fun _ => ?_
      refine .attempt_bind ((follows_call _ _).mpr ⟨trivial, fun
        | .error _ | .ok (some _) => settled
        | .ok none => ?_⟩)
      rw [onOk_ok, onOk_ok]
      refine .call_bind trivial fun now => ?_
      refine (follows_bind _ _).mpr (follows_mono ?_ (recalls_cancel (between_found slash intentId)
        (fun _ _ => .cancelled _ _ _ _ _) ⟨slash, .head _, rfl, rfl⟩))
      rintro (e | (_ | row)) past' ⟨after, _⟩ <;> exact after.settled

theorem pipeline_followed (cfg : BackendSettings) (meets : BackendView → BackendEvent → BackendWorld → Bool) :
    (pipelineDiscipline cfg).Followed (backendService cfg) (slashingSetting meets) := by
  intro request admitted
  cases request with
  | processDue worker => exact follows_respond (recalls_processDue worker)
  | detect input => exact follows_respond (recalls_detect input)
  | cancelByAdmin intentId actor note => exact follows_respond (recalls_cancelByAdmin intentId actor note)
  | cancelByFillProof intentId solver txHash =>
    exact follows_respond (recalls_cancelByFillProof intentId solver txHash)
  | _ => cases admitted

end Recalls

end VortexBackend
