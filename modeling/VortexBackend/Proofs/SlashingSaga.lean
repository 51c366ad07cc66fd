/-
Module: VortexBackend.Proofs.SlashingSaga
Purpose: Every slash is submitted after its window, if its row is unchanged when the lease is taken.
Main exports: slash_submitted_in_window
-/
import VortexBackend.Proofs.PipelineStore

namespace VortexBackend

open SlashingPipeline SlashStore BackendWorld Async
open Async (calls_bind calls_attempt calls_pure)
open IntentsService (calls_fallible calls_one calls_plain calls_slashes)

/-! ### Vocabulary -/

/-- The rows that a worker read for its pass. -/
def passRows : List BackendExchange → List PendingSlash
  | [] => []
  | ⟨.slashes (.findDue ..), rows⟩ :: _ => rows
  | _ :: earlier => passRows earlier

/-- The rows of an intent among them. -/
def readRows (intentId : String) (past : List BackendExchange) : List PendingSlash :=
  (passRows past).filter (·.intentId == intentId)

/-- The latest claim of a row that succeeded: by which program, and until when. -/
def latestClaim (intentId : String) : List BackendEvent → Option (Nat × Nat)
  | [] => none
  | ⟨actor, .slashes (.claim id _ leaseUntil), taken⟩ :: earlier =>
    if taken = true ∧ id = intentId then some (actor.pid, leaseUntil) else latestClaim intentId earlier
  | _ :: earlier => latestClaim intentId earlier

/-- The program holds the latest lease of the row and the lease is running. -/
def holdsLease (v : BackendView) (pid : Nat) (intentId : String) : Bool :=
  (latestClaim intentId v.history).any fun lease => lease.1 == pid && v.world.clock ≤ lease.2

def BackendRequest.isPass : BackendRequest → Bool
  | .processDue _ => true
  | _ => false

/-- The condition on one call: when a lease is taken the row has the state in which the worker read it, and a
    worker submits a slash or writes a row only while its lease runs. -/
def leaseKept (v : BackendView) (e : BackendEvent) (_ : BackendWorld) : Bool :=
  match e with
  | ⟨actor, .slashes (.claim intentId ..), taken⟩ =>
    !taken || (readRows intentId (past actor.pid v.history)).all fun row =>
      (v.world.slashes.get intentId).any (·.state == row.state)
  | ⟨actor, .slashes (.transition intentId ..), _⟩ =>
    !actor.request.isPass || holdsLease v actor.pid intentId
  | ⟨actor, .external (.slashSolver _ intentId _), _⟩ => holdsLease v actor.pid intentId
  | _ => true

/-! ### What the pipeline does -/

/-- The rows under which a program holds an intent: those it read before it claimed the row, as long as it has
    not written it. -/
def heldRows (intentId : String) : List BackendExchange → List PendingSlash
  | [] => []
  | ⟨.slashes (.claim id ..), taken⟩ :: earlier =>
    if taken = true ∧ id = intentId then readRows intentId earlier else heldRows intentId earlier
  | ⟨.slashes (.transition id ..), _⟩ :: earlier => if id = intentId then [] else heldRows intentId earlier
  | _ :: earlier => heldRows intentId earlier

/-- What each call of the pipeline may rely on. -/
def SagaCall (request : BackendRequest) (past : List BackendExchange) : BackendCall → Prop
  | .external (.slashSolver _ intentId _) => ∃ row ∈ heldRows intentId past, row.state = .challengeWindow
  | .slashes (.findDue now _) => (⟨.now, now⟩ : BackendExchange) ∈ past
  | .slashes (.transition _ «from» _ now) => request.isPass = true ∨ «from» = [.detected] ∨
      ∃ time, now = some time ∧ (⟨.now, time⟩ : BackendExchange) ∈ past
  | _ => True

def sagaDiscipline : BackendDiscipline where
  allows request past call := SagaCall request past call

/-- Everything a worker does for a row, apart from submitting a slash. -/
def BackendCall.RowWork : BackendCall → Prop
  | .external (.slashSolver ..) | .slashes (.findDue ..) => False
  | _ => True

/-- Calls that neither submit nor read nor write a slash. -/
def BackendCall.OutsideSaga : BackendCall → Prop
  | .external (.slashSolver ..) | .slashes (.findDue ..) | .slashes (.transition ..) => False
  | _ => True

instance : AllowsPlain BackendCall.OutsideSaga := by
  refine ⟨fun call isPlain => ?_⟩
  cases call with
  | slashes c | external c => cases c <;> trivial
  | _ => trivial

theorem rowWork_of_outsideSaga (call : BackendCall) (h : call.OutsideSaga) : call.RowWork := by
  cases call with
  | slashes c | external c => cases c <;> trivial
  | _ => trivial

instance : AllowsPlain BackendCall.RowWork where
  plain call isPlain := rowWork_of_outsideSaga call (AllowsPlain.plain call isPlain)

section Calls

variable {cfg : BackendSettings}

theorem calls_compensate (slash : PendingSlash) (reason : SlashCancelReason) (actor : String)
    (extra : CancelExtra) : (compensate cfg slash reason actor extra).Calls BackendCall.OutsideSaga := by
  refine calls_bind (calls_fallible
    (IntentsService.calls_compensateSlash trivial)) fun compensated => ?_
  cases compensated with
  | some _ => trivial
  | none => exact calls_plain trivial

theorem calls_afterCancel (slash row : PendingSlash) (reason : SlashCancelReason) (actor : String)
    (extra : CancelExtra) :
    Async.Calls BackendCall.OutsideSaga (do
      SolversService.rollbackPenalty slash.intentId slash.solverAddress
      compensate cfg slash reason actor extra
      attempt (Backend.external (.broadcast .slashCancelled slash.intentId))
      pure (some row)) := by
  refine calls_bind (SolversService.calls_rollbackPenalty _ _) fun _ => ?_
  refine calls_bind (calls_compensate slash reason actor extra) fun _ => ?_
  exact calls_bind (calls_attempt (calls_plain trivial)) fun _ => calls_pure _

section

variable (slash : PendingSlash)
include slash

theorem calls_cancel (reason : SlashCancelReason) (actor : String) (extra : CancelExtra) (now : Option Nat) :
    (cancel cfg slash reason actor extra now).Calls BackendCall.RowWork := by
  refine calls_bind (calls_plain trivial) fun clock => ?_
  refine calls_bind (calls_slashes trivial) fun cancelled => ?_
  cases cancelled with
  | none => trivial
  | some row => exact (calls_afterCancel slash row reason actor extra).mono rowWork_of_outsideSaga

theorem calls_openChallengeWindow : (openChallengeWindow slash).Calls BackendCall.RowWork := by
  refine calls_bind (calls_slashes trivial) fun opened => ?_
  cases opened with
  | none => trivial
  | some row => exact calls_bind (calls_plain trivial) fun _ => calls_pure _

theorem calls_retryOrGiveUp (error : String) (now : Nat) :
    (retryOrGiveUp cfg slash error now).Calls BackendCall.RowWork := by
  unfold retryOrGiveUp
  dsimp only
  split
  · exact calls_bind (calls_cancel _ _ _ _ _) fun _ => calls_pure _
  · exact calls_bind (calls_slashes trivial) fun _ => calls_pure _

theorem calls_recordSubmission (result : SlashResult) (now : Nat) :
    (recordSubmission cfg slash result now).Calls BackendCall.RowWork := by
  unfold recordSubmission
  split
  · exact calls_retryOrGiveUp _ _ _
  · refine calls_bind (calls_slashes trivial) fun submitted => ?_
    cases submitted with
    | none => trivial
    | some _ => exact calls_plain trivial

theorem calls_touchSubmitted (patch : PendingSlashPatch) : (touchSubmitted slash patch).Calls BackendCall.RowWork :=
  calls_bind (calls_slashes trivial) fun _ => calls_pure _

theorem calls_reopen (txHash what : String) (now : Nat) :
    (reopen cfg slash txHash what now).Calls BackendCall.RowWork := by
  refine calls_bind (calls_slashes trivial) fun reopened => ?_
  cases reopened with
  | none => trivial
  | some row => exact calls_retryOrGiveUp _ _ _

theorem calls_confirm (now : Nat) : (confirm cfg slash now).Calls BackendCall.RowWork := by
  unfold confirm
  split
  · exact calls_touchSubmitted _ _
  · refine calls_bind (calls_plain trivial) fun status => ?_
    rcases status with e | (_ | _ | _)
    · exact calls_touchSubmitted _ _
    · refine calls_bind (calls_slashes trivial) fun confirmed => ?_
      cases confirmed with
      | none => trivial
      | some _ => exact calls_plain trivial
    · exact calls_reopen _ _ _ _
    · dsimp only
      split
      · exact calls_reopen _ _ _ _
      · exact calls_touchSubmitted _ _

end

end Calls

/-! ### The pasts of the pipeline -/

theorem passRows_append {recent past} (work : ∀ x ∈ recent, x.call.RowWork) :
    passRows (recent ++ past) = passRows past := by
  induction recent with
  | nil => rfl
  | cons x recent ih =>
    rw [← ih fun y hy => work y (.tail _ hy)]
    have first := work x (.head _)
    obtain ⟨call, reply⟩ := x
    cases call with
    | slashes c => cases c <;> first | rfl | cases first
    | _ => rfl

/-- The program has read the row among those that are due. -/
abbrev ReadDue (past : List BackendExchange) (row : PendingSlash) : Prop :=
  ∃ now limit rows, ⟨.slashes (.findDue now limit), rows⟩ ∈ past ∧ row ∈ rows

variable {row : PendingSlash}

theorem passRows_read {past} (read : row ∈ passRows past) : ReadDue past row := by
  induction past with
  | nil => cases read
  | cons x earlier ih =>
    have older (h : row ∈ passRows earlier) : ReadDue (x :: earlier) row := by
      obtain ⟨now, limit, rows, found, member⟩ := ih h
      exact ⟨now, limit, rows, .tail _ found, member⟩
    obtain ⟨call, reply⟩ := x
    cases call with
    | slashes c =>
      cases c with
      | findDue now limit => exact ⟨now, limit, reply, .head _, read⟩
      | _ => exact older read
    | _ => exact older read

theorem heldRows_read {intentId past} (held : row ∈ heldRows intentId past) :
    row.intentId = intentId ∧ ReadDue past row := by
  induction past with
  | nil => cases held
  | cons x earlier ih =>
    have older (h : row ∈ heldRows intentId earlier) : row.intentId = intentId ∧ ReadDue (x :: earlier) row := by
      obtain ⟨isId, now, limit, rows, found, member⟩ := ih h
      exact ⟨isId, now, limit, rows, .tail _ found, member⟩
    obtain ⟨call, reply⟩ := x
    cases call with
    | slashes c =>
      cases c with
      | claim id now leaseUntil =>
        simp only [heldRows] at held
        split at held
        · obtain ⟨member, isId⟩ := List.mem_filter.mp held
          obtain ⟨now, limit, rows, found, isRow⟩ := passRows_read member
          exact ⟨beq_iff_eq.mp isId, now, limit, rows, .tail _ found, isRow⟩
        · exact older held
      | transition id «from» patch now =>
        simp only [heldRows] at held
        split at held
        · cases held
        · exact older held
      | _ => exact older held
    | _ => exact older held

section Follows

variable {cfg : BackendSettings} {request : BackendRequest} {past : List BackendExchange}

theorem sagaCall_of_rowWork (isPass : request.isPass = true) (call : BackendCall)
    (work : call.RowWork) : SagaCall request past call := by
  cases call with
  | slashes c =>
    cases c with
    | findDue => cases work
    | transition => exact .inl isPass
    | _ => trivial
  | external c => cases c <;> trivial
  | _ => trivial

theorem sagaCall_of_outsideSaga (call : BackendCall) (h : call.OutsideSaga) : SagaCall request past call := by
  cases call with
  | slashes c | external c => cases c <;> trivial
  | _ => trivial

variable {rows : List PendingSlash}

theorem follows_rowWork {α : Type} {x : Backend α} (isPass : request.isPass = true)
    (calls : x.Calls BackendCall.RowWork) (isRows : passRows past = rows) :
    x.Follows (SagaCall request) (fun _ past' => passRows past' = rows) past := by
  apply follows_of_calls calls
  · exact fun _ _ call work => sagaCall_of_rowWork isPass call work
  · exact fun _ _ work => (passRows_append work).trans isRows

theorem follows_outsideSaga {α : Type} {x : Backend α} (calls : x.Calls BackendCall.OutsideSaga) :
    x.Follows (SagaCall request) (fun _ _ => True) past :=
  follows_of_calls calls (fun _ _ call h => sagaCall_of_outsideSaga call h) fun _ _ _ => trivial

variable {slash : PendingSlash} {now : Nat}

theorem follows_submit (isPass : request.isPass = true) (isRows : passRows past = rows)
    (held : slash ∈ heldRows slash.intentId past) (inWindow : slash.state = .challengeWindow) :
    (submit cfg slash now).Follows (SagaCall request) (fun _ past' => passRows past' = rows) past := by
  refine .call_bind ⟨slash, held, inWindow⟩ fun outcome => ?_
  cases outcome with
  | ok result => exact follows_rowWork isPass (calls_recordSubmission slash result now) isRows
  | error e =>
    cases e with
    | killSwitchActive active =>
      refine follows_rowWork isPass ?_ isRows
      exact calls_bind (calls_slashes trivial) fun _ => calls_pure _
    | _ => exact isRows

theorem follows_verifyAndSubmit (isPass : request.isPass = true) (isRows : passRows past = rows)
    (held : slash ∈ heldRows slash.intentId past) (inWindow : slash.state = .challengeWindow) :
    (verifyAndSubmit cfg slash now).Follows (SagaCall request) (fun _ past' => passRows past' = rows) past := by
  refine .call_bind trivial fun landed => ?_
  rcases landed with e | (_ | txHash)
  · exact follows_rowWork isPass (calls_retryOrGiveUp _ _ _) isRows
  · exact .attempt_bind ⟨trivial, fun
      | .error _ => isRows
      | .ok none => follows_rowWork isPass (calls_bind (calls_cancel _ _ _ _ _) fun _ => calls_pure _) isRows
      | .ok (some _) => follows_submit isPass isRows held inWindow⟩
  · exact follows_rowWork isPass (calls_bind (calls_cancel _ _ _ _ _) fun _ => calls_pure _) isRows

theorem follows_step (isPass : request.isPass = true) (isRows : passRows past = rows)
    (held : slash ∈ heldRows slash.intentId past) :
    (step cfg slash now).Follows (SagaCall request) (fun _ past' => passRows past' = rows) past := by
  unfold step
  split
  · exact follows_rowWork isPass (calls_bind (calls_openChallengeWindow slash) fun _ => calls_pure _) isRows
  · rename_i inWindow
    exact follows_verifyAndSubmit isPass isRows held inWindow
  · exact follows_rowWork isPass (calls_confirm slash now) isRows
  · exact isRows
  · exact isRows

theorem follows_processRow (isPass : request.isPass = true) (isRows : passRows past = rows) (member : slash ∈ rows) :
    (processRow cfg now slash).Follows (SagaCall request) (fun _ past' => passRows past' = rows) past := by
  refine follows_slashes_bind (fun _ => trivial) (fun _ => isRows) trivial (fun _ _ => isRows) fun claimed => ?_
  cases claimed with
  | false => exact isRows
  | true =>
    have held : slash ∈ heldRows slash.intentId (storeAnswered (.ok ()) ::
        ⟨.slashes (.claim slash.intentId now (now + LEASE_SECONDS * 1000)), true⟩ ::
          storeAnswered (.ok ()) :: past) := by
      have isRead : slash ∈ readRows slash.intentId (storeAnswered (.ok ()) :: past) := by
        rw [readRows, show passRows (storeAnswered (.ok ()) :: past) = rows from isRows]
        exact List.mem_filter.mpr ⟨member, beq_self_eq_true _⟩
      simpa [storeAnswered, heldRows] using isRead
    refine (follows_tryCatch _ _).mpr
      (follows_mono (fun outcome past' kept => ?_) (follows_step isPass isRows held))
    cases outcome with
    | error e => exact follows_rowWork isPass (calls_retryOrGiveUp _ _ _) kept
    | ok _ => exact kept

theorem follows_processDue (worker : Nat) :
    (processDue cfg worker).Follows (SagaCall (.processDue worker)) (fun _ _ => True) [] := by
  refine .call_bind trivial fun now => ?_
  refine .call_bind trivial fun begun => ?_
  cases begun with
  | false => trivial
  | true =>
    apply (follows_tryFinally _ _).mpr
    have ends (past : List BackendExchange) : Async.Follows (SagaCall (.processDue worker))
        (Backend.call (.endLoop (.slashing worker)))
        (onOk (fun _ _ => True) fun _ _ => True) past := ⟨trivial, fun _ => trivial⟩
    refine follows_slashes_bind (fun _ => trivial) (fun _ => ends _) (.tail _ (.tail _ (.head _)))
      (fun _ _ => ends _) fun rows => ?_
    apply follows_onEach (P := fun rest past => passRows past = rows ∧ ∀ slash ∈ rest, slash ∈ rows)
    · intro slash rest past ⟨isRows, members⟩
      refine follows_mono (fun outcome past' kept => ?_)
        (follows_processRow rfl isRows (members slash (.head _)))
      cases outcome with
      | error e => exact ends _
      | ok _ => exact ⟨kept, fun other member => members other (.tail _ member)⟩
    · exact fun past _ => ends past
    · exact ⟨rfl, fun _ member => member⟩

theorem follows_detect (input : DetectMissedFillInput) :
    (detect cfg input).Follows (SagaCall request) (fun _ _ => True) [] := by
  refine follows_slashes_bind (fun _ => trivial) (fun _ => trivial) trivial (fun _ _ => trivial) fun reply => ?_
  obtain ⟨slash, created⟩ := reply
  cases created with
  | false => trivial
  | true =>
    refine (follows_bind _ _).mpr (follows_slashes_bind (fun _ => trivial) (fun _ => trivial)
      (.inr (.inl rfl)) (fun _ _ => trivial) fun opened => ?_)
    cases opened with
    | none => trivial
    | some row => exact ⟨trivial, fun _ => trivial⟩

theorem follows_cancel {reason : SlashCancelReason} {actor : String} {extra : CancelExtra}
    (wasRead : (⟨.now, now⟩ : BackendExchange) ∈ past) :
    (cancel cfg slash reason actor extra (some now)).Follows (SagaCall request) (fun _ _ => True) past := by
  refine .call_bind trivial fun clock => ?_
  refine follows_slashes_bind (fun _ => trivial) (fun _ => trivial)
    (.inr (.inr ⟨now, rfl, .tail _ (.tail _ wasRead)⟩)) (fun _ _ => trivial) fun cancelled => ?_
  cases cancelled with
  | none => trivial
  | some row => exact follows_outsideSaga (calls_afterCancel slash row reason actor extra)

theorem follows_cancelByAdmin (intentId actor note : String) :
    (cancelByAdmin cfg intentId actor note).Follows (SagaCall request) (fun _ _ => True) [] := by
  refine follows_slashes_bind (fun _ => trivial) (fun _ => trivial) trivial (fun _ _ => trivial) fun stored => ?_
  cases stored with
  | none => trivial
  | some slash =>
    refine .call_bind trivial fun now => ?_
    exact .andThen (follows_cancel (.head _)) (fun _ _ _ => trivial) fun | none, _, _ | some _, _, _ => trivial

theorem follows_cancelByFillProof (intentId solver txHash : String) :
    (cancelByFillProof cfg intentId solver txHash).Follows (SagaCall request) (fun _ _ => True) [] := by
  refine follows_slashes_bind (fun _ => trivial) (fun _ => trivial) trivial (fun _ _ => trivial) fun stored => ?_
  cases stored with
  | none => trivial
  | some slash =>
    refine .throwWhen_bind (fun _ => trivial) fun _ => ?_
    refine .throwWhen_bind (fun _ => trivial) fun _ => ?_
    refine .attempt_bind ⟨trivial, fun
      | .error _ | .ok (some _) => trivial
      | .ok none => ?_⟩
    refine .call_bind trivial fun now => ?_
    exact .andThen (follows_cancel (.head _)) (fun _ _ _ => trivial) fun | none, _, _ | some _, _, _ => trivial

theorem saga_followed (cfg : BackendSettings) (meets : BackendView → BackendEvent → BackendWorld → Bool) :
    sagaDiscipline.Followed (backendService cfg) (slashingSetting meets) := by
  intro request admitted
  cases request with
  | processDue worker => exact follows_respond (follows_processDue worker)
  | detect input => exact follows_respond (follows_detect input)
  | cancelByAdmin intentId actor note => exact follows_respond (follows_cancelByAdmin intentId actor note)
  | cancelByFillProof intentId solver txHash =>
    exact follows_respond (follows_cancelByFillProof intentId solver txHash)
  | _ => cases admitted

end Follows

/-! ### The invariant -/

/-- The clock never runs behind a time that was read; a row that was read is still stored, with its window;
    and while the latest lease of a row runs, the row that its holder read in the window state is stored in
    that state under that lease. -/
structure SagaSafe (v : BackendView) : Prop where
  times : ∀ pid (time : Nat), (⟨.now, time⟩ : BackendExchange) ∈ past pid v.history → time ≤ v.world.clock
  read : ∀ pid now limit rows,
    (⟨.slashes (.findDue now limit), rows⟩ : BackendExchange) ∈ past pid v.history →
    now ≤ v.world.clock ∧ ∀ row ∈ rows, row.due now = true ∧
      ∃ stored, v.world.slashes.get row.intentId = some stored ∧ stored.challengeEndsAt = row.challengeEndsAt
  leased : ∀ pid intentId leaseUntil row, latestClaim intentId v.history = some (pid, leaseUntil) →
    v.world.clock ≤ leaseUntil → row ∈ heldRows intentId (past pid v.history) → row.state = .challengeWindow →
    ∃ stored, v.world.slashes.get intentId = some stored ∧ stored.lockedUntil = some leaseUntil ∧
      stored.state = .challengeWindow

/-- The row of a running lease is stored as its holder read it. -/
def Leases (v : BackendView) : Prop :=
  ∀ pid intentId leaseUntil row, latestClaim intentId v.history = some (pid, leaseUntil) →
    v.world.clock ≤ leaseUntil → row ∈ heldRows intentId (past pid v.history) → row.state = .challengeWindow →
    ∃ stored, v.world.slashes.get intentId = some stored ∧ stored.lockedUntil = some leaseUntil ∧
      stored.state = .challengeWindow

namespace SagaSafe

variable {v : BackendView} {e : BackendEvent} {w : BackendWorld} {choice : BackendChoice}

theorem initial (w : BackendWorld) : SagaSafe ⟨w, []⟩ := by
  constructor <;> simp [latestClaim]

theorem drift {d} (safe : SagaSafe v) (h : drift d v.world = some w) : SagaSafe { v with world := w } := by
  have later := clock_drift h
  have same := slashes_drift h
  constructor
  · exact fun pid time isRead => (safe.times pid time isRead).trans later
  · intro pid now limit rows isRead
    rw [same]
    obtain ⟨isPast, stored⟩ := safe.read pid now limit rows isRead
    exact ⟨isPast.trans later, stored⟩
  · intro pid intentId leaseUntil row claimed running
    rw [same]
    exact safe.leased pid intentId leaseUntil row claimed (later.trans running)

section

variable (performed : perform e.call choice v.world = some (e.reply, w))
include performed

theorem times_step (safe : SagaSafe v) (pid time : Nat)
    (isRead : (⟨.now, time⟩ : BackendExchange) ∈ past pid (v.after e w).history) : time ≤ w.clock := by
  rw [perform_clock performed]
  rcases mem_past_cons.mp isRead with ⟨_, now⟩ | earlier
  · obtain ⟨actor, call, reply⟩ := e
    cases now
    cases performed
    exact le_rfl
  · exact safe.times pid time earlier

theorem read_step (safe : SagaSafe v) (allowed : SagaCall e.actor.request (past e.actor.pid v.history) e.call)
    (pid now limit : Nat) (rows : List PendingSlash)
    (isRead : (⟨.slashes (.findDue now limit), rows⟩ : BackendExchange) ∈ past pid (v.after e w).history) :
    now ≤ w.clock ∧ ∀ row ∈ rows, row.due now = true ∧
      ∃ stored, w.slashes.get row.intentId = some stored ∧ stored.challengeEndsAt = row.challengeEndsAt := by
  rcases mem_past_cons.mp isRead with ⟨_, current⟩ | earlier
  · obtain ⟨actor, call, reply⟩ := e
    cases current
    cases performed
    refine ⟨safe.times actor.pid now allowed, fun row member => ?_⟩
    obtain ⟨present, _, isDue⟩ := mem_findDue member
    exact ⟨isDue, row, present, rfl⟩
  · obtain ⟨isPast, known⟩ := safe.read pid now limit rows earlier
    refine ⟨perform_clock performed ▸ isPast, fun row member => ?_⟩
    obtain ⟨isDue, stored, present, sameEnd⟩ := known row member
    obtain ⟨stored', present', sameTerms, _⟩ := perform_slash_after performed present
    have sameEnd' : stored'.challengeEndsAt = stored.challengeEndsAt := congrArg (·.2.2) sameTerms
    exact ⟨isDue, stored', present', sameEnd'.trans sameEnd⟩

/-- What a step must keep for a lease to stay good: it is no claim, and it does not touch the row. -/
theorem leased_step (safe : SagaSafe v)
    (claims : ∀ id, latestClaim id (v.after e w).history = latestClaim id v.history)
    (held :
      ∀ id pid row, row ∈ heldRows id (past pid (v.after e w).history) → row ∈ heldRows id (past pid v.history))
    (kept : ∀ pid id leaseUntil row stored, latestClaim id v.history = some (pid, leaseUntil) →
      v.world.clock ≤ leaseUntil → row ∈ heldRows id (past pid (v.after e w).history) →
      v.world.slashes.get id = some stored → stored.lockedUntil = some leaseUntil →
      stored.state = .challengeWindow → w.slashes.get id = some stored) : Leases (v.after e w) := by
  intro pid intentId leaseUntil row claimed running isHeld inWindow
  rw [claims] at claimed
  rw [View.after_world, perform_clock performed] at running
  obtain ⟨stored, present, locked, isState⟩ :=
    safe.leased pid intentId leaseUntil row claimed running (held intentId pid row isHeld) inWindow
  exact ⟨stored, kept pid intentId leaseUntil row stored claimed running isHeld present locked isState, locked,
    isState⟩

end

variable {actor : Actor BackendRequest} {id : String}

theorem leased_claim (safe : SagaSafe v) {now until' taken}
    (performed : BackendWorld.perform (.slashes (.claim id now until')) choice v.world = some (taken, w))
    (met : leaseKept v ⟨actor, .slashes (.claim id now until'), taken⟩ w = true) :
    Leases (v.after ⟨actor, .slashes (.claim id now until'), taken⟩ w) := by
  intro pid intentId leaseUntil row claimed running isHeld inWindow
  rw [View.after_world] at running ⊢
  rw [perform_clock performed] at running
  simp only [BackendWorld.perform, Option.some.injEq, Prod.mk.injEq] at performed
  obtain ⟨isTaken, rfl⟩ := performed
  generalize outcome : v.world.slashes.perform v.world.clock (.claim id now until') = result
    at isTaken isHeld ⊢
  obtain ⟨taken', store⟩ := result
  cases isTaken
  simp only [View.after_history, latestClaim] at claimed
  split at claimed
  · -- This claim is the latest: the row has the state in which the claimer read it.
    rename_i isThis
    obtain ⟨rfl, rfl⟩ := isThis
    simp only [Option.some.injEq, Prod.mk.injEq] at claimed
    obtain ⟨own, rfl⟩ := claimed
    rw [past_own own, heldRows, if_pos ⟨rfl, rfl⟩, ← own] at isHeld
    rcases claim_cases outcome with ⟨no, _⟩ | ⟨stored, present, _, rfl⟩
    · cases no
    · have sameState := List.all_eq_true.mp met row isHeld
      rw [present, Option.any_some, beq_iff_eq, inWindow] at sameState
      refine ⟨{ stored with lockedUntil := some until', updatedAt := now }, ?_, rfl, sameState⟩
      rw [get_put, if_pos (intentId_of_get present).symm]
  · rename_i notThis
    have older : row ∈ heldRows intentId (past pid v.history) := by
      by_cases own : actor.pid = pid
      · rw [past_own own, heldRows, if_neg notThis] at isHeld
        exact isHeld
      · rwa [past_other own] at isHeld
    obtain ⟨stored, present, locked, isState⟩ :=
      safe.leased pid intentId leaseUntil row claimed running older inWindow
    rcases claim_cases outcome with ⟨_, rfl⟩ | ⟨other, found, rfl, rfl⟩
    · exact ⟨stored, present, locked, isState⟩
    · refine ⟨stored, ?_, locked, isState⟩
      rw [get_put, if_neg]
      · exact present
      · intro same
        have isId : other.intentId = id := intentId_of_get found
        exact notThis ⟨rfl, isId.symm.trans same.symm⟩

section

variable {«from» : List PendingSlashState} {result : Option PendingSlash} {patch : PendingSlashPatch}
  {now : Option Nat} (safe : SagaSafe v)
  (met : leaseKept v ⟨actor, .slashes (.transition id «from» patch now), result⟩ w = true)
  (allowed : SagaCall actor.request (past actor.pid v.history) (.slashes (.transition id «from» patch now)))
include safe met allowed

theorem transition_refused {pid leaseUntil : Nat}
    (claimed : latestClaim id v.history = some (pid, leaseUntil)) (running : v.world.clock ≤ leaseUntil)
    (other : actor.pid ≠ pid) {stored : PendingSlash} (locked : stored.lockedUntil = some leaseUntil)
    (isState : stored.state = .challengeWindow) (isFrom : stored.state ∈ «from»)
    (free : ∀ time, now = some time → stored.unlocked time = true) : False := by
  rcases allowed with isPass | rfl | ⟨time, rfl, wasRead⟩
  · -- a worker needs the lease itself
    have holds : holdsLease v actor.pid id = true := by simpa [leaseKept, isPass] using met
    rw [holdsLease, claimed, Option.any_some, Bool.and_eq_true, beq_iff_eq] at holds
    exact other holds.1.symm
  · -- opening the window needs a row that is not in it
    rw [isState] at isFrom
    simp at isFrom
  · -- everybody else respects the lease
    have expired := free time rfl
    rw [PendingSlash.unlocked, locked, Option.all_some, decide_eq_true_eq] at expired
    have isPast := safe.times actor.pid time wasRead
    omega

theorem leased_transition
    (performed :
      BackendWorld.perform (.slashes (.transition id «from» patch now)) choice v.world = some (result, w)) :
    Leases (v.after ⟨actor, .slashes (.transition id «from» patch now), result⟩ w) := by
  apply safe.leased_step performed
  · exact fun _ => rfl
  · intro intentId pid row isHeld
    by_cases own : actor.pid = pid
    · rw [past_own own, heldRows] at isHeld
      split at isHeld
      · cases isHeld
      · exact isHeld
    · rwa [past_other own] at isHeld
  · intro pid intentId leaseUntil row stored claimed running isHeld present locked isState
    obtain ⟨_, rfl⟩ := performed
    generalize outcome : v.world.slashes.perform v.world.clock (.transition id «from» patch now) = reply
    obtain ⟨result', store⟩ := reply
    rcases transition_cases outcome with ⟨_, rfl⟩ | ⟨found, isFound, isFrom, free, _, rfl⟩
    · exact present
    · dsimp only
      rw [get_put, if_neg]
      · exact present
      · intro same
        have ofRow : found.intentId = id := intentId_of_get isFound
        have isId : intentId = id := same.trans ofRow
        subst isId
        cases present.symm.trans isFound
        by_cases own : actor.pid = pid
        · rw [past_own own, heldRows, if_pos rfl] at isHeld
          cases isHeld
        · exact safe.transition_refused met allowed claimed running own locked isState isFrom free

end

/-- Every call that meets the condition keeps the invariant. -/
theorem step (safe : SagaSafe v) (met : leaseKept v e w = true)
    (allowed : SagaCall e.actor.request (past e.actor.pid v.history) e.call)
    (performed : BackendWorld.perform e.call choice v.world = some (e.reply, w)) : SagaSafe (v.after e w) where
  times := safe.times_step performed
  read := safe.read_step performed allowed
  leased := by
    obtain ⟨actor, call, reply⟩ := e
    -- A call of another store, or one that only reads.
    have frame (same : w.slashes = v.world.slashes)
        (claims : ∀ id, latestClaim id (⟨actor, call, reply⟩ :: v.history) = latestClaim id v.history)
        (held : ∀ id earlier, heldRows id (⟨call, reply⟩ :: earlier) = heldRows id earlier) :
        Leases (v.after ⟨actor, call, reply⟩ w) := by
      apply safe.leased_step performed claims
      · intro id pid row isHeld
        by_cases own : actor.pid = pid
        · rwa [past_own own, held] at isHeld
        · rwa [past_other own] at isHeld
      · intro pid id leaseUntil row stored _ _ _ present _ _
        exact same ▸ present
    cases call with
    | slashes c =>
      cases c with
      | claim id now leaseUntil => exact safe.leased_claim performed met
      | transition id «from» patch now => exact safe.leased_transition met allowed performed
      | findByIntent | findDue =>
        cases performed
        exact frame rfl (fun _ => rfl) fun _ _ => rfl
      | createIfAbsent input =>
        apply safe.leased_step performed (fun _ => rfl)
        · intro id pid row isHeld
          by_cases own : actor.pid = pid
          · rwa [past_own own] at isHeld
          · rwa [past_other own] at isHeld
        · intro pid id leaseUntil row stored _ _ _ present _ _
          obtain ⟨_, rfl⟩ := performed
          generalize outcome : v.world.slashes.perform v.world.clock (.createIfAbsent input) = result
          obtain ⟨reply', store⟩ := result
          rcases createIfAbsent_cases outcome with rfl | ⟨absent, isId, rfl⟩
          · exact present
          · dsimp only
            rw [get_put, if_neg]
            · exact present
            · rintro rfl
              rw [isId, absent] at present
              cases present
    | _ =>
      rcases perform_slashes performed with same | ⟨c, isCall⟩
      · exact frame same (fun _ => rfl) fun _ _ => rfl
      · cases isCall

end SagaSafe

/-! ### Whole runs -/

/-- The intent whose slash a step submits. -/
def submittedSlash (t : BackendTransition) : Option String :=
  match t.event with
  | some ⟨_, .external (.slashSolver _ intentId _), _⟩ => some intentId
  | _ => none

/-- The stored slash is in the window state and its window has ended. -/
def windowEnded (w : BackendWorld) (intentId : String) : Bool :=
  (w.slashes.get intentId).any fun row => row.state == .challengeWindow && row.challengeEndsAt ≤ w.clock

/-- A program that holds the lease of a row which it read in the window state can submit it. -/
theorem SagaSafe.windowEnded {v pid intentId} (safe : SagaSafe v)
    (held : row ∈ heldRows intentId (past pid v.history))
    (inWindow : row.state = .challengeWindow) (holds : holdsLease v pid intentId = true) :
    windowEnded v.world intentId = true := by
  rw [holdsLease, Option.any_eq_true] at holds
  obtain ⟨⟨holder, leaseUntil⟩, claimed, isOwn⟩ := holds
  rw [Bool.and_eq_true, beq_iff_eq, decide_eq_true_eq] at isOwn
  obtain ⟨rfl, running⟩ := isOwn
  obtain ⟨stored, present, _, isState⟩ := safe.leased _ intentId leaseUntil row claimed running held inWindow
  obtain ⟨rfl, now, limit, rows, wasRead, member⟩ := heldRows_read held
  obtain ⟨isPast, known⟩ := safe.read _ now limit rows wasRead
  obtain ⟨isDue, stored', present', sameEnd⟩ := known row member
  cases present.symm.trans present'
  have ended : row.challengeEndsAt ≤ now := by
    simp [PendingSlash.due, inWindow] at isDue
    exact isDue.1
  rw [VortexBackend.windowEnded, present, Option.any_some, Bool.and_eq_true, beq_iff_eq, decide_eq_true_eq]
  exact ⟨isState, by omega⟩

/-- In every run of the pipeline whose calls all meet the condition, a slash is submitted only while the stored
    row is in the window state and its window has ended. -/
theorem slash_submitted_in_window {cfg : BackendSettings} {ts : List BackendTransition} {c : BackendConfig}
    (run : Run (backendService cfg) (slashingSetting leaseKept) ts c) :
    ∀ t ∈ ts, ∀ intentId, submittedSlash t = some intentId → windowEnded t.before.world intentId = true := by
  have safe := Run.invariant (I := SagaSafe) (saga_followed cfg leaseKept) (fun w _ => .initial w)
    (fun v d w safe drifted => safe.drift drifted)
    (by
      rintro v e v' safe ⟨⟨⟨choice, w, performed, rfl⟩, met⟩, allowed, _⟩
      exact safe.step met allowed performed) run
  intro t member intentId submitted
  obtain ⟨before, _, events⟩ := safe.2 t member
  unfold submittedSlash at submitted
  split at submitted
  · rename_i actor solver id reason reply isEvent
    cases submitted
    obtain ⟨⟨_, met⟩, ⟨row, held, inWindow⟩, _⟩ := events _ isEvent
    exact before.windowEnded held inWindow met
  · cases submitted

/-- A slash whose challenge window ended at 600 s, and the time is 700 s. -/
def dueWorld : BackendWorld where
  clock := 700000
  slashes := empty.put
    { intentId := "I", solverAddress := "S", reason := "late", state := .challengeWindow, fillDeadline := 0
      detectedAt := 0, challengeEndsAt := 600000, attempts := 0, nextAttemptAt := 0 }

/-- One pass from the lease on: the fill is not found, the solver is registered, the slash is submitted. -/
def submitMoves (pid : Nat) : List BackendMove :=
  (List.replicate 4 (.act pid {}) : List BackendMove) ++
    ([.act pid { solver := some ⟨true, none⟩ }, .act pid {}] : List BackendMove)

theorem single_pass_submits_in_window :
    ∃ ts c, Run (backendService {}) (slashingSetting leaseKept) ts c ∧
      ∃ t ∈ ts, submittedSlash t = some "I" ∧ windowEnded t.before.world "I" = true := by
  obtain ⟨ts, c, run, submits⟩ := Run.exists_of_trace (backendService {}) (slashingSetting leaseKept) dueWorld
    (List.flatten [.arrive (.processDue 0) :: List.replicate 5 (.act 0 {}), submitMoves 0])
    (fun ts _ => ts.any fun t => submittedSlash t == some "I") trivial
    (by simp [submitMoves, slashingSetting]) (by decide)
  obtain ⟨t, member, submitted⟩ := List.any_eq_true.mp submits
  exact ⟨ts, c, run, t, member, beq_iff_eq.mp submitted,
    slash_submitted_in_window run t member "I" (beq_iff_eq.mp submitted)⟩

/-- Without the condition: an admin cancels the slash after a worker listed it and before the worker takes the
    lease, which looks at the lease only; the worker then submits the cancelled slash. -/
theorem cancelled_slash_submitted :
    ∃ ts c, Run (backendService {}) (slashingSetting fun _ _ _ => true) ts c ∧
      ∃ t ∈ ts, submittedSlash t = some "I" ∧ windowEnded t.before.world "I" = false ∧
        (t.before.world.slashes.get "I").map (·.state) = some .cancelled := by
  obtain ⟨ts, c, run, submits⟩ := Run.exists_of_trace (backendService {}) (slashingSetting fun _ _ _ => true)
    dueWorld
    (List.flatten [[.arrive (.processDue 0), .arrive (.cancelByAdmin "I" "admin" "bad evidence")],
      List.replicate 5 (.act 0 {}), List.replicate 8 (.act 1 {}), submitMoves 0])
    (fun ts _ => ts.any fun t => submittedSlash t == some "I" && (!windowEnded t.before.world "I" &&
      (t.before.world.slashes.get "I").map (·.state) == some .cancelled)) trivial
    (by simp [submitMoves, slashingSetting]) (by decide)
  obtain ⟨t, member, h⟩ := List.any_eq_true.mp submits
  simp only [Bool.and_eq_true, beq_iff_eq, Bool.not_eq_true'] at h
  exact ⟨ts, c, run, t, member, h⟩

end VortexBackend
