/-
Module: VortexBackend.Intents.SlashingPipeline
Purpose: The slashing saga. A worker acts on the row it read before it took the lease.
Trusted boundary: metrics and alerts are left out
Main exports: SlashingPipeline.processDue
-/
import VortexBackend.Intents.Service
import VortexBackend.Solvers.Service

namespace VortexBackend.SlashingPipeline

open Backend Async

variable (cfg : BackendSettings)

def PROCESS_BATCH_SIZE : Nat := 25
def LEASE_SECONDS : Nat := 120
def BASE_BACKOFF_MS : Nat := 5000
def MAX_BACKOFF_MS : Nat := 600000
def PAUSED_RECHECK_MS : Nat := 60000
def SUBMIT_NOT_FOUND_GRACE_SECONDS : Nat := 120

/-- Why a slash was cancelled. -/
inductive SlashCancelReason where
  | fillLanded
  | admin
  | solverNotFound
  | submitFailed
deriving Repr, DecidableEq

def SlashCancelReason.name : SlashCancelReason → String
  | .fillLanded => "fill_landed"
  | .admin => "admin"
  | .solverNotFound => "solver_not_found"
  | .submitFailed => "submit_failed"

/-- Cancellable before broadcast only. -/
def CANCELLABLE : List PendingSlashState := [.detected, .challengeWindow]

structure DetectMissedFillInput where
  intentId : String
  solverAddress : String
  reason : String
  fillDeadline : Nat
  detectedAt : Nat
deriving Repr, DecidableEq

/-- The details of a cancellation. -/
structure CancelExtra where
  fillTxHash : Option String := none
  note : Option String := none
  lastError : Option String := none
deriving Repr, DecidableEq

variable (slash : PendingSlash)

def latestAcceptable : Nat := slash.fillDeadline + cfg.clockSkewToleranceSeconds

def backoff (attempts now : Nat) : Nat := now + min (BASE_BACKOFF_MS * 2 ^ (attempts - 1)) MAX_BACKOFF_MS

variable (reason : SlashCancelReason)

/-- The states that a cancellation may leave. -/
def cancellable : List PendingSlashState :=
  if reason = .submitFailed then [.challengeWindow, .submitted] else CANCELLABLE

/-- The row of a cancelled slash. -/
def cancelPatch (actor : String) (extra : CancelExtra) (clock : Nat) : PendingSlashPatch :=
  let name := reason.name
  { state := some .cancelled
    cancelledAt := some (some clock)
    cancelReason := some (some (match extra.note.filter (!·.isEmpty) with
      | some note => s!"{name}: {note}"
      | none => name))
    cancelledBy := some (some actor)
    fillTxHash := some extra.fillTxHash
    lastError := some extra.lastError
    attempts := some slash.attempts }

/-- The state that a compensated intent goes to. -/
def compensation : IntentsService.Compensation :=
  if reason = .fillLanded then .filled else .expired

/-- Roll the intent back; the outcome of the saga is audited even when there is nothing to roll back. -/
def compensate (actor : String) (extra : CancelExtra) : Backend Unit := do
  let name := reason.name
  let patch : IntentPatch := if reason = .fillLanded then { txHash := some extra.fillTxHash } else {}
  let compensated ← fallible (IntentsService.compensateSlash cfg slash.intentId (compensation reason)
    { actor, reason := some s!"slash cancelled: {name}" } patch none)
  match compensated with
  | some _ => pure ()
  | none =>
    IntentsService.appendAuditEntry slash.intentId (compensation reason).state actor
      s!"slash cancelled: {name}"

/-- The compensating transaction, run by whoever wins the move to `cancelled`. `now` makes the move respect
    a lease. -/
def cancel (actor : String) (extra : CancelExtra) (now : Option Nat) : Backend (Option PendingSlash) := do
  let clock ← nowMs
  let cancelled : Option PendingSlash ← slashes
    (.transition slash.intentId (cancellable reason) (cancelPatch slash reason actor extra clock) now)
  match cancelled with
  | none => pure none
  | some row =>
    SolversService.rollbackPenalty slash.intentId slash.solverAddress
    compensate cfg slash reason actor extra
    attempt (external (.broadcast .slashCancelled slash.intentId))
    pure (some row)

def openChallengeWindow : Backend (Option PendingSlash) := do
  let opened : Option PendingSlash ← slashes
    (.transition slash.intentId [.detected] { state := some .challengeWindow } none)
  match opened with
  | none => pure none
  | some row =>
    IntentsService.appendAuditEntry slash.intentId .slashed "system" "slash pending: challenge window open"
    pure (some row)

/-- Record a missed fill and open its challenge window. -/
def detect (input : DetectMissedFillInput) : Backend PendingSlash := do
  let detectedAt := input.detectedAt * 1000
  let (slash, created) : PendingSlash × Bool ← slashes
    (.createIfAbsent
      { intentId := input.intentId, solverAddress := input.solverAddress, reason := input.reason
        fillDeadline := input.fillDeadline, detectedAt
        challengeEndsAt := detectedAt + cfg.challengeWindowSeconds * 1000 })
  if !created then pure slash
  else
    let opened ← openChallengeWindow slash
    pure (opened.getD slash)

/-- Count a failed attempt, and cancel when there were too many. -/
def retryOrGiveUp (error : String) (now : Nat) : Backend Unit := do
  let attempts := slash.attempts + 1
  if cfg.maxSubmitAttempts ≤ attempts then
    let _ ← cancel cfg { slash with attempts } .submitFailed "system" { lastError := some error } none
    pure ()
  else
    let _ ← slashes (.transition slash.intentId [slash.state]
      { attempts := some attempts, nextAttemptAt := some (backoff attempts now)
        lastError := some (some error) } none)
    pure ()

/-- The row of a submitted slash. -/
def submittedPatch (result : SlashResult) (now : Nat) : PendingSlashPatch where
  state := some .submitted
  txHash := some result.txHash
  simulated := some (!result.submitted)
  submittedAt := some (some now)
  nextAttemptAt := some now
  lastError := some none

/-- What follows a submission that did not throw. -/
def recordSubmission (result : SlashResult) (now : Nat) : Backend Unit := do
  if result.failed then retryOrGiveUp cfg slash result.detail now
  else
    let submitted : Option PendingSlash ← slashes
      (.transition slash.intentId [.challengeWindow] (submittedPatch result now) none)
    match submitted with
    | none => pure ()
    | some _ => IntentsService.appendAuditEntry slash.intentId .slashed "system" "slash submitted"

/-- Submit; a pause defers the slash without consuming an attempt. -/
def submit (now : Nat) : Backend Unit := do
  let outcome : Except BackendError SlashResult ← external
    (.slashSolver slash.solverAddress slash.intentId slash.reason)
  match outcome with
  | .ok result => recordSubmission cfg slash result now
  | .error (.killSwitchActive active) =>
    let message := (BackendError.killSwitchActive active).message
    let _ ← slashes (.transition slash.intentId [.challengeWindow]
      { nextAttemptAt := some (now + PAUSED_RECHECK_MS)
        lastError := some (some s!"paused by kill-switch: {message}") } none)
    pure ()
  | .error e => throw e

/-- Re-verify that no fill landed in time, then submit. -/
def verifyAndSubmit (now : Nat) : Backend Unit := do
  let landed : Except BackendError (Option String) ← external
    (.findLandedFill slash.intentId slash.fillDeadline (latestAcceptable cfg slash) (now / 1000))
  match landed with
  | .error e =>
    let message := e.message
    retryOrGiveUp cfg slash s!"fill re-verification failed: {message}" now
  | .ok (some txHash) =>
    let _ ← cancel cfg slash .fillLanded "system" { fillTxHash := some txHash } none
    pure ()
  | .ok none =>
    let solver ← attempt (external (.getSolver slash.solverAddress))
    match solver with
    | none =>
      let _ ← cancel cfg slash .solverNotFound "system" {} none
      pure ()
    | some _ => submit cfg slash now

/-- Put a slash whose transaction failed or vanished back into the window state. -/
def reopen (txHash what : String) (now : Nat) : Backend Unit := do
  let reopened : Option PendingSlash ← slashes
    (.transition slash.intentId [.submitted] { state := some .challengeWindow, txHash := some none } none)
  match reopened with
  | none => pure ()
  | some row => retryOrGiveUp cfg row s!"slash tx {txHash} {what}" now

/-- A transition of a submitted slash whose result nobody reads. -/
def touchSubmitted (patch : PendingSlashPatch) : Backend Unit := do
  let _ ← slashes (.transition slash.intentId [.submitted] patch none)
  pure ()

def confirm (now : Nat) : Backend Unit :=
  match slash.txHash.filter (!·.isEmpty) with
  | none => touchSubmitted slash {}
  | some txHash => do
    let status : Except BackendError TxCheckStatus ← external (.checkTx txHash)
    match status with
    | .error e =>
      let message := e.message
      touchSubmitted slash
        { nextAttemptAt := some (backoff slash.attempts now)
          lastError := some (some s!"confirmation lookup failed: {message}") }
    | .ok .success =>
      let confirmed : Option PendingSlash ← slashes
        (.transition slash.intentId [.submitted]
          { state := some .confirmed, confirmedAt := some (some now) } none)
      match confirmed with
      | none => pure ()
      | some _ => IntentsService.appendAuditEntry slash.intentId .slashed "system" "slash confirmed on-chain"
    | .ok .failed => reopen cfg slash txHash "failed on-chain" now
    | .ok .notFound =>
      -- A slash without a submission time counts as infinitely old.
      if slash.submittedAt.all fun at' => SUBMIT_NOT_FOUND_GRACE_SECONDS * 1000 < now - at' then
        reopen cfg slash txHash "not found" now
      else touchSubmitted slash { nextAttemptAt := some (now + BASE_BACKOFF_MS) }

/-- One saga step, on the row that was read. -/
def step (now : Nat) : Backend Unit :=
  match slash.state with
  | .detected => do
    let _ ← openChallengeWindow slash
    pure ()
  | .challengeWindow => verifyAndSubmit cfg slash now
  | .submitted => confirm cfg slash now
  | .confirmed | .cancelled => pure ()

/-- One row of a pass: take the lease, then act on the row as it was read. -/
def processRow (now : Nat) (slash : PendingSlash) : Backend Unit := do
  let claimed : Bool ← slashes (.claim slash.intentId now (now + LEASE_SECONDS * 1000))
  if !claimed then pure ()
  else
    tryCatch (step cfg slash now) fun e =>
      let message := e.message
      retryOrGiveUp cfg slash s!"unexpected error: {message}" now

/-- One pass over every slash that needs action now. -/
def processDue (worker : Nat) : Backend Unit := do
  let now ← nowMs
  let begun : Bool ← call (.beginLoop (.slashing worker))
  if !begun then pure ()
  else
    Async.tryFinally
      (do
        let due : List PendingSlash ← slashes (.findDue now PROCESS_BATCH_SIZE)
        onEach (processRow cfg now) due)
      (call (.endLoop (.slashing worker)))

def cancelByAdmin (intentId actor note : String) : Backend PendingSlash := do
  let stored : Option PendingSlash ← slashes (.findByIntent intentId)
  match stored with
  | none => throw (.plain 404 s!"No slash recorded for intent {intentId}")
  | some slash =>
    let now ← nowMs
    let cancelled ← cancel cfg slash .admin actor { note := some note } (some now)
    match cancelled with
    | some row => pure row
    | none =>
      let state := slash.state.name
      let progress := if slash.lockedUntil.isSome then ", submission in progress — retry shortly" else ""
      throw (.plain 409 s!"Slash for intent {intentId} cannot be cancelled (state={state}{progress})")

def cancelByFillProof (intentId solver txHash : String) : Backend PendingSlash := do
  let stored : Option PendingSlash ← slashes (.findByIntent intentId)
  match stored with
  | none => throw (.plain 404 s!"No slash recorded for intent {intentId}")
  | some slash =>
    throwWhen (slash.solverAddress != solver)
      (.plain 403 "Only the slashed solver may submit a fill proof")
    let state := slash.state.name
    throwWhen (slash.state ∉ CANCELLABLE)
      (.plain 409 s!"Slash for intent {intentId} is {state}; the challenge window is over")
    let proof ← attempt (external (.verifyFillProof txHash intentId (latestAcceptable cfg slash)))
    match proof with
    | some reason => throw (.plain 422 s!"Fill proof rejected: {reason}")
    | none =>
      let now ← nowMs
      let cancelled ← cancel cfg slash .fillLanded solver { fillTxHash := some txHash } (some now)
      match cancelled with
      | some row => pure row
      | none => throw (.plain 409 s!"Slash for intent {intentId} changed state while verifying; retry")

end VortexBackend.SlashingPipeline
