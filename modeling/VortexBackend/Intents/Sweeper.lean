/-
Module: VortexBackend.Intents.Sweeper
Purpose: The pass and the jobs that expire and slash. A paused fill path extends the deadline instead.
Trusted boundary: leader election, timers and metrics are left out
Main exports: IntentsSweeper.sweep
-/
import VortexBackend.PartialFills.Service

namespace VortexBackend.IntentsSweeper

open Backend Async

variable (cfg : BackendSettings)

structure SweepResult where
  expiredCount : Nat := 0
  slashedCount : Nat := 0
  extendedDeadlines : Nat := 0
deriving Repr, DecidableEq

inductive SettleOutcome where
  | slashed
  | extended
  | skipped
deriving Repr, DecidableEq

structure DeadlineJobData where
  intentId : String
  deadline : Nat
deriving Repr, DecidableEq

variable (intent : Intent)

/-- The kill-switch scope of an operation on an intent. -/
def switchTarget (operation : KillSwitchOperation) : SwitchTarget where
  chain := some intent.srcChain.name
  token := some intent.srcToken.address
  operation

/-- The deadline to grant while fills are paused for this intent. -/
def pausedFillDeadline (k : KillSwitch) (intent : Intent) (now : Nat) : Option Nat :=
  if (k.evaluateTarget (switchTarget intent .fill)).paused then some (now + cfg.fillWindow intent.srcChain)
  else none

/-- Settle the reservations of a partial-fill intent that missed their window. -/
def slashTranches (now : Nat) : Backend Unit :=
  if intent.partialFills then do
    let _ ← PartialFillService.slashExpiredReservations cfg now (some intent.intentId)
    pure ()
  else pure ()

/-- Slash reservations that missed their window, then expire the intent. -/
def expireOpen (now : Nat) : Backend Bool := do
  slashTranches cfg intent now
  let expired ← IntentsService.expireIfOpen intent.intentId
    { actor := some "system", reason := some "deadline passed" }
  match expired with
  | none => pure false
  | some _ =>
    attempt (external (.broadcast .expired intent.intentId))
    pure true

def SLASH_REASON : String := "accepted intent not filled before deadline"

def slashMissedFill (intentId : String) (solver : Option String) (now : Nat) : Backend Bool := do
  let slashed ← IntentsService.slashIfAccepted cfg intentId now SLASH_REASON
    { actor := some "system", reason := some SLASH_REASON }
  match slashed with
  | none => pure false
  | some _ =>
    attempt (external (.broadcast .slashed intentId))
    match solver with
    | none => pure true
    | some address =>
      if address.isEmpty then pure true
      else
        SolversService.recordFailedFill address intentId
        attempt (external (.recordSlash address intentId SLASH_REASON now))
        let _ ← attempt (external (.slashSolver address intentId SLASH_REASON))
        pure true

/-- Extend or slash an accepted intent that the caller read with a passed deadline. -/
def settleAccepted (now : Nat) : Backend SettleOutcome := do
  let k ← killSwitch
  match pausedFillDeadline cfg k intent now with
  | some deadline =>
    let extended ← IntentsService.extendDeadlineIfAccepted intent.intentId deadline
    pure (if extended.isSome then .extended else .skipped)
  | none =>
    let slashed ← slashMissedFill cfg intent.intentId intent.solver now
    pure (if slashed then .slashed else .skipped)

/-- One open intent of a pass. -/
def sweepOpen (now expired : Nat) (intent : Intent) : Backend Nat :=
  if intent.deadline ≤ now then do
    let done ← expireOpen cfg intent now
    pure (if done then expired + 1 else expired)
  else pure expired

/-- One accepted intent of a pass. -/
def sweepAccepted (now : Nat) (counts : Nat × Nat) (intent : Intent) : Backend (Nat × Nat) := do
  let outcome ← settleAccepted cfg intent now
  pure
    (match outcome with
      | .slashed => (counts.1 + 1, counts.2)
      | .extended => (counts.1, counts.2 + 1)
      | .skipped => counts)

def sweep : Backend SweepResult := do
  let now ← nowSeconds
  let tranches ← tryCatch (PartialFillService.slashExpiredReservations cfg now none) fun _ => pure 0
  let openIntents ← IntentsService.getByState .open
  let expiredCount ← onEachWith (sweepOpen cfg now) 0 openIntents
  let accepted ← IntentsService.getByState .accepted
  let (slashedCount, extendedDeadlines) ← onEachWith (sweepAccepted cfg now) (tranches, 0)
    (accepted.filter (·.deadline ≤ now))
  pure { expiredCount, slashedCount, extendedDeadlines }

/-- The `expire-intent` job: does nothing unless the intent still has the deadline it was armed for. -/
def handleExpireJob (data : DeadlineJobData) : Backend Unit := do
  let stored ← IntentsService.get data.intentId
  match stored with
  | none => pure ()
  | some intent =>
    if intent.state ≠ .open ∨ intent.deadline ≠ data.deadline then pure ()
    else
      let now ← nowSeconds
      if now < intent.deadline then pure ()
      else
        let _ ← expireOpen cfg intent now
        pure ()

/-- The `fill-window-expired` job. -/
def handleFillWindowJob (data : DeadlineJobData) : Backend Unit := do
  let stored ← IntentsService.get data.intentId
  match stored with
  | none => pure ()
  | some intent =>
    if intent.state ≠ .accepted ∨ intent.deadline ≠ data.deadline then pure ()
    else
      let now ← nowSeconds
      if now < intent.deadline then pure ()
      else
        let _ ← settleAccepted cfg intent now
        pure ()

end VortexBackend.IntentsSweeper
