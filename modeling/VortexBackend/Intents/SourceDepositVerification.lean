/-
Module: VortexBackend.Intents.SourceDepositVerification
Purpose: The deposit verification worker. Its checks are independent, so that each is a `verifyOne`.
Trusted boundary: the verifiers of the source chains, metrics
Main exports: SourceDepositVerification.verifyOne
-/
import VortexBackend.Intents.Service

namespace VortexBackend.SourceDepositVerification

open Backend

variable (cfg : BackendSettings)

def SRC_REVERIFY_INTERVAL_MS : Nat := 60000
def SRC_RETRY_BASE_MS : Nat := 15000
def SRC_RETRY_MAX_MS : Nat := 600000
def SRC_RATE_LIMIT_MULTIPLIER : Nat := 4

variable (intent : Intent)

/-- Does some verifier support the chain of the intent? -/
def verifierFor : Bool := cfg.verifiedChains.contains intent.srcChain

/-- Unverified intents, and verified ones whose verdict is old. -/
def needsCheck (now : Nat) : Bool :=
  intent.srcVerified != some true ||
    intent.srcVerification.any fun v =>
      v.status == .verified && v.checkedAt * 1000 + SRC_REVERIFY_INTERVAL_MS ≤ now

/-- Schedule the next attempt. -/
def backoff (intentId : String) (now multiplier : Nat) : Backend Unit := do
  let entry : Option ScheduleEntry ← schedule (.get intentId)
  let attempts := (entry.map (·.attempts)).getD 0 + 1
  let delay := min (SRC_RETRY_BASE_MS * 2 ^ (attempts - 1) * multiplier) SRC_RETRY_MAX_MS
  schedule (.set intentId ⟨attempts, now + delay⟩)

variable (check : DepositCheck)

/-- The verdict of a check, as it is stored. -/
def verdict (now : Nat) : IntentPatch where
  srcVerified := some (some (check.status == .verified))
  srcVerification := some (some
    { status := check.status, checkedAt := now / 1000, blockNumber := check.blockNumber
      blockHash := check.blockHash.filter (!·.isEmpty)
      receivedAmount := check.receivedAmount.filter (!·.isEmpty)
      detail := check.detail.filter (!·.isEmpty) })

/-- The mutation that writes a verdict while the intent is open, at the version that was read. The service's
    `update` reports a conflict as a missed write. -/
def writeVerdict (now : Nat) (current : Intent) : Option (Backend MutationResult) :=
  if current.state = .open then
    some do
      let written ← IntentsService.update current.intentId (verdict check now) current.version
      pure (match written with
        | some intent => .written intent
        | none => .missed)
  else none

/-- When to look at the intent again. -/
def reschedule (intentId : String) (check : DepositCheck) (now : Nat) : Backend Unit :=
  if check.status = .verified then schedule (.set intentId ⟨0, now + SRC_REVERIFY_INTERVAL_MS⟩)
  else backoff intentId now 1

/-- Store the verdict of a check and report a change. -/
def persist (now : Nat) : Backend Unit := do
  reschedule intent.intentId check now
  let result ← IntentsService.mutateWithRetry intent.intentId (writeVerdict check now)
    IntentsService.MAX_VERSION_RETRIES .missed
  match result.toOption with
  | none => pure ()
  | some _ =>
    if check.status = .verified ∧ intent.srcVerified ≠ some true then
      Async.attempt (external (.broadcast .srcVerified intent.intentId))
    else if check.status ≠ .verified ∧ intent.srcVerified = some true then
      Async.attempt (external (.broadcast .srcUnverified intent.intentId))
    else pure ()

/-- Verify one intent now and persist the outcome. -/
def verifyOne (now : Nat) : Backend (Option DepositCheck) :=
  if !verifierFor cfg intent then pure none
  else do
    let outcome : Except BackendError DepositCheck ← external (.verifyDeposit intent)
    match outcome with
    | .error (.other _ true) =>
      backoff intent.intentId now SRC_RATE_LIMIT_MULTIPLIER
      pure none
    | .error _ =>
      backoff intent.intentId now 1
      pure none
    | .ok check =>
      persist intent check now
      pure (some check)

/-- The intents of a pass whose time has come. -/
def collectDue (now : Nat) (due : List Intent) (intent : Intent) : Backend (List Intent) := do
  let entry : Option ScheduleEntry ← schedule (.get intent.intentId)
  pure (if (entry.map (·.nextAt)).getD 0 ≤ now then due ++ [intent] else due)

/-- One due intent of a pass. -/
def verifyDue (now : Nat) (intent : Intent) : Backend Unit := do
  let _ ← verifyOne cfg intent now
  pure ()

/-- Verify every due open intent once; overlapping passes are skipped. -/
def tick : Backend Nat := do
  let now ← nowMs
  if !cfg.depositVerificationEnabled then pure 0
  else
    let begun : Bool ← call (.beginLoop .verification)
    if !begun then pure 0
    else
      Async.tryFinally
        (do
          let openIntents ← IntentsService.getByState .open
          schedule (.retain (openIntents.map (·.intentId)))
          let due ← Async.onEachWith (collectDue now) []
            (openIntents.filter fun i => verifierFor cfg i && needsCheck i now)
          Async.onEach (verifyDue cfg now) due
          pure due.length)
        (call (.endLoop .verification))

end VortexBackend.SourceDepositVerification
