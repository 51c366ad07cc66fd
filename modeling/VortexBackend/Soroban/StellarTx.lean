/-
Module: VortexBackend.Soroban.StellarTx
Purpose: The submit path of a contract call, with the hook before the broadcast.
Trusted boundary: the sequence lock of a process is uncontended, because its relay sends one row at a time
Main exports: Relay.invokeContract
-/
import VortexBackend.Soroban.Interface

namespace VortexBackend

open Async

/-- An asynchronous function of the relay. -/
abbrev Relay (α : Type) := Async RelayReply RelayError α

namespace Relay

/-- The text of a method in messages. -/
def methodName : OutboxOperation → String
  | .createIntent => "create_intent"
  | .acceptIntent => "accept_intent"
  | .fillIntent => "fill_intent"
  | .cancelIntent => "cancel_intent"

/-! ### Typed calls -/

def now : Relay Nat := call RelayCall.now

def killSwitch : Relay KillSwitch := call RelayCall.killSwitch

def dryRun : Relay Bool := call RelayCall.dryRun

def nextSequence (worker : Nat) : Relay (Except RelayError Nat) :=
  call (RelayCall.nextSequence worker)

def resetSequence (worker : Nat) : Relay Unit := call (RelayCall.resetSequence worker)

def build (row : Option Nat) (account : Nat) : Relay String := call (RelayCall.build row account)

def simulate (hash : String) : Relay (Except RelayError Simulation) :=
  call (RelayCall.simulate hash)

def prepare (hash : String) : Relay (Except RelayError Unit) := call (RelayCall.prepare hash)

def sign (hash : String) : Relay (Except RelayError Unit) := call (RelayCall.sign hash)

def submit (hash : String) : Relay (Except RelayError SendResponse) :=
  call (RelayCall.submit hash)

def getTransaction (hash : String) : Relay (Except RelayError TxStatus) :=
  call (RelayCall.getTransaction hash)

def waiting (hash : String) (deadline : Nat) : Relay Bool :=
  call (RelayCall.waiting hash deadline)

def sleepUntil (time : Nat) : Relay Unit := call (RelayCall.sleepUntil time)

/-- `await sleep(ms)` -/
def sleep (ms : Nat) : Relay Unit := do
  let start ← now
  sleepUntil (start + ms)

/-! ### Confirmation -/

def DEFAULT_POLL_INTERVAL_MS : Nat := 3000

def DEFAULT_TIMEOUT_MS : Nat := 120000

/-- Single lookup; an RPC error propagates. -/
def check (hash : String) : Relay TxStatus := attempt (getTransaction hash)

/-- Outcome of the blocking poll, with the detail of a failure. -/
inductive ConfirmationResult where
  | success
  | failed (error : String)
  | timeout
deriving Repr, DecidableEq

/-- The polling loop. Every round that does not end it sleeps for a whole interval, so the rounds that
    fit before the deadline bound the recursion. -/
def pollLoop (hash : String) (deadline : Nat) : Nat → Relay ConfirmationResult
  | 0 => pure .timeout
  | rounds + 1 => do
    if ← waiting hash deadline then
      match ← getTransaction hash with
      | .ok .success => pure .success
      | .ok (.failed code) => pure (.failed code)
      | .ok .notFound | .error _ => do
        sleep DEFAULT_POLL_INTERVAL_MS
        pollLoop hash deadline rounds
    else pure .timeout

/-- The number of rounds after which the deadline has passed. -/
def pollRounds : Nat := DEFAULT_TIMEOUT_MS / DEFAULT_POLL_INTERVAL_MS + 1

/-- Poll until the transaction is final or the wait has taken too long. -/
def waitForConfirmation (hash : String) : Relay ConfirmationResult := do
  let start ← now
  pollLoop hash (start + DEFAULT_TIMEOUT_MS) pollRounds

/-- How a confirmation that is not a success reads in the message of the error. -/
def ConfirmationResult.describe : ConfirmationResult → String
  | .success => "status=SUCCESS error=undefined"
  | .failed error => s!"status=FAILED error={error}"
  | .timeout => s!"status=TIMEOUT error=Transaction not confirmed within {DEFAULT_TIMEOUT_MS}ms"

/-! ### Submission -/

/-- Throws while an emergency pause covers on-chain writes. -/
def assertOnChainWriteAllowed : Relay Unit := do
  let k ← killSwitch
  match assertNotPaused k { chain := some "stellar", token := none, operation := .onchain } with
  | .ok () => pure ()
  | .error active => throw (.killSwitchActive active)

/-- Run `fn` with the next sequence number; a failure drops the cached number. -/
def withNextSequence {α : Type} (worker : Nat) (fn : Nat → Relay α) : Relay α :=
  tryCatch (do
    let sequence ← attempt (nextSequence worker)
    fn sequence) fun e => do
    resetSequence worker
    throw e

/-- Build, sign, submit and confirm a RestoreFootprint transaction. -/
def submitRestoreFootprint (account : Nat) : Relay Unit := do
  let restore ← build none account
  attempt (sign restore)
  match ← attempt (submit restore) with
  | .error resultXdr => throw (.error s!"RestoreFootprint submission failed: {resultXdr}")
  | .sent =>
    let confirmation ← waitForConfirmation restore
    let detail := confirmation.describe
    throwWhen (confirmation != .success) (.error s!"RestoreFootprint did not confirm: {detail}")

/-- Simulate; if archived entries have to be restored first, restore them and simulate once more. -/
def simulateRestored (tx : String) (sequence : Nat) (method : String) : Relay Simulation := do
  let simulation ← attempt (simulate tx)
  if simulation == .restorePreamble then do
    -- The account object moved on when the call was built.
    submitRestoreFootprint (sequence + 1)
    let again ← attempt (simulate tx)
    throwWhen (again == .restorePreamble) (.error <|
      s!"invokeContract: restorePreamble still present after restore — aborting to prevent loop " ++
        s!"(method={method})")
    pure again
  else pure simulation

/-- How an invocation ended. -/
inductive InvokeStatus where
  | success
  | dryRun
  | pending
deriving Repr, DecidableEq

structure InvokeContractResult where
  hash : String
  status : InvokeStatus
  dryRun : Bool
deriving Repr, DecidableEq

/-- The live path, with a sequence number. -/
def submitInvocation (row : Nat) (method : String) (beforeSubmit : String → Relay Unit)
    (sequence : Nat) : Relay InvokeContractResult := do
  let tx ← build (some row) sequence
  match ← simulateRestored tx sequence method with
  | .error message => throw (.error s!"invokeContract simulation failed: {message}")
  | _ =>
    attempt (prepare tx)
    attempt (sign tx)
    beforeSubmit tx
    match ← attempt (submit tx) with
    | .error resultXdr => throw (.error s!"invokeContract submit failed: {resultXdr}")
    | .sent =>
      let confirmation ← waitForConfirmation tx
      let detail := confirmation.describe
      throwWhen (confirmation != .success)
        (.error s!"invokeContract transaction did not confirm: {detail}")
      pure { hash := tx, status := .success, dryRun := false }

/-- Invoke the contract method of an outbox row. -/
def invokeContract (worker row : Nat) (method : String) (beforeSubmit : String → Relay Unit) :
    Relay InvokeContractResult := do
  assertOnChainWriteAllowed
  if ← dryRun then pure { hash := "dry-run-no-hash", status := .dryRun, dryRun := true }
  else withNextSequence worker (submitInvocation row method beforeSubmit)

end Relay

end VortexBackend
