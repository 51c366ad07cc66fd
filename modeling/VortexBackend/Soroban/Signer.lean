/-
Module: VortexBackend.Soroban.Signer
Purpose: One process that uses the signing account, and the two functions that submit with its numbers.
Trusted boundary: `TransactionBuilder.build` stamps the number after the one of its account object and counts that
  object on; preparing and signing keep the number; `waitForConfirmation` is one call, and what it confirms was
  included; an included transaction advances the account by one; the RPC node answers with a number that the account
  has had. Logs, metrics and the contents of transactions are left out.
Main exports: Signer.invokeContract, signerService
-/
import VortexBackend.Js.PromiseQueue
import VortexBackend.Soroban.StellarTx

namespace VortexBackend

open Async

/-- A transaction as it is handed around: its hash, its sequence number and its fee. -/
structure SignedEnvelope where
  hash : Nat
  sequence : Nat
  fee : Nat
deriving Repr, DecidableEq

/-- What a simulation answers. -/
inductive SimulationResponse where
  | success (minResourceFee : Nat)
  | restorePreamble (minResourceFee : Nat)
  | error (message : String)
deriving Repr, DecidableEq

/-- Everything that the two functions await, and what they read or write of the signer. -/
inductive SignerCall where
  | killSwitch
  | dryRun
  | enter
  | wait (ticket : Nat)
  | leave (ticket : Nat)
  | cachedSequence
  | getAccount
  | setCachedSequence (sequence : Option Nat)
  /-- `this.cachedSequence += 1n` -/
  | advance
  | estimateBaseFee
  | build (account fee : Nat)
  | simulate (envelope : SignedEnvelope)
  | prepare (envelope : SignedEnvelope)
  | sign (envelope : SignedEnvelope)
  | beforeSubmit (hash : Nat)
  | submit (envelope : SignedEnvelope)
  | waitForConfirmation (hash : Nat)
deriving Repr, DecidableEq

/-- The replies; a call that may throw replies with an `Except`. -/
@[reducible] def SignerReply : SignerCall → Type
  | .killSwitch => KillSwitch
  | .dryRun => Bool
  | .enter => Nat
  | .wait _ | .leave _ | .setCachedSequence _ => Unit
  | .cachedSequence => Option Nat
  | .getAccount | .advance => Except RelayError Nat
  | .estimateBaseFee => Nat
  | .build .. => SignedEnvelope
  | .simulate _ => Except RelayError SimulationResponse
  | .prepare _ => Except RelayError SignedEnvelope
  | .sign _ | .beforeSubmit _ => Except RelayError Unit
  | .submit _ => Except RelayError SendResponse
  | .waitForConfirmation _ => Relay.ConfirmationResult


/-- The process and the account on chain. -/
structure SignerWorld where
  killSwitch : KillSwitch := {}
  sequenceLock : PromiseQueue := {}
  cachedSequence : Option Nat := none
  /-- the number of envelopes so far, from which their hashes come -/
  built : Nat := 0
  onChain : Nat := 0
  /-- the envelopes that the network has and may still include -/
  pending : List SignedEnvelope := []
  /-- the hashes of the included ones -/
  included : List Nat := []

/-- What the environment decides about one call. -/
structure SignerChoice where
  /-- the call throws this -/
  throws : Option String := none
  dryRun : Bool := false
  account : Nat := 0
  fee : Nat := 100
  simulation : SimulationResponse := .success 0
  /-- the network takes the envelope, whatever the caller is told -/
  reaches : Bool := true
  response : SendResponse := .sent
  confirmation : Relay.ConfirmationResult := .success
deriving Repr, DecidableEq

namespace SignerWorld

/-- A reply that is the given value unless the environment makes the call throw. -/
def answer {α : Type} (choice : SignerChoice) (value : α) : Except RelayError α :=
  match choice.throws with
  | some message => .error (.error message)
  | none => .ok value

/-- The effect of one call. -/
def perform : (call : SignerCall) → SignerChoice → SignerWorld → Option (SignerReply call × SignerWorld)
  | .killSwitch, _, w => some (w.killSwitch, w)
  | .dryRun, choice, w => some (choice.dryRun, w)
  | .enter, _, w => some (w.sequenceLock.enter.1, { w with sequenceLock := w.sequenceLock.enter.2 })
  | .wait ticket, _, w => if w.sequenceLock.ready ticket then some ((), w) else none
  | .leave ticket, _, w => some ((), { w with sequenceLock := w.sequenceLock.leave ticket })
  | .cachedSequence, _, w => some (w.cachedSequence, w)
  -- A node that lags behind answers with an earlier number.
  | .getAccount, choice, w => if choice.account ≤ w.onChain then some (answer choice choice.account, w) else none
  | .setCachedSequence sequence, _, w => some ((), { w with cachedSequence := sequence })
  | .advance, _, w =>
    match w.cachedSequence with
    | some cached => some (.ok (cached + 1), { w with cachedSequence := some (cached + 1) })
    | none => some (.error (.error "Cannot mix BigInt and other types, use explicit conversions"), w)
  | .estimateBaseFee, choice, w => some (choice.fee, w)
  | .build account fee, _, w => some (⟨w.built, account + 1, fee⟩, { w with built := w.built + 1 })
  | .simulate _, choice, w => some (answer choice choice.simulation, w)
  | .prepare envelope, choice, w =>
    some (answer choice ⟨w.built, envelope.sequence, choice.fee⟩, { w with built := w.built + 1 })
  | .sign _, choice, w => some (answer choice (), w)
  | .beforeSubmit _, choice, w => some (answer choice (), w)
  | .submit envelope, choice, w =>
    some (answer choice choice.response, if choice.reaches then { w with pending := envelope :: w.pending } else w)
  | .waitForConfirmation hash, choice, w =>
    if choice.confirmation = .success → hash ∈ w.included then some (choice.confirmation, w) else none

/-- What happens without the process: operators set switches, and the network includes a transaction that has the
    number after the account's, or drops one. -/
inductive Drift where
  | setKillSwitch (k : KillSwitch)
  | include (envelope : SignedEnvelope)
  | drop (envelope : SignedEnvelope)

def drift : Drift → SignerWorld → Option SignerWorld
  | .setKillSwitch k, w => some { w with killSwitch := k }
  | .include envelope, w =>
    if envelope ∈ w.pending ∧ envelope.sequence = w.onChain + 1 then
      some { w with
        onChain := w.onChain + 1
        pending := w.pending.erase envelope
        included := envelope.hash :: w.included }
    else none
  | .drop envelope, w => some { w with pending := w.pending.erase envelope }

end SignerWorld

/-- What a contract call returns. A dry run has a fixed text in the place of the hash. -/
structure InvocationResult where
  hash : Option Nat
  status : Relay.InvokeStatus
  dryRun : Bool
  restored : Option Bool := none
deriving Repr, DecidableEq

inductive ExtensionStatus where
  | success
  | dryRun
  | overBudget
deriving Repr, DecidableEq

/-- What an extension returns; the hash is null when nothing was submitted. -/
structure ExtendFootprintTtlResult where
  hash : Option Nat
  status : ExtensionStatus
  dryRun : Bool
  feeStroops : Nat
deriving Repr, DecidableEq

/-- An asynchronous function of the signer's process. -/
abbrev Signer (α : Type) := Async SignerReply RelayError α

namespace Signer

/-- Throws while an emergency pause covers on-chain writes. -/
def assertOnChainWriteAllowed : Signer Unit := do
  let k ← Async.call SignerCall.killSwitch
  match assertNotPaused k { chain := some "stellar", token := none, operation := .onchain } with
  | .ok () => pure ()
  | .error active => throw (.killSwitchActive active)

/-- The number after the cached one; the account is read while nothing is cached. -/
def nextSequence : Signer Nat := do
  match ← Async.call SignerCall.cachedSequence with
  | none => do
    let account ← attempt (Async.call SignerCall.getAccount)
    Async.call (SignerCall.setCachedSequence (some account))
  | some _ => pure ()
  attempt (Async.call SignerCall.advance)

/-- Run `fn` with the next sequence number, inside the lock; a failure drops the cached number. -/
def withNextSequence {α : Type} (fn : Nat → Signer α) : Signer α := do
  let ticket ← Async.call SignerCall.enter
  Async.call (SignerCall.wait ticket)
  Async.tryFinally
    (tryCatch (do
      let sequence ← nextSequence
      fn sequence) fun e => do
      Async.call (SignerCall.setCachedSequence none)
      throw e)
    (Async.call (SignerCall.leave ticket))

/-- Build, sign, submit and confirm a RestoreFootprint transaction. -/
def submitRestoreFootprint (minResourceFee account baseFee : Nat) : Signer Unit := do
  let restoreTx ← Async.call (SignerCall.build account (baseFee + minResourceFee))
  attempt (Async.call (SignerCall.sign restoreTx))
  match ← attempt (Async.call (SignerCall.submit restoreTx)) with
  | .error resultXdr => throw (.error s!"RestoreFootprint submission failed: {resultXdr}")
  | .sent =>
    let confirmation ← Async.call (SignerCall.waitForConfirmation restoreTx.hash)
    let detail := confirmation.describe
    throwWhen (confirmation != .success) (.error s!"RestoreFootprint did not confirm: {detail}")

/-- Simulate; if archived entries have to be restored first, restore them and simulate once more. Says whether it
    restored. -/
def simulateRestored (rawTx : SignedEnvelope) (sequence baseFee : Nat) (method : String) :
    Signer (SimulationResponse × Bool) := do
  match ← attempt (Async.call (SignerCall.simulate rawTx)) with
  | .restorePreamble minResourceFee => do
    -- The account object moved on when the call was built.
    submitRestoreFootprint minResourceFee (sequence + 1) baseFee
    match ← attempt (Async.call (SignerCall.simulate rawTx)) with
    | .restorePreamble _ =>
      throw (.error <|
        s!"invokeContract: restorePreamble still present after restore — aborting to prevent loop " ++
          s!"(method={method})")
    | again => pure (again, true)
  | simulation => pure (simulation, false)

/-- The live path of a contract call, with a sequence number. -/
def submitInvocation (method : String) (hook : Bool) (sequence : Nat) : Signer InvocationResult := do
  let baseFee ← Async.call SignerCall.estimateBaseFee
  let rawTx ← Async.call (SignerCall.build sequence baseFee)
  match ← simulateRestored rawTx sequence baseFee method with
  | (.error message, _) => throw (.error s!"invokeContract simulation failed: {message}")
  | (_, restored) =>
    let prepared ← attempt (Async.call (SignerCall.prepare rawTx))
    attempt (Async.call (SignerCall.sign prepared))
    if hook then attempt (Async.call (SignerCall.beforeSubmit prepared.hash)) else pure ()
    match ← attempt (Async.call (SignerCall.submit prepared)) with
    | .error resultXdr => throw (.error s!"invokeContract submit failed: {resultXdr}")
    | .sent =>
      let confirmation ← Async.call (SignerCall.waitForConfirmation prepared.hash)
      let detail := confirmation.describe
      throwWhen (confirmation != .success)
        (.error s!"invokeContract transaction did not confirm: {detail}")
      pure { hash := some prepared.hash, status := .success, dryRun := false, restored := some restored }

/-- Invoke a contract method; `hook` says whether the caller passed a `beforeSubmit`. -/
def invokeContract (method : String) (hook : Bool) : Signer InvocationResult := do
  assertOnChainWriteAllowed
  if ← Async.call SignerCall.dryRun then pure { hash := none, status := .dryRun, dryRun := true }
  else withNextSequence (submitInvocation method hook)

/-- Is a fee above the caller's budget? -/
def overBudget (maxFeeStroops : Option Nat) (fee : Nat) : Bool := maxFeeStroops.any (· < fee)

/-- The live path of an extension, with a sequence number. -/
def submitExtension (maxFeeStroops : Option Nat) (sequence : Nat) : Signer ExtendFootprintTtlResult := do
  let baseFee ← Async.call SignerCall.estimateBaseFee
  let tx ← Async.call (SignerCall.build sequence baseFee)
  let prepared ← attempt (Async.call (SignerCall.prepare tx))
  let fee := prepared.fee
  -- Throwing drops the cached number, which the unsubmitted transaction would leave one ahead.
  throwWhen (overBudget maxFeeStroops fee) (.ttlExtensionOverBudget fee (maxFeeStroops.getD 0))
  attempt (Async.call (SignerCall.sign prepared))
  match ← attempt (Async.call (SignerCall.submit prepared)) with
  | .error resultXdr => throw (.error s!"extendFootprintTtl submit failed: {resultXdr}")
  | .sent =>
    let confirmation ← Async.call (SignerCall.waitForConfirmation prepared.hash)
    let detail := confirmation.describe
    throwWhen (confirmation != .success) (.error s!"extendFootprintTtl did not confirm: {detail}")
    pure { hash := some prepared.hash, status := .success, dryRun := false, feeStroops := fee }

/-- Estimate on an account of its own, outside the lock, and submit if the budget and the dry-run flag allow it. -/
def extendFootprintTtl (keys : Nat) (maxFeeStroops : Option Nat) : Signer ExtendFootprintTtlResult := do
  throwWhen (keys == 0) (.error "extendFootprintTtl: no ledger keys")
  assertOnChainWriteAllowed
  let account ← attempt (Async.call SignerCall.getAccount)
  let baseFee ← Async.call SignerCall.estimateBaseFee
  let probe ← Async.call (SignerCall.build account baseFee)
  match ← attempt (Async.call (SignerCall.simulate probe)) with
  | .error message => throw (.error s!"extendFootprintTtl simulation failed: {message}")
  | .success minResourceFee | .restorePreamble minResourceFee =>
    let estimate := probe.fee + minResourceFee
    if overBudget maxFeeStroops estimate then
      pure { hash := none, status := .overBudget, dryRun := false, feeStroops := estimate }
    else if ← Async.call SignerCall.dryRun then
      pure { hash := none, status := .dryRun, dryRun := true, feeStroops := estimate }
    else withNextSequence (submitExtension maxFeeStroops)

end Signer

/-- What the rest of the process asks for. -/
inductive SignerRequest where
  | invokeContract (method : String) (hook : Bool)
  | extendFootprintTtl (keys : Nat) (maxFeeStroops : Option Nat)
deriving Repr, DecidableEq

/-- What a request returns. -/
inductive SignerResponse where
  | invoked (result : InvocationResult)
  | extended (result : ExtendFootprintTtlResult)
deriving Repr, DecidableEq

/-- The function behind a request. -/
def SignerRequest.handler : SignerRequest → Signer SignerResponse
  | .invokeContract method hook => do
    let result ← Signer.invokeContract method hook
    pure (.invoked result)
  | .extendFootprintTtl keys maxFeeStroops => do
    let result ← Signer.extendFootprintTtl keys maxFeeStroops
    pure (.extended result)

/-- The process. -/
def signerService :
    Service SignerReply SignerWorld SignerChoice SignerWorld.Drift SignerRequest
      (Except RelayError SignerResponse) where
  perform := SignerWorld.perform
  drift := SignerWorld.drift
  start request := request.handler.run

abbrev SignerMove := Move SignerChoice SignerWorld.Drift SignerRequest

end VortexBackend
