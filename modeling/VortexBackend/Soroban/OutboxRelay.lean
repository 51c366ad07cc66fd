/-
Module: VortexBackend.Soroban.OutboxRelay
Purpose: The relay worker. A failed row is retried or dead-lettered, a paused one is released.
Trusted boundary: logging and metrics are left out
Main exports: Relay.tick, relayService
-/
import VortexBackend.Soroban.StellarTx

namespace VortexBackend

open RelayCall

/-- The configuration that the relay reads. -/
structure OutboxSettings where
  batchSize : Nat := 10
  maxAttempts : Nat := 8
  leaseSeconds : Nat := 120
  settlementContractId : String := "CSETTLEMENT"
deriving Repr, DecidableEq

/-- Counts from one relay tick. -/
structure RelayTickResult where
  claimed : Nat := 0
  paused : Nat := 0
  submitted : Nat := 0
  simulated : Nat := 0
  confirmed : Nat := 0
  retried : Nat := 0
  dead : Nat := 0
deriving Repr, DecidableEq

namespace Relay

def MAX_BACKOFF_MS : Nat := 5 * 60000

def BASE_BACKOFF_MS : Nat := 1000

def PAUSED_RECHECK_MS : Nat := 30000

/-! ### Typed calls -/

def claimDue (now limit leaseUntil : Nat) : Relay (List OutboxEntry) :=
  Async.call (outbox (.claimDue now limit leaseUntil))

def findSubmitted (limit : Nat) : Relay (List OutboxEntry) :=
  Async.call (outbox (.findSubmitted limit))

def countByStatus : Relay (List (OutboxStatus × Nat)) :=
  Async.call (outbox .countByStatus)

def recordEnvelope (entry : OutboxEntry) (hash : String) : Relay Bool :=
  Async.call (outbox (.recordEnvelope entry hash))

def markSubmitted (entry : OutboxEntry) (hash : String) : Relay Bool :=
  Async.call (outbox (.markSubmitted entry hash))

def markConfirmed (entry : OutboxEntry) (hash : String) : Relay Bool :=
  Async.call (outbox (.markConfirmed entry hash))

def markSimulated (entry : OutboxEntry) : Relay Bool :=
  Async.call (outbox (.markSimulated entry))

def scheduleRetry (entry : OutboxEntry) (error : String) (nextAttemptAt : Nat) : Relay Bool :=
  Async.call (outbox (.scheduleRetry entry error nextAttemptAt))

def markDead (entry : OutboxEntry) (error : String) : Relay Bool :=
  Async.call (outbox (.markDead entry error))

def release (entry : OutboxEntry) (note : String) (nextAttemptAt : Nat) : Relay Bool :=
  Async.call (outbox (.release entry note nextAttemptAt))

def encode (entry : OutboxEntry) : Relay (Except RelayError Unit) := Async.call (RelayCall.encode entry)

def beginTick (worker : Nat) : Relay Bool := Async.call (RelayCall.beginTick worker)

def endTick (worker : Nat) : Relay Unit := Async.call (RelayCall.endTick worker)

/-! ### The worker -/

variable (settings : OutboxSettings)

/-- Retry the row with backoff, or dead-letter it once its attempts are used up. -/
def fail (entry : OutboxEntry) (error : String) (now : Nat) (result : RelayTickResult) : Relay RelayTickResult := do
  if settings.maxAttempts ≤ entry.attempts then do
    if ← markDead entry error then pure { result with dead := result.dead + 1 } else pure result
  else do
    let delay := min (BASE_BACKOFF_MS * 2 ^ (entry.attempts - 1)) MAX_BACKOFF_MS
    if ← scheduleRetry entry error (now + delay) then
      pure { result with retried := result.retried + 1 }
    else pure result

/-- Settle one row that waits on confirmation. -/
def confirmOne (now : Nat) (result : RelayTickResult) (entry : OutboxEntry) : Relay RelayTickResult := do
  match entry.txHash with
  | none => pure result
  | some txHash =>
    match ← getTransaction txHash with
    | .error _ => pure result
    | .ok .success => do
      if ← markConfirmed entry txHash then
        pure { result with confirmed := result.confirmed + 1 }
      else pure result
    | .ok (.failed _) => fail settings entry s!"transaction {txHash} failed on-chain" now result
    | .ok .notFound =>
      if settings.leaseSeconds * 1000 < now - entry.updatedAt then
        fail settings entry s!"transaction {txHash} not found after lease; rebuilding" now result
      else pure result

def confirmSubmitted (now : Nat) (result : RelayTickResult) : Relay RelayTickResult := do
  let submitted ← findSubmitted settings.batchSize
  Async.onEachWith (confirmOne settings now) result submitted

/-- Persist the hash of the signed envelope, or give up when the claim is gone. -/
def beforeSubmit (entry : OutboxEntry) (hash : String) : Relay Unit := do
  let rowId := entry.id
  let recorded ← recordEnvelope entry hash
  Async.throwWhen (!recorded) (.error s!"lost lease on row {rowId} before submit")

/-- Build and send a new envelope for the row. -/
def send (worker : Nat) (entry : OutboxEntry) (result : RelayTickResult) : Relay RelayTickResult := do
  Async.throwWhen settings.settlementContractId.isEmpty
    (.error "SETTLEMENT_CONTRACT_ID is not configured")
  Async.attempt (encode entry)
  let sent ← invokeContract worker entry.id (methodName entry.operation) (beforeSubmit entry)
  if sent.dryRun then
    if ← markSimulated entry then pure { result with simulated := result.simulated + 1 }
    else pure result
  else if sent.status == .success then
    if ← markConfirmed entry sent.hash then
      pure { result with submitted := result.submitted + 1, confirmed := result.confirmed + 1 }
    else pure result
  else if ← markSubmitted entry sent.hash then
    pure { result with submitted := result.submitted + 1 }
  else pure result

/-- The body of `process`: look an earlier envelope up before sending another. -/
def processBody (worker : Nat) (entry : OutboxEntry) (result : RelayTickResult) : Relay RelayTickResult := do
  match entry.envelopeHash with
  | none => send settings worker entry result
  | some hash =>
    match ← check hash with
    | .success => do
      if ← markConfirmed entry hash then pure { result with confirmed := result.confirmed + 1 }
      else pure result
    | .failed _ => throw (.error s!"previous envelope {hash} failed on-chain")
    -- The lease outlived the envelope's time bound: rebuild.
    | .notFound => send settings worker entry result

/-- Send one claimed row; a pause gives the claim back, any other error fails the attempt. -/
def process (worker now : Nat) (result : RelayTickResult) (entry : OutboxEntry) :
    Relay RelayTickResult :=
  tryCatch (processBody settings worker entry result) fun
    | .killSwitchActive active => do
      let reason := active.reason
      if ← release entry s!"paused by kill-switch: {reason}" (now + PAUSED_RECHECK_MS) then
        pure { result with paused := result.paused + 1 }
      else pure result
    | e => fail settings entry e.message now result

def relayDue (worker now : Nat) (result : RelayTickResult) : Relay RelayTickResult := do
  let claimed ← claimDue now settings.batchSize (now + settings.leaseSeconds * 1000)
  Async.onEachWith (process settings worker now)
    { result with claimed := result.claimed + claimed.length } claimed

/-- One confirm + relay cycle of a worker. Overlapping calls are skipped. -/
def tick (worker : Nat) : Relay RelayTickResult := do
  let start ← now
  if ← beginTick worker then
    Async.tryFinally (do
      let result ← confirmSubmitted settings start {}
      let result ← relayDue settings worker start result
      let _ ← countByStatus
      pure result) (endTick worker)
  else pure {}

end Relay

/-- What can be started: a tick of a worker, or one method of the store by a client that holds the entry
    it got from the claim of another request. -/
inductive RelayRequest where
  | tick (worker : Nat)
  | client (call : OutboxCall) (claimedBy : Nat)
deriving Repr, DecidableEq

/-- The program behind each request. -/
def startRelay (settings : OutboxSettings) : RelayRequest → Program RelayReply (Except RelayError Unit)
  | .tick worker => (do let _ ← Relay.tick settings worker : Relay Unit)
  | .client call _ => (do let _ ← Async.call (outbox call) : Relay Unit)

/-- The relay workers and the clients of the store. -/
def relayService (settings : OutboxSettings) :
    Service RelayReply RelayWorld RelayChoice RelayWorld.Drift RelayRequest (Except RelayError Unit) where
  perform := RelayWorld.perform
  drift := RelayWorld.drift
  start := startRelay settings

abbrev RelayMove := Move RelayChoice RelayWorld.Drift RelayRequest

end VortexBackend
