/-
Module: VortexBackend.Soroban.TxTracking
Purpose: Durable tracking of submissions. A row follows the hash of its newest fee-bump envelope.
Trusted boundary: a tracked XDR is that of the tracked hash; hashes of different transactions differ; of all envelopes
  around one transaction the network includes at most one; the RPC node answers lookups truthfully, does not know the
  transaction yet, or throws. The casing of hashes, keys, metrics and logs are left out.
Main exports: Tracking.processRow, trackingService
-/
import VortexBackend.Soroban.Interface

namespace VortexBackend

open Async

/-- Maximum due rows claimed per poll batch. -/
def POLL_BATCH_SIZE : Nat := 50

/-- Base delay before re-polling a row that was not found; doubles per attempt. -/
def RETRY_BASE_DELAY_S : Nat := 5

/-- Cap on that backoff. -/
def RETRY_MAX_DELAY_S : Nat := 300

/-- The network's minimum fee, in stroops. -/
def BASE_FEE : Nat := 100

inductive PendingTxStatus where
  | pending
  | confirmed
  | failed
  | expired
deriving Repr, DecidableEq

/-- One row of `pending_transactions`. `txXdr` stands for the transaction inside the stored envelope. -/
structure PendingTxRow where
  id : Nat
  txHash : Nat
  txXdr : Nat
  intentId : Option String := none
  channelKey : Option String := none
  status : PendingTxStatus := .pending
  maxTrackUntil : Nat
  attempts : Nat := 0
  nextPollAt : Nat
  lastFeeStroops : Option Nat := none
  feeBumpCount : Nat := 0
  createdAt : Nat
deriving Repr, DecidableEq

/-- What a caller tracks. -/
structure TrackTxOptions where
  txHash : Nat
  txXdr : Nat
  intentId : Option String := none
  channelKey : Option String := none
  maxTrackUntil : Nat
deriving Repr, DecidableEq

/-- An envelope and the transaction it carries: itself, or the one inside a fee bump. -/
structure TrackedEnvelope where
  hash : Nat
  inner : Nat
deriving Repr, DecidableEq

/-- An envelope in a closed ledger, and whether its transaction was applied. -/
structure Inclusion where
  hash : Nat
  inner : Nat
  success : Bool
  ledger : Nat
deriving Repr, DecidableEq

/-- The answer to a lookup. -/
inductive TxLookup where
  | success (ledger : Nat)
  | failed (errorCode : String)
  | notFound
deriving Repr, DecidableEq

inductive FeePercentile where
  | p50
  | p90
  | p99
deriving Repr, DecidableEq

/-- The events that the poll batch publishes. -/
inductive TxDomainEvent where
  | confirmed (txHash : Nat) (intentId : Option String) (ledger latencyMs : Nat)
  | failed (txHash : Nat) (intentId : Option String) (errorCode : String) (latencyMs : Nat)
  | expired (txHash : Nat) (intentId : Option String) (latencyMs : Nat)
deriving Repr, DecidableEq

/-- What an `update` of a row writes. -/
inductive RowPatch where
  | status (status : PendingTxStatus)
  | bumped (txHash feeBumpCount lastFeeStroops attempts nextPollAt : Nat)
  | retry (attempts nextPollAt : Nat)
deriving Repr, DecidableEq

def RowPatch.apply (row : PendingTxRow) : RowPatch → PendingTxRow
  | .status next => { row with status := next }
  | .bumped txHash feeBumpCount lastFeeStroops attempts nextPollAt =>
    { row with txHash, feeBumpCount, lastFeeStroops := some lastFeeStroops, attempts, nextPollAt }
  | .retry attempts nextPollAt => { row with attempts, nextPollAt }

/-- Everything that the service awaits or reads. -/
inductive TrackingCall where
  | now
  | upsert (opts : TrackTxOptions) (now : Nat)
  | dueRows
  | update (id : Nat) (patch : RowPatch)
  | emit (event : TxDomainEvent)
  | getTransaction (hash : Nat)
  /-- A signer is configured and exposes its key. -/
  | feeSource
  | getFeeStats (percentile : FeePercentile)
  /-- `TransactionBuilder.buildFeeBumpTransaction` around a transaction -/
  | buildFeeBumpTransaction (inner fee : Nat)
  /-- A fee bump for a row is handed to the network. -/
  | submit (id : Nat) (envelope : TrackedEnvelope)
deriving Repr, DecidableEq

/-- The replies; a call that may throw replies with an `Except`. -/
@[reducible] def TrackingReply : TrackingCall → Type
  | .now => Nat
  | .upsert .. | .update .. => Except String Unit
  | .dueRows => Except String (List PendingTxRow)
  | .emit _ => Unit
  | .getTransaction _ => Except String TxLookup
  | .feeSource => Bool
  | .getFeeStats _ => Except String (Option Nat)
  | .buildFeeBumpTransaction .. => Except String TrackedEnvelope
  | .submit .. => Except String SendResponse

/-- The rows and the network. -/
structure TrackingWorld where
  /-- in milliseconds -/
  now : Nat := 0
  /-- in the order of their ids, which count up -/
  rows : List PendingTxRow := []
  /-- every envelope that was made -/
  envelopes : List TrackedEnvelope := []
  /-- the hashes of those that reached the network -/
  sent : List Nat := []
  /-- which envelopes belong to which row: the tracked one, and every fee bump sent for it -/
  submissions : List (Nat × Nat) := []
  ledger : List Inclusion := []

/-- What the environment decides about one call. -/
structure TrackingChoice where
  /-- the call throws this -/
  throws : Option String := none
  /-- a write takes effect, and an envelope reaches the network, although the caller is told otherwise -/
  reaches : Bool := false
  /-- the node does not know the transaction yet -/
  lags : Bool := false
  code : String := "tx_failed"
  feeSource : Bool := true
  fee : Option Nat := none
  hash : Nat := 0
  response : SendResponse := .sent
deriving Repr, DecidableEq

namespace TrackingWorld

/-- A reply that is the given value unless the environment makes the call throw. -/
def answer {α : Type} (choice : TrackingChoice) (value : α) : Except String α :=
  match choice.throws with
  | some message => .error message
  | none => .ok value

variable (w : TrackingWorld)

/-- The hash can be that of an envelope around this transaction. -/
def Fits (envelope : TrackedEnvelope) : Prop :=
  ∀ e ∈ w.envelopes, e.hash = envelope.hash → e.inner = envelope.inner

instance (w : TrackingWorld) (envelope : TrackedEnvelope) : Decidable (w.Fits envelope) :=
  inferInstanceAs (Decidable (∀ e ∈ w.envelopes, _ → _))

/-- The truthful answer to a lookup. -/
def lookup (hash : Nat) (code : String) : TxLookup :=
  match w.ledger.find? (·.hash == hash) with
  | some inclusion => if inclusion.success then .success inclusion.ledger else .failed code
  | none => .notFound

variable (opts : TrackTxOptions)

/-- What `track` creates. -/
def newRow (now : Nat) : PendingTxRow where
  id := w.rows.length
  txHash := opts.txHash
  txXdr := opts.txXdr
  intentId := opts.intentId
  channelKey := opts.channelKey
  maxTrackUntil := opts.maxTrackUntil
  nextPollAt := now
  createdAt := w.now

/-- What `track` writes into the row that has the hash already. -/
def retracked (now : Nat) (row : PendingTxRow) : PendingTxRow :=
  { row with
    txXdr := opts.txXdr
    intentId := opts.intentId
    channelKey := opts.channelKey
    status := .pending
    maxTrackUntil := opts.maxTrackUntil
    attempts := 0
    nextPollAt := now }

/-- `upsert` on the unique hash. -/
def upsert (now : Nat) : TrackingWorld :=
  match w.rows.find? (·.txHash == opts.txHash) with
  | some _ =>
    { w with rows := w.rows.map fun row => if row.txHash = opts.txHash then retracked opts now row else row }
  | none =>
    { w with
      rows := w.rows ++ [w.newRow opts now]
      envelopes := ⟨opts.txHash, opts.txXdr⟩ :: w.envelopes
      sent := opts.txHash :: w.sent
      submissions := (w.rows.length, opts.txHash) :: w.submissions }

/-- The hash that a patch gives to the row is that of another row. -/
def clashes (id : Nat) : RowPatch → Bool
  | .bumped txHash .. => w.rows.any fun row => row.id != id && row.txHash == txHash
  | _ => false

def update (id : Nat) (patch : RowPatch) : TrackingWorld :=
  { w with rows := w.rows.map fun row => if row.id = id then patch.apply row else row }

/-- The rows that are pending and due, oldest first. -/
def dueRows : List PendingTxRow :=
  (w.rows.filter fun row => row.status == .pending && row.nextPollAt ≤ w.now / 1000).take POLL_BATCH_SIZE

/-- The effect of one call. -/
def perform :
    (call : TrackingCall) → TrackingChoice → TrackingWorld → Option (TrackingReply call × TrackingWorld)
  | .now, _, w => some (w.now, w)
  | .upsert opts now, choice, w =>
    if w.Fits ⟨opts.txHash, opts.txXdr⟩ then
      some (answer choice (), if choice.throws.isNone || choice.reaches then w.upsert opts now else w)
    else none
  | .dueRows, choice, w => some (answer choice w.dueRows, w)
  | .update id patch, choice, w =>
    if w.clashes id patch then some (.error "Unique constraint failed on the fields: (tx_hash)", w)
    else some (answer choice (), if choice.throws.isNone || choice.reaches then w.update id patch else w)
  | .emit _, _, w => some ((), w)
  | .getTransaction hash, choice, w =>
    some (answer choice (if choice.lags then .notFound else w.lookup hash choice.code), w)
  | .feeSource, choice, w => some (choice.feeSource, w)
  | .getFeeStats _, choice, w => some (answer choice choice.fee, w)
  | .buildFeeBumpTransaction inner _, choice, w =>
    if w.Fits ⟨choice.hash, inner⟩ then
      some (answer choice ⟨choice.hash, inner⟩, { w with envelopes := ⟨choice.hash, inner⟩ :: w.envelopes })
    else none
  | .submit id envelope, choice, w =>
    let reached := choice.throws.isNone && choice.response == .sent || choice.reaches
    some (answer choice choice.response,
      { w with
        submissions := (id, envelope.hash) :: w.submissions
        sent := if reached then envelope.hash :: w.sent else w.sent })

/-- What happens without the service: time passes, other code sends envelopes, and a ledger closes with an envelope
    whose transaction is in none yet. -/
inductive Drift where
  | tick (ms : Nat)
  | send (envelope : TrackedEnvelope)
  | close (envelope : TrackedEnvelope) (success : Bool) (ledger : Nat)
deriving Repr, DecidableEq

def drift : Drift → TrackingWorld → Option TrackingWorld
  | .tick ms, w => some { w with now := w.now + ms }
  | .send envelope, w =>
    if w.Fits envelope then
      some { w with envelopes := envelope :: w.envelopes, sent := envelope.hash :: w.sent }
    else none
  | .close envelope success ledger, w =>
    if envelope ∈ w.envelopes ∧ envelope.hash ∈ w.sent ∧ w.ledger.all (·.inner != envelope.inner) then
      some { w with ledger := ⟨envelope.hash, envelope.inner, success, ledger⟩ :: w.ledger }
    else none

end TrackingWorld

/-- An asynchronous function of the service. -/
abbrev Tracking (α : Type) := Async TrackingReply String α

namespace Tracking

/-- `Math.floor(Date.now() / 1000)` -/
def seconds (ms : Nat) : Nat := ms / 1000

def ESCALATION_LADDER : List FeePercentile := [.p50, .p90, .p99]

/-- Should the transaction be fee-bumped, at this time in milliseconds? -/
def shouldEscalate (errorResultCode : Option String) (feeBumpCount maxTrackUntil nowMs : Nat) : Bool :=
  if ESCALATION_LADDER.length ≤ feeBumpCount then false
  else if errorResultCode = some "tx_insufficient_fee" then true
  else
    -- Within 60 s of the bound, but not past it.
    maxTrackUntil ≤ seconds nowMs + 60 && seconds nowMs < maxTrackUntil

/-- The step of the ladder for a bump. -/
def percentileFor (feeBumpCount : Nat) : FeePercentile :=
  (ESCALATION_LADDER[min feeBumpCount (ESCALATION_LADDER.length - 1)]?).getD .p50

/-- The fee per operation: the network's percentile, or the minimum when it is missing, zero or cannot be read. -/
def newFeePerOp : Except String (Option Nat) → Nat
  | .ok (some fee) => if fee = 0 then BASE_FEE else fee
  | .ok none | .error _ => BASE_FEE

/-- A fee-bump envelope for a transaction and its fee, or null above the ceiling. -/
def buildFeeBump (maxFeeStroops innerTxXdr feeBumpCount : Nat) : Tracking (Option (TrackedEnvelope × Nat)) := do
  let stats ← Async.call (TrackingCall.getFeeStats (percentileFor feeBumpCount))
  let fee := newFeePerOp stats
  if maxFeeStroops < fee then pure none
  else do
    let envelope ← attempt (Async.call (TrackingCall.buildFeeBumpTransaction innerTxXdr fee))
    pure (some (envelope, fee))

/-- Apply the escalation ladder when the policy asks for it; true when a bump was submitted. -/
def maybeFeeBump (maxFeeStroops : Nat) (row : PendingTxRow) : Tracking Bool := do
  let now ← Async.call TrackingCall.now
  if shouldEscalate none row.feeBumpCount row.maxTrackUntil now then do
    if ← Async.call TrackingCall.feeSource then do
      match ← buildFeeBump maxFeeStroops row.txXdr row.feeBumpCount with
      | none => pure false
      | some (envelope, fee) =>
        match ← attempt (Async.call (TrackingCall.submit row.id envelope)) with
        | .error _ => pure false
        | .sent =>
          attempt (Async.call (TrackingCall.update row.id
            (.bumped envelope.hash (row.feeBumpCount + 1) fee (row.attempts + 1) (seconds now + RETRY_BASE_DELAY_S))))
          pure true
    else pure false
  else pure false

/-- Mark a row and publish the event. -/
def conclude (row : PendingTxRow) (status : PendingTxStatus) (event : TxDomainEvent) : Tracking Unit := do
  attempt (Async.call (TrackingCall.update row.id (.status status)))
  Async.call (TrackingCall.emit event)

/-- The wait before the next look at a row that was not found. -/
def retryDelay (attempts : Nat) : Nat := min (RETRY_BASE_DELAY_S * 2 ^ min attempts 8) RETRY_MAX_DELAY_S

/-- Drive one pending row to a terminal state, a retry or a fee bump. -/
def processRow (maxFeeStroops : Nat) (row : PendingTxRow) : Tracking Unit := do
  let now ← Async.call TrackingCall.now
  let latencyMs := now - row.createdAt
  -- Time bound first: the outcome of an expired row is decided locally.
  if row.maxTrackUntil ≤ seconds now then
    conclude row .expired (.expired row.txHash row.intentId latencyMs)
  else do
    match ← attempt (Async.call (TrackingCall.getTransaction row.txHash)) with
    | .success ledger => conclude row .confirmed (.confirmed row.txHash row.intentId ledger latencyMs)
    | .failed errorCode => do
      if ← maybeFeeBump maxFeeStroops row then pure ()
      else conclude row .failed (.failed row.txHash row.intentId errorCode latencyMs)
    | .notFound => do
      if ← maybeFeeBump maxFeeStroops row then pure ()
      else
        attempt (Async.call (TrackingCall.update row.id
          (.retry (row.attempts + 1) (seconds now + retryDelay row.attempts))))

/-- One poll batch; a row that throws is left for the next one. -/
def pollBatch (maxFeeStroops : Nat) : Tracking Unit := do
  let rows ← attempt (Async.call TrackingCall.dueRows)
  onEach (fun row => tryCatch (processRow maxFeeStroops row) fun _ => pure ()) rows

/-- Persist a submission for durable tracking. -/
def track (opts : TrackTxOptions) : Tracking Unit := do
  let now ← Async.call TrackingCall.now
  attempt (Async.call (TrackingCall.upsert opts (seconds now)))

end Tracking

/-- What the service is asked to do: by its timer, and by whoever submitted. -/
inductive TrackingRequest where
  | pollBatch
  | track (opts : TrackTxOptions)
deriving Repr, DecidableEq

/-- The service, with its fee ceiling. -/
def trackingService (maxFeeStroops : Nat) :
    Service TrackingReply TrackingWorld TrackingChoice TrackingWorld.Drift TrackingRequest (Except String Unit) where
  perform := TrackingWorld.perform
  drift := TrackingWorld.drift
  start
    | .pollBatch => (Tracking.pollBatch maxFeeStroops).run
    | .track opts => (Tracking.track opts).run

abbrev TrackingMove := Move TrackingChoice TrackingWorld.Drift TrackingRequest

end VortexBackend
