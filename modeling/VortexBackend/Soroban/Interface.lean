/-
Module: VortexBackend.Soroban.Interface
Purpose: What a relay worker talks to. The network includes an envelope once, in order and in time.
Trusted boundary: the RPC node answers lookups truthfully or throws; the network keeps the time bound and
  the sequence order of the signing account; hashes of different envelopes differ; fees, footprints and
  the encoding of arguments are left out.
Main exports: RelayCall, RelayWorld.perform
-/
import VortexBackend.Async.Service
import VortexBackend.KillSwitch.Evaluate
import VortexBackend.Soroban.OutboxRepository

namespace VortexBackend

/-- Time bound, in seconds, on every transaction that carries a contract call. -/
def INVOKE_TX_TIMEOUT_SECONDS : Nat := 30

/-- The same bound in milliseconds. -/
def INVOKE_TX_TIMEOUT_MS : Nat := INVOKE_TX_TIMEOUT_SECONDS * 1000

/-- A transaction that was built: the outbox row whose contract call it carries (none for a
    RestoreFootprint), its sequence number and the time its bound counts from. -/
structure Envelope where
  hash : String
  row : Option Nat
  sequence : Nat
  builtAt : Nat
deriving Repr, DecidableEq

/-- An included transaction, and whether its invocation was applied. -/
structure LedgerEntry where
  hash : String
  applied : Bool
deriving Repr, DecidableEq

/-- The chain as far as the relay can affect it. -/
structure Network where
  envelopes : JsMap String Envelope := .empty
  accepted : List String := []
  ledger : List LedgerEntry := []
  accountSequence : Nat := 0

/-- Normalized outcome of a single lookup. -/
inductive TxStatus where
  | success
  | failed (code : String)
  | notFound
deriving Repr, DecidableEq

namespace Network

variable (network : Network)

/-- Is the transaction in a closed ledger? -/
def included (hash : String) : Bool := network.ledger.any (·.hash == hash)

/-- Was it applied there? -/
def applied (network : Network) (hash : String) : Bool :=
  network.ledger.any fun entry => entry.hash == hash && entry.applied

/-- The truthful answer to a lookup. -/
def status (hash code : String) : TxStatus :=
  if network.applied hash then .success
  else if network.included hash then .failed code
  else .notFound

/-- Does the envelope with this hash carry the call of `row`? -/
def carries (row : Nat) (hash : String) : Bool :=
  (network.envelopes.get hash).any (·.row == some row)

/-- How often the contract call of a row took effect. -/
def effects (row : Nat) : Nat :=
  network.ledger.countP fun entry => entry.applied && network.carries row entry.hash

/-- A ledger closes with an envelope that reached the network: within its time bound, in the sequence
    of the account, at most once. -/
def close (now : Nat) (hash : String) (applied : Bool) : Option Network :=
  match network.envelopes.get hash with
  | none => none
  | some envelope =>
    if hash ∈ network.accepted ∧ network.included hash = false ∧
        now ≤ envelope.builtAt + INVOKE_TX_TIMEOUT_MS ∧
        envelope.sequence = network.accountSequence + 1 then
      some { network with
        ledger := ⟨hash, applied⟩ :: network.ledger
        accountSequence := network.accountSequence + 1 }
    else none

end Network

/-- What an awaited call of the relay can throw. -/
inductive RelayError where
  | killSwitchActive (active : KillSwitchActive)
  | ttlExtensionOverBudget (feeStroops maxFeeStroops : Nat)
  | error (message : String)
deriving Repr, DecidableEq

/-- `err.message` -/
def RelayError.message : RelayError → String
  | .killSwitchActive active => active.reason
  | .ttlExtensionOverBudget feeStroops maxFeeStroops =>
    s!"extendFootprintTtl fee {feeStroops} exceeds budget {maxFeeStroops} stroops"
  | .error message => message

/-- The simulation of a transaction. -/
inductive Simulation where
  | success
  | restorePreamble
  | error (message : String)
deriving Repr, DecidableEq

/-- The answer to a submission that did not throw. -/
inductive SendResponse where
  | sent
  | error (resultXdr : String)
deriving Repr, DecidableEq

/-- The methods of the outbox store. -/
inductive OutboxCall where
  | enqueue (entry : NewOutboxEntry)
  | claimDue (now limit leaseUntil : Nat)
  | findSubmitted (limit : Nat)
  | countByStatus
  | recordEnvelope (entry : OutboxEntry) (envelopeHash : String)
  | markSubmitted (entry : OutboxEntry) (txHash : String)
  | markConfirmed (entry : OutboxEntry) (txHash : String)
  | markSimulated (entry : OutboxEntry)
  | scheduleRetry (entry : OutboxEntry) (error : String) (nextAttemptAt : Nat)
  | markDead (entry : OutboxEntry) (error : String)
  | release (entry : OutboxEntry) (note : String) (nextAttemptAt : Nat)
  | requeueDead (id : Nat)
deriving Repr, DecidableEq

/-- What each method of the store returns. -/
@[reducible] def OutboxCall.Reply : OutboxCall → Type
  | .enqueue _ => OutboxEntry
  | .claimDue .. | .findSubmitted _ => List OutboxEntry
  | .countByStatus => List (OutboxStatus × Nat)
  | .recordEnvelope .. | .markSubmitted .. | .markConfirmed .. | .markSimulated _
  | .scheduleRetry .. | .markDead .. | .release .. | .requeueDead _ => Bool

/-- Everything a worker awaits or reads. `waiting` is the loop test of the confirmation poll. -/
inductive RelayCall where
  | outbox (call : OutboxCall)
  | now
  | beginTick (worker : Nat)
  | endTick (worker : Nat)
  | killSwitch
  | dryRun
  | encode (entry : OutboxEntry)
  | nextSequence (worker : Nat)
  | resetSequence (worker : Nat)
  | build (row : Option Nat) (account : Nat)
  | simulate (hash : String)
  | prepare (hash : String)
  | sign (hash : String)
  | submit (hash : String)
  | getTransaction (hash : String)
  | waiting (hash : String) (deadline : Nat)
  | sleepUntil (time : Nat)
deriving Repr, DecidableEq

/-- The replies; a call that may throw replies with an `Except`. -/
@[reducible] def RelayReply : RelayCall → Type
  | .outbox call => call.Reply
  | .now => Nat
  | .beginTick _ => Bool
  | .endTick _ => Unit
  | .killSwitch => KillSwitch
  | .dryRun => Bool
  | .encode _ => Except RelayError Unit
  | .nextSequence _ => Except RelayError Nat
  | .resetSequence _ => Unit
  | .build .. => String
  | .simulate _ => Except RelayError Simulation
  | .prepare _ | .sign _ => Except RelayError Unit
  | .submit _ => Except RelayError SendResponse
  | .getTransaction _ => Except RelayError TxStatus
  | .waiting .. => Bool
  | .sleepUntil _ => Unit

/-- The state that the workers, the operators and the chain share. -/
structure RelayWorld where
  now : Nat := 0
  outbox : OutboxStore := .empty
  network : Network := {}
  killSwitch : KillSwitch := {}
  running : List Nat := []
  /-- the sequence cache of each worker's signer -/
  cachedSequence : JsMap Nat Nat := .empty

/-- What the environment decides about one call. -/
structure RelayChoice where
  /-- the call throws this -/
  throws : Option String := none
  dryRun : Bool := false
  hash : String := ""
  simulation : Simulation := .success
  /-- the network takes the envelope, whatever the caller is told -/
  reaches : Bool := true
  response : SendResponse := .sent
  code : String := "unknown"
deriving Repr, DecidableEq

namespace RelayWorld

/-- A reply that is the given value unless the environment makes the call throw. -/
def answer {α : Type} (choice : RelayChoice) (value : α) : Except RelayError α :=
  match choice.throws with
  | some message => .error (.error message)
  | none => .ok value

/-- One method of the outbox store, at the time of the world. -/
def performOutbox (w : RelayWorld) : (call : OutboxCall) → call.Reply × OutboxStore
  | .enqueue entry => w.outbox.enqueue entry w.now
  | .claimDue now limit leaseUntil => w.outbox.claimDue now limit leaseUntil
  | .findSubmitted limit => (w.outbox.findSubmitted limit, w.outbox)
  | .countByStatus => (w.outbox.countByStatus, w.outbox)
  | .recordEnvelope entry hash => w.outbox.recordEnvelope entry hash w.now
  | .markSubmitted entry hash => w.outbox.markSubmitted entry hash w.now
  | .markConfirmed entry hash => w.outbox.markConfirmed entry hash w.now
  | .markSimulated entry => w.outbox.markSimulated entry w.now
  | .scheduleRetry entry error next => w.outbox.scheduleRetry entry error next w.now
  | .markDead entry error => w.outbox.markDead entry error w.now
  | .release entry note next => w.outbox.release entry note next w.now
  | .requeueDead id => w.outbox.requeueDead id w.now

/-- The effect of one call. -/
def perform : (call : RelayCall) → RelayChoice → RelayWorld → Option (RelayReply call × RelayWorld)
  | .outbox call, _, w => some ((w.performOutbox call).1, { w with outbox := (w.performOutbox call).2 })
  | .now, _, w => some (w.now, w)
  -- The check and the assignment of the `running` flag are one synchronous step.
  | .beginTick worker, _, w =>
    if worker ∈ w.running then some (false, w)
    else some (true, { w with running := worker :: w.running })
  | .endTick worker, _, w => some ((), { w with running := w.running.erase worker })
  | .killSwitch, _, w => some (w.killSwitch, w)
  | .dryRun, choice, w => some (choice.dryRun, w)
  | .encode _, choice, w => some (answer choice (), w)
  -- The account is read only while nothing is cached, and only that read can throw.
  | .nextSequence worker, choice, w =>
    match w.cachedSequence.get worker, choice.throws with
    | none, some message => some (.error (.error message), w)
    | cached, _ =>
      let sequence := cached.getD w.network.accountSequence + 1
      some (.ok sequence, { w with cachedSequence := w.cachedSequence.set worker sequence })
  | .resetSequence worker, _, w =>
    some ((), { w with cachedSequence := w.cachedSequence.delete worker })
  -- A transaction carries the number after the one its account object holds.
  | .build row account, choice, w =>
    if choice.hash.isEmpty || (w.network.envelopes.get choice.hash).isSome then none
    else
      let envelope : Envelope := ⟨choice.hash, row, account + 1, w.now⟩
      some (choice.hash,
        { w with network.envelopes := w.network.envelopes.set choice.hash envelope })
  | .simulate _, choice, w => some (answer choice choice.simulation, w)
  | .prepare _, choice, w => some (answer choice (), w)
  | .sign _, choice, w => some (answer choice (), w)
  | .submit hash, choice, w =>
    some (answer choice choice.response,
      if choice.reaches then { w with network.accepted := hash :: w.network.accepted } else w)
  | .getTransaction hash, choice, w => some (answer choice (w.network.status hash choice.code), w)
  | .waiting _ deadline, _, w => some (decide (w.now < deadline), w)
  | .sleepUntil time, _, w => if time ≤ w.now then some ((), w) else none

/-- What happens without the workers: time passes, operators set switches, other code enqueues rows and
    uses the signing account, and the network closes ledgers. -/
inductive Drift where
  | tick (ms : Nat)
  | setKillSwitch (k : KillSwitch)
  | enqueue (entry : NewOutboxEntry)
  | bumpSequence
  | close (hash : String) (applied : Bool)
deriving Repr, DecidableEq

def drift : Drift → RelayWorld → Option RelayWorld
  | .tick ms, w => some { w with now := w.now + ms }
  | .setKillSwitch k, w => some { w with killSwitch := k }
  | .enqueue entry, w => some { w with outbox := (w.outbox.enqueue entry w.now).2 }
  | .bumpSequence, w =>
    some { w with network.accountSequence := w.network.accountSequence + 1 }
  | .close hash applied, w =>
    match w.network.close w.now hash applied with
    | some network => some { w with network }
    | none => none

end RelayWorld

end VortexBackend
