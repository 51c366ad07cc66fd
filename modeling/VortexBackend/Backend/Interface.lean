/-
Module: VortexBackend.Backend.Interface
Purpose: What the handlers and workers talk to. Every method of a store is one atomic step.
Trusted boundary: generated ids are new; signature checks, solver accounts, destination checks, token
  resolution, feature flags, contract calls, deposit verifiers and event delivery answer arbitrarily
Main exports: BackendCall, BackendWorld.perform
-/
import VortexBackend.Async.Service
import VortexBackend.Intents.Repository
import VortexBackend.Intents.StateMachine
import VortexBackend.Js.PromiseChain
import VortexBackend.KillSwitch.Evaluate
import VortexBackend.PartialFills.Repository
import VortexBackend.Solvers.PendingSlashes

namespace VortexBackend

/-- What a handler can throw: an HTTP exception with the fields of its body, an error of the state machine,
    an active pause, a `BigInt` that does not parse, or anything else. -/
inductive BackendError where
  | http (status : Nat) (error : String) (detail : List (String × String))
  | illegalTransition (illegal : IllegalTransition)
  | killSwitchActive (active : KillSwitchActive)
  | syntaxError
  | other (message : String) (rateLimited : Bool)
deriving Repr, DecidableEq

/-- An HTTP exception with a plain message. -/
def BackendError.plain (status : Nat) (message : String) : BackendError := .http status message []

/-- `err.message` -/
def BackendError.message : BackendError → String
  | .http _ error _ => error
  | .illegalTransition illegal => illegal.message
  | .killSwitchActive active => active.reason
  | .syntaxError => "Cannot convert to a BigInt"
  | .other message _ => message

/-! ### The stores -/

inductive IntentCall where
  | save (intent : Intent)
  | findById (id : String)
  | findAll
  | findByState (state : IntentState)
  | findByUser (user : String)
  | delete (id : String)
  | update (id : String) (patch : IntentPatch) (expectedVersion : Option Nat)
  | amendIfOpen (id minDstAmount : String) (deadline : Nat) (now : Option Nat)
  | acceptIfOpen (id solver : String) (newDeadline now : Nat)
  | fillIfAccepted (id solver : String) (patch : IntentPatch) (now : Nat)
  | extendDeadlineIfAccepted (id : String) (newDeadline : Nat)
  | cancelIfOpen (id : String)
  | expireIfOpen (id : String)
  | slashIfAccepted (id : String) (slashedAt : Nat) (slashReason : String)
  | transitionIf (id : String) («from» «to» : IntentState) (patch : IntentPatch)
deriving Repr, DecidableEq

@[reducible] def IntentCall.Reply : IntentCall → Type
  | .save _ => Intent
  | .findById _ => Option Intent
  | .findAll | .findByState _ | .findByUser _ => List Intent
  | .delete _ => Bool
  | .amendIfOpen .. => Option Intent
  | .update .. | .acceptIfOpen .. | .fillIfAccepted .. | .extendDeadlineIfAccepted .. | .cancelIfOpen _
  | .expireIfOpen _ | .slashIfAccepted .. | .transitionIf .. => MutationResult

/-- One method of the intent store; no caller passes a version except through `update`. An amendment without a
    time takes that of the call. -/
def IntentStore.perform (store : IntentStore) (clock : Nat) : (call : IntentCall) → call.Reply × IntentStore
  | .save intent => store.save intent
  | .findById id => (store.get id, store)
  | .findAll => (store.findAll, store)
  | .findByState state => (store.findByState state, store)
  | .findByUser user => (store.findByUser user, store)
  | .delete id => store.delete id
  | .update id patch expectedVersion => store.update id patch expectedVersion
  | .amendIfOpen id minDstAmount deadline now =>
    store.amendIfOpen id minDstAmount deadline (now.getD (clock / 1000))
  | .acceptIfOpen id solver newDeadline now => store.acceptIfOpen id solver newDeadline now none
  | .fillIfAccepted id solver patch now => store.fillIfAccepted id solver patch now none
  | .extendDeadlineIfAccepted id newDeadline => store.extendDeadlineIfAccepted id newDeadline none
  | .cancelIfOpen id => store.cancelIfOpen id none
  | .expireIfOpen id => store.expireIfOpen id none
  | .slashIfAccepted id slashedAt slashReason => store.slashIfAccepted id slashedAt slashReason none
  | .transitionIf id «from» «to» patch => store.transitionIf id «from» «to» patch

/-- The synchronous pieces of the tranche store. `enter`, `wait` and `leave` are the per-intent lock:
    `wait` is enabled once every earlier holder of the key has left. -/
inductive FillCall where
  | findById (fillId : String)
  | listByIntent (intentId : String)
  | findExpiredReservations (now limit : Nat)
  | insert (row : IntentFill)
  | markFilled (fillId solver : String) (patch : FillPatch)
  | markSlashed (fillId : String) (now : Nat)
  | markReleased (fillId : String) (now : Nat)
  | enter (key : String)
  | wait (ticket : Nat)
  | leave (key : String) (ticket : Nat)
deriving Repr, DecidableEq

@[reducible] def FillCall.Reply : FillCall → Type
  | .findById _ | .markFilled .. | .markSlashed .. | .markReleased .. => Option IntentFill
  | .listByIntent _ | .findExpiredReservations .. => List IntentFill
  | .insert _ => IntentFill
  | .enter _ => Nat
  | .wait _ | .leave .. => Unit

inductive SlashCall where
  | createIfAbsent (input : NewPendingSlash)
  | findByIntent (intentId : String)
  | findDue (now limit : Nat)
  | claim (intentId : String) (now leaseUntil : Nat)
  | transition (intentId : String) («from» : List PendingSlashState) (patch : PendingSlashPatch)
      (now : Option Nat)
deriving Repr, DecidableEq

@[reducible] def SlashCall.Reply : SlashCall → Type
  | .createIfAbsent _ => PendingSlash × Bool
  | .findByIntent _ => Option PendingSlash
  | .findDue .. => List PendingSlash
  | .claim .. => Bool
  | .transition .. => Option PendingSlash

def SlashStore.perform (store : SlashStore) (clock : Nat) : (call : SlashCall) → call.Reply × SlashStore
  | .createIfAbsent input => store.createIfAbsent input clock
  | .findByIntent intentId => (store.get intentId, store)
  | .findDue now limit => (store.findDue now limit, store)
  | .claim intentId now leaseUntil => store.claim intentId now leaseUntil
  | .transition intentId «from» patch now => store.transition intentId «from» patch now clock

/-! ### Penalties of solvers -/

/-- Whether an optimistic penalty was confirmed on the chain or taken back. -/
inductive PenaltyState where
  | pending
  | confirmed
  | failed
deriving Repr, DecidableEq

structure PendingPenalty where
  solverAddress : String
  state : PenaltyState
deriving Repr, DecidableEq

/-- The solver store, of whose records only `fillsFailed` is kept here, and `pendingPenalties`. -/
structure SolverBook where
  fillsFailed : JsMap String Nat := .empty
  penalties : JsMap String PendingPenalty := .empty

inductive SolverCall where
  | findByAddress (address : String)
  | save (address : String) (fillsFailed : Nat)
  | penalty (intentId : String)
  | setPenalty (intentId : String) (penalty : PendingPenalty)
deriving Repr, DecidableEq

@[reducible] def SolverCall.Reply : SolverCall → Type
  | .findByAddress _ => Option Nat
  | .save .. | .setPenalty .. => Unit
  | .penalty _ => Option PendingPenalty

def SolverBook.perform (book : SolverBook) : (call : SolverCall) → call.Reply × SolverBook
  | .findByAddress address => (book.fillsFailed.get address, book)
  | .save address fillsFailed => ((), { book with fillsFailed := book.fillsFailed.set address fillsFailed })
  | .penalty intentId => (book.penalties.get intentId, book)
  | .setPenalty intentId penalty => ((), { book with penalties := book.penalties.set intentId penalty })

/-! ### Idempotent creation -/

/-- Whether a caller found a creation in flight or starts it, and when. -/
inductive CreationClaim where
  | joined (ticket : Nat)
  | owner (ticket now : Nat)
deriving Repr, DecidableEq

/-- What a caller finds under its key: a completed creation, with the time of the look-up, or none. -/
inductive CreationLookup where
  | cached (intentId : String) (expiresAt now : Nat)
  | claimed (claim : CreationClaim)
deriving Repr, DecidableEq

/-- `idempotencyCache` and `idempotencyInFlight`. There is no `await` between reading the clock, the look-up of a
    completed creation and the claim, nor between dropping a completed creation and the claim, so each of these is
    one step; `result` awaits the promise of another caller. -/
inductive CreationCall where
  | lookup (key : String)
  | reclaim (key : String)
  | remember (key intentId : String) (expiresAt : Nat)
  | settle (key : String) (ticket : Nat) (outcome : Except BackendError Intent)
  | result (ticket : Nat)

@[reducible] def CreationCall.Reply : CreationCall → Type
  | .lookup _ => CreationLookup
  | .reclaim _ => CreationClaim
  | .remember .. | .settle .. => Unit
  | .result _ => Except BackendError Intent

structure CreationState where
  cache : JsMap String (String × Nat) := .empty
  inFlight : JsMap String Nat := .empty
  settled : JsMap Nat (Except BackendError Intent) := .empty
  next : Nat := 0

/-- Join the creation in flight, or start one. -/
def CreationState.claim (s : CreationState) (key : String) (now : Nat) : CreationClaim × CreationState :=
  match s.inFlight.get key with
  | some ticket => (.joined ticket, s)
  | none => (.owner s.next now, { s with inFlight := s.inFlight.set key s.next, next := s.next + 1 })

/-- A completed creation that has not expired, or a claim. -/
def CreationState.lookup (s : CreationState) (key : String) (now : Nat) : CreationLookup × CreationState :=
  match (s.cache.get key).filter (now < ·.2) with
  | some (intentId, expiresAt) => (.cached intentId expiresAt now, s)
  | none => (.claimed (s.claim key now).1, (s.claim key now).2)

def CreationState.perform (s : CreationState) (now : Nat) :
    (call : CreationCall) → Option (call.Reply × CreationState)
  | .lookup key => some (s.lookup key now)
  | .reclaim key => some (CreationState.claim { s with cache := s.cache.delete key } key now)
  | .remember key intentId expiresAt => some ((), { s with cache := s.cache.set key (intentId, expiresAt) })
  | .settle key ticket outcome =>
    some ((), { s with inFlight := s.inFlight.delete key, settled := s.settled.set ticket outcome })
  | .result ticket =>
    match s.settled.get ticket with
    | some outcome => some (outcome, s)
    | none => none

/-! ### Services outside the development -/

/-- The kinds of events that are broadcast. -/
inductive GatewayEvent where
  | created
  | accepted
  | filled
  | cancelled
  | expired
  | slashed
  | destinationInvalid
  | trancheReserved
  | partiallyFilled
  | trancheSlashed
  | slashCancelled
  | srcVerified
  | srcUnverified
deriving Repr, DecidableEq

structure Solver where
  isActive : Bool
  bondAmount : Option String
deriving Repr, DecidableEq

structure SlashResult where
  submitted : Bool
  failed : Bool
  txHash : Option String := none
  detail : String := ""
deriving Repr, DecidableEq

inductive TxCheckStatus where
  | success
  | failed
  | notFound
deriving Repr, DecidableEq

structure DepositCheck where
  status : SrcVerificationStatus
  blockNumber : Option String := none
  blockHash : Option String := none
  receivedAmount : Option String := none
  detail : Option String := none
deriving Repr, DecidableEq

inductive OnChainIntentState where
  | «open»
  | accepted
  | filled
  | cancelled
  | expired
  | slashed
  | unknown
deriving Repr, DecidableEq

/-- What the reconciler reads of the contract's record of an intent. -/
structure OnChainIntent where
  solver : Option String
  state : OnChainIntentState
  fillAmount : Option Int
deriving Repr, DecidableEq

/-- Why a destination cannot receive a delivery. -/
structure DestinationFailure where
  code : String
  detail : String
deriving Repr, DecidableEq

/-- `isOpen` is the callback that a caller of the tranche store passes to `reserve`; `storeWrite` says whether the
    store takes a new record, `storeAnswer` whether the round trip to a store works. -/
inductive ExternalCall where
  | isOpen (intentId : String)
  | isOnchainWrite (intentId : String) (chain : SupportedChain)
  | shouldObserve
  | invokeContract (op : PendingIntentOp) (intentId : String)
  | enqueueOutbox (intent : Intent)
  | storeWrite (intentId : String)
  | storeAnswer
  | verifySignature (publicKey message signature : String)
  | getSolver (address : String)
  | isSuspended (address : String)
  | checkDestination (user contract minDstAmount : String) (fresh : Bool)
  | resolveSrcToken (chain : SupportedChain) (address : String)
  | resolveDstToken (contract : String)
  | paramsVersion (chain : SupportedChain)
  | broadcast (event : GatewayEvent) (intentId : String)
  | recordSuccessfulFill (solver amount : String)
  | recordSlash (solver intentId reason : String) (now : Nat)
  | slashSolver (solver intentId reason : String)
  | findLandedFill (intentId : String) (fillDeadline latestAcceptable now : Nat)
  | verifyFillProof (txHash intentId : String) (latestAcceptable : Nat)
  | checkTx (txHash : String)
  | verifyDeposit (intent : Intent)
  | settlementConfigured
  | lastIntentUpdate (intentId : String)
  | getManyIntents (ids : List String)
deriving Repr, DecidableEq

/-- A call that may throw replies with an `Except`. -/
@[reducible] def ExternalCall.Reply : ExternalCall → Type
  | .isOpen _ => Except BackendError Bool
  | .isOnchainWrite .. | .shouldObserve | .isSuspended _ | .settlementConfigured => Bool
  | .invokeContract .. => Except BackendError String
  | .enqueueOutbox _ | .storeWrite _ | .storeAnswer | .verifySignature .. | .resolveSrcToken .. | .resolveDstToken _
  | .broadcast .. | .recordSuccessfulFill .. | .recordSlash .. =>
    Except BackendError Unit
  | .getSolver _ => Except BackendError (Option Solver)
  | .checkDestination .. => Except BackendError (Option DestinationFailure)
  | .paramsVersion _ => Nat
  | .slashSolver .. => Except BackendError SlashResult
  | .findLandedFill .. => Except BackendError (Option String)
  | .verifyFillProof .. => Except BackendError (Option String)
  | .checkTx _ => Except BackendError TxCheckStatus
  | .verifyDeposit _ => Except BackendError DepositCheck
  | .lastIntentUpdate _ => Option Nat
  | .getManyIntents _ => Except BackendError (List (String × OnChainIntent))

/-- What the environment decides about one call. -/
structure BackendChoice where
  /-- the call throws this -/
  throws : Option BackendError := none
  flag : Bool := false
  /-- a generated id or a transaction hash -/
  id : String := ""
  version : Nat := 0
  solver : Option Solver := none
  destination : Option DestinationFailure := none
  slash : SlashResult := ⟨false, false, none, ""⟩
  found : Option String := none
  tx : TxCheckStatus := .success
  deposit : DepositCheck := { status := .verified }
  lastUpdate : Option Nat := none
  chain : List (String × OnChainIntent) := []
deriving Inhabited

namespace BackendChoice

/-- A reply that is the given value unless the environment makes the call throw. -/
def reply {α : Type} (choice : BackendChoice) (value : α) : Except BackendError α :=
  match choice.throws with
  | some e => .error e
  | none => .ok value

def answer (choice : BackendChoice) : (call : ExternalCall) → call.Reply
  | .isOpen _ => choice.reply choice.flag
  | .isOnchainWrite .. | .shouldObserve | .isSuspended _ | .settlementConfigured => choice.flag
  | .invokeContract .. => choice.reply choice.id
  | .enqueueOutbox _ | .storeWrite _ | .storeAnswer | .verifySignature .. | .resolveSrcToken .. | .resolveDstToken _
  | .broadcast .. | .recordSuccessfulFill .. | .recordSlash .. =>
    choice.reply ()
  | .getSolver _ => choice.reply choice.solver
  | .checkDestination .. => choice.reply choice.destination
  | .paramsVersion _ => choice.version
  | .slashSolver .. => choice.reply choice.slash
  | .findLandedFill .. => choice.reply choice.found
  | .verifyFillProof .. => choice.reply choice.found
  | .checkTx _ => choice.reply choice.tx
  | .verifyDeposit _ => choice.reply choice.deposit
  | .lastIntentUpdate _ => choice.lastUpdate
  | .getManyIntents _ => choice.reply choice.chain

end BackendChoice

/-! ### The world -/

/-- When the deposit of an intent is checked next. -/
structure ScheduleEntry where
  attempts : Nat
  nextAt : Nat
deriving Repr, DecidableEq

/-- The state of the deposit verification worker. -/
inductive ScheduleCall where
  | get (intentId : String)
  | set (intentId : String) (entry : ScheduleEntry)
  | retain (intentIds : List String)
deriving Repr, DecidableEq

@[reducible] def ScheduleCall.Reply : ScheduleCall → Type
  | .get _ => Option ScheduleEntry
  | .set .. | .retain _ => Unit

/-- The background loops that skip a pass while another of theirs is running. -/
inductive Loop where
  | slashing (worker : Nat)
  | verification
deriving Repr, DecidableEq

inductive BackendCall where
  | intents (call : IntentCall)
  | fills (call : FillCall)
  | slashes (call : SlashCall)
  | solvers (call : SolverCall)
  | creation (call : CreationCall)
  | schedule (call : ScheduleCall)
  | external (call : ExternalCall)
  | now
  | newId
  | killSwitch
  | audit (intentId : String) (entry : IntentAuditEntry)
  | recordFill (row : SolverFillRecord)
  | beginLoop (loop : Loop)
  | endLoop (loop : Loop)

@[reducible] def BackendReply : BackendCall → Type
  | .intents call => call.Reply
  | .fills call => call.Reply
  | .slashes call => call.Reply
  | .solvers call => call.Reply
  | .creation call => call.Reply
  | .schedule call => call.Reply
  | .external call => call.Reply
  | .now => Nat
  | .newId => String
  | .killSwitch => KillSwitch
  | .audit .. | .recordFill _ | .endLoop _ => Unit
  | .beginLoop _ => Bool

/-- The state that all handlers and workers share; `clock` is in milliseconds. -/
structure BackendWorld where
  clock : Nat := 0
  intents : IntentStore := .empty
  fills : FillStore := .empty
  locks : PromiseChain String := .empty
  slashes : SlashStore := .empty
  solvers : SolverBook := {}
  creations : CreationState := {}
  schedule : JsMap String ScheduleEntry := .empty
  audit : JsMap String (List IntentAuditEntry) := .empty
  ledger : List SolverFillRecord := []
  killSwitch : KillSwitch := {}
  running : List Loop := []
  issued : List String := []

namespace BackendWorld

/-- One piece of the tranche store; a new row gets an id that no row has. -/
def performFill : (call : FillCall) → BackendChoice → BackendWorld → Option (call.Reply × BackendWorld)
  | .findById fillId, _, w => some (w.fills.get fillId, w)
  | .listByIntent intentId, _, w => some (w.fills.listByIntent intentId, w)
  | .findExpiredReservations now limit, _, w => some (w.fills.findExpiredReservations now limit, w)
  | .insert row, choice, w =>
    if fresh : w.fills.get choice.id = none then
      some ({ row with fillId := choice.id },
        { w with fills := w.fills.insert { row with fillId := choice.id } fresh })
    else none
  | .markFilled fillId solver patch, _, w =>
    let result := w.fills.markFilled fillId solver patch
    some (result.1, { w with fills := result.2 })
  | .markSlashed fillId now, _, w =>
    let result := w.fills.markSlashed fillId now
    some (result.1, { w with fills := result.2 })
  | .markReleased fillId now, _, w =>
    let result := w.fills.markReleased fillId now
    some (result.1, { w with fills := result.2 })
  | .enter key, _, w => some ((w.locks.enter key).1, { w with locks := (w.locks.enter key).2 })
  | .wait ticket, _, w => if w.locks.ready ticket then some ((), w) else none
  | .leave key ticket, _, w => some ((), { w with locks := w.locks.leave key ticket })

def performSchedule (schedule : JsMap String ScheduleEntry) :
    (call : ScheduleCall) → call.Reply × JsMap String ScheduleEntry
  | .get intentId => (schedule.get intentId, schedule)
  | .set intentId entry => ((), schedule.set intentId entry)
  | .retain intentIds =>
    ((), (schedule.entries.filter fun e => e.1 ∉ intentIds).foldl (fun s e => s.delete e.1) schedule)

/-- `record` of the ledger: at most one row for an intent and an outcome. -/
def recordFill (ledger : List SolverFillRecord) (row : SolverFillRecord) : List SolverFillRecord :=
  if ledger.any fun r => r.intentId == row.intentId && r.outcome == row.outcome then ledger
  else ledger ++ [row]

/-- The effect of one call. -/
def perform : (call : BackendCall) → BackendChoice → BackendWorld →
    Option (BackendReply call × BackendWorld)
  | .intents call, _, w =>
    some ((w.intents.perform w.clock call).1, { w with intents := (w.intents.perform w.clock call).2 })
  | .fills call, choice, w => w.performFill call choice
  | .slashes call, _, w =>
    some ((w.slashes.perform w.clock call).1, { w with slashes := (w.slashes.perform w.clock call).2 })
  | .solvers call, _, w =>
    some ((w.solvers.perform call).1, { w with solvers := (w.solvers.perform call).2 })
  | .creation call, _, w =>
    match w.creations.perform (w.clock / 1000) call with
    | some (reply, creations) => some (reply, { w with creations })
    | none => none
  | .schedule call, _, w =>
    some ((performSchedule w.schedule call).1, { w with schedule := (performSchedule w.schedule call).2 })
  | .external call, choice, w => some (choice.answer call, w)
  | .now, _, w => some (w.clock, w)
  | .newId, choice, w =>
    if choice.id ∈ w.issued ∨ (w.intents.get choice.id).isSome then none
    else some (choice.id, { w with issued := choice.id :: w.issued })
  | .killSwitch, _, w => some (w.killSwitch, w)
  | .audit intentId entry, _, w =>
    some ((), { w with audit := w.audit.set intentId ((w.audit.get intentId).getD [] ++ [entry]) })
  | .recordFill row, _, w => some ((), { w with ledger := recordFill w.ledger row })
  | .beginLoop loop, _, w =>
    if loop ∈ w.running then some (false, w) else some (true, { w with running := loop :: w.running })
  | .endLoop loop, _, w => some ((), { w with running := w.running.erase loop })

/-- Time passes and operators set switches. -/
inductive Drift where
  | tick (ms : Nat)
  | setKillSwitch (k : KillSwitch)
  /-- a restart, which loses the penalties kept in memory -/
  | losePenalties
deriving Repr, DecidableEq

def drift : Drift → BackendWorld → Option BackendWorld
  | .tick ms, w => some { w with clock := w.clock + ms }
  | .setKillSwitch k, w => some { w with killSwitch := k }
  | .losePenalties, w => some { w with solvers := { w.solvers with penalties := .empty } }

end BackendWorld

/-! ### Programs over the interface -/

/-- The configuration, and which optional services are wired. -/
structure BackendSettings where
  /-- seconds from accept to fill, and from creation to expiry -/
  fillWindow : SupportedChain → Nat := SupportedChain.fillWindow
  deadlineWindow : SupportedChain → Nat := SupportedChain.deadline
  settlementContractId : Option String := none
  fillLedger : Bool := false
  unitOfWork : Bool := false
  destinationPreflight : Bool := false
  depositVerificationEnabled : Bool := false
  /-- the chains that some deposit verifier supports -/
  verifiedChains : List SupportedChain := []
  partialFillsEnabled : Bool := true
  partialFillsOnchain : Bool := false
  canaryAddresses : List String := []
  challengeWindowSeconds : Nat := 600
  clockSkewToleranceSeconds : Nat := 30
  maxSubmitAttempts : Nat := 5
  staleSeconds : Nat := 300
  /-- `INTENTS_PERSISTENCE` is `memory` -/
  memoryPersistence : Bool := true
  onchainIntentsEnabled : Bool := false
  intentRetentionDays : Nat := 30
  dryRun : Bool := false

/-- An `async` function of the backend. -/
abbrev Backend (α : Type) := Async BackendReply BackendError α

namespace Backend

/-- Await one call. -/
def call (c : BackendCall) : Backend (BackendReply c) := Async.call c

def intents (c : IntentCall) : Backend c.Reply := call (.intents c)
def fills (c : FillCall) : Backend c.Reply := call (.fills c)
def solvers (c : SolverCall) : Backend c.Reply := call (.solvers c)
def creation (c : CreationCall) : Backend c.Reply := call (.creation c)
def schedule (c : ScheduleCall) : Backend c.Reply := call (.schedule c)
def external (c : ExternalCall) : Backend c.Reply := call (.external c)
def audit (intentId : String) (entry : IntentAuditEntry) : Backend Unit :=
  call (.audit intentId entry)
def recordFill (row : SolverFillRecord) : Backend Unit := call (.recordFill row)
def killSwitch : Backend KillSwitch := call .killSwitch
def newId : Backend String := call .newId
def nowMs : Backend Nat := call .now

/-- A store that may fail, before it has done its work or after. -/
def fallible {α : Type} (x : Backend α) : Backend α := do
  Async.attempt (external .storeAnswer)
  let value ← x
  Async.attempt (external .storeAnswer)
  pure value

def slashes (c : SlashCall) : Backend c.Reply := fallible (call (.slashes c))

/-- `Math.floor(Date.now() / 1000)` -/
def nowSeconds : Backend Nat := do
  let ms ← nowMs
  pure (ms / 1000)

/-- `BigInt(text)` and what is computed from it: throws when a text is not an integer. -/
def bigInt {α : Type} (value : Option α) : Backend α :=
  match value with
  | some n => pure n
  | none => throw .syntaxError

end Backend

end VortexBackend
