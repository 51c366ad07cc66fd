/-
Module: VortexBackend.Intents.Service
Purpose: `IntentsService`: creation, the guarded writes with their records, and parking for a chain write.
Trusted boundary: cache invalidation, deadline scheduling, metrics and shadow reports have no effect here; the
  price lookups of ledger rows cannot fail a write
Main exports: IntentsService.create, IntentsService.parkIfOnchain
-/
import VortexBackend.Backend.Interface

namespace VortexBackend.IntentsService

open Backend Async

variable (cfg : BackendSettings)

/-- `Partial<TransitionContext>` -/
structure ContextPatch where
  actor : Option String := none
  reason : Option String := none
  override : Option Bool := none
deriving Repr, DecidableEq

/-- `{ actor, reason, ...ctx }` -/
def ContextPatch.over (ctx : ContextPatch) (base : TransitionContext) : TransitionContext where
  actor := ctx.actor.getD base.actor
  reason := ctx.reason.or base.reason
  override := ctx.override.getD base.override

/-- `now ?? Math.floor(Date.now() / 1000)` -/
def orNow : Option Nat → Backend Nat
  | some now => pure now
  | none => nowSeconds

/-- Plan a move or throw `IllegalTransitionError`. -/
def plan (intentId : String) («from» «to» : IntentState) (ctx : TransitionContext) : Backend TransitionPlan :=
  match transition intentId «from» «to» ctx with
  | .ok p => pure p
  | .error illegal => throw (.illegalTransition illegal)

/-! ### Audit trail and fill ledger -/

def appendAuditEntry (intentId : String) (toState : IntentState) (actor reason : String) : Backend Unit :=
  audit intentId ⟨toState, actor, reason⟩

/-- The side effects of a plan whose conditional write won. -/
def recordTransition (p : TransitionPlan) (updated : Option Intent) : Backend Unit :=
  match updated with
  | some _ => audit p.intentId p.audit
  | none => pure ()

/-- `/^\d+$/` -/
def isDigits (text : String) : Bool := !text.isEmpty && text.toList.all Char.isDigit

def digitsOrZero (text : String) : String := if isDigits text then text else "0"

/-- The ledger row of a fill or a failure. -/
def buildFillRecord (intent : Intent) (solver : String) (outcome : SolverFillOutcome) (now : Nat) :
    SolverFillRecord where
  intentId := intent.intentId
  solver
  chain := intent.srcChain
  srcAmount := digitsOrZero intent.srcAmount
  dstAmount := if outcome = .filled then some (digitsOrZero (intent.fillAmount.getD "")) else none
  outcome
  createdAt := if outcome = .filled then intent.filledAt.getD now else intent.slashedAt.getD now

/-- Append the row of an intent that has a solver. -/
def recordOutcome (intent : Intent) (outcome : SolverFillOutcome) (now : Nat) : Backend Unit :=
  match intent.solver with
  | some solver => if solver.isEmpty then pure () else recordFill (buildFillRecord intent solver outcome now)
  | none => pure ()

/-- The ledger row of a write that won, when the ledger is wired. -/
def recordWritten (updated : Option Intent) (outcome : SolverFillOutcome) (now : Nat) : Backend Unit :=
  match updated with
  | some intent => if cfg.fillLedger then recordOutcome intent outcome now else pure ()
  | none => pure ()

/-- Run a transition and, when it wins, append its ledger row. -/
def withFillRecord (outcome : SolverFillOutcome) (now : Nat) (mutate : Backend MutationResult) :
    Backend (Option Intent) := do
  let result ← mutate
  recordWritten cfg result.toOption outcome now
  pure result.toOption

/-- The shadow report of cancel, expire and slash reads the record of a lost race. -/
def observe (id : String) (updated : Option Intent) : Backend Unit := do
  let observes : Bool ← external .shouldObserve
  if observes && updated.isNone then
    let _ ← intents (.findById id)
    pure ()
  else pure ()

/-! ### Pending markers -/

/-- `PENDING_STATE_BY_OP` -/
def PENDING_STATE_BY_OP : PendingIntentOp → IntentState
  | .create => .pendingOpen
  | .accept => .pendingAccepted
  | .fill => .pendingFilled
  | .cancel => .pendingCancelled

/-- `CONFIRMED_STATE_BY_PENDING` -/
def CONFIRMED_STATE_BY_PENDING : IntentState → Option IntentState
  | .pendingOpen => some .open
  | .pendingAccepted => some .accepted
  | .pendingFilled => some .filled
  | .pendingCancelled => some .cancelled
  | _ => none

/-- Park an intent in the pending state of `op`, planned from the state it is in now. -/
def transitionToOnChainPending (id : String) (op : PendingIntentOp) (txHash : Option String)
    (ctx : ContextPatch) : Backend (Option Intent) := do
  let stored : Option Intent ← intents (.findById id)
  match stored with
  | none => pure none
  | some intent =>
    let p ← plan intent.intentId intent.state (PENDING_STATE_BY_OP op) (ctx.over { actor := "system" })
    let result : MutationResult ← intents
      (.transitionIf id p.from p.to { pendingOp := some (some op), pendingTxHash := some txHash })
    recordTransition p result.toOption
    pure result.toOption

/-- Settle a pending marker back to its base state. -/
def confirmIntent (id : String) (ctx : ContextPatch) : Backend (Option Intent) := do
  let stored : Option Intent ← intents (.findById id)
  match stored with
  | none => pure none
  | some intent =>
    match CONFIRMED_STATE_BY_PENDING intent.state with
    | none => pure none
    | some confirmed =>
      let p ← plan intent.intentId intent.state confirmed (ctx.over { actor := "system" })
      let result : MutationResult ← intents
        (.transitionIf id p.from confirmed { pendingTxHash := some none, pendingOp := some none })
      recordTransition p result.toOption
      pure result.toOption

/-- Broadcast a committed write, best effort, then park the intent. -/
def parkWithBroadcast (intent : Intent) (op : PendingIntentOp) : Backend Intent := do
  let txHash : Option String ← tryCatch
    (do
      throwWhen cfg.settlementContractId.isNone
        (.other "SETTLEMENT_CONTRACT_ID is not configured" false)
      let hash ← attempt (external (.invokeContract op intent.intentId))
      pure (some hash))
    fun _ => pure none
  let parked ← transitionToOnChainPending intent.intentId op txHash {}
  pure (parked.getD intent)

/-- With the on-chain rollout on, a committed write is parked. -/
def parkIfOnchain (op : PendingIntentOp) (updated : Option Intent) : Backend (Option Intent) :=
  match updated with
  | none => pure none
  | some intent => do
    let onchain : Bool ← external (.isOnchainWrite intent.intentId intent.srcChain)
    if onchain then
      let parked ← parkWithBroadcast cfg intent op
      pure (some parked)
    else pure (some intent)

/-! ### Lifecycle writes -/

def get (id : String) : Backend (Option Intent) := intents (.findById id)

def getByState (state : IntentState) : Backend (List Intent) := intents (.findByState state)

def acceptIfOpen (id solver : String) (now : Option Nat) (ctx : ContextPatch) : Backend (Option Intent) := do
  let stored : Option Intent ← intents (.findById id)
  match stored with
  | none => pure none
  | some intent =>
    let nowSec ← orNow now
    let p ← plan id .open .accepted (ctx.over { actor := solver })
    let result : MutationResult ← intents
      (.acceptIfOpen id solver (nowSec + cfg.fillWindow intent.srcChain) nowSec)
    recordTransition p result.toOption
    let _ ← external .shouldObserve
    parkIfOnchain cfg .accept result.toOption

def fillIfAccepted (id solver : String) (patch : IntentPatch) (now : Option Nat) (ctx : ContextPatch) :
    Backend (Option Intent) := do
  let nowSec ← orNow now
  let p ← plan id .accepted .filled (ctx.over { actor := solver })
  let updated ← withFillRecord cfg .filled nowSec (intents (.fillIfAccepted id solver patch nowSec))
  recordTransition p updated
  let _ ← external .shouldObserve
  parkIfOnchain cfg .fill updated

/-- Settle a partial-fill intent through the two guarded edges. -/
def settlePartialFill (id solver : String) (patch : IntentPatch) (now : Nat) : Backend (Option Intent) := do
  let stored : Option Intent ← intents (.findById id)
  match stored with
  | none => pure none
  | some intent =>
    let accepted : MutationResult ← intents
      (.acceptIfOpen id solver (now + cfg.fillWindow intent.srcChain) now)
    match accepted.toOption with
    | none => pure none
    | some _ =>
      let filled : MutationResult ← intents (.fillIfAccepted id solver patch now)
      pure filled.toOption

def cancelIfOpen (id : String) (ctx : ContextPatch) : Backend (Option Intent) := do
  let p ← plan id .open .cancelled (ctx.over { actor := "system" })
  let result : MutationResult ← intents (.cancelIfOpen id)
  recordTransition p result.toOption
  observe id result.toOption
  parkIfOnchain cfg .cancel result.toOption

def expireIfOpen (id : String) (ctx : ContextPatch) : Backend (Option Intent) := do
  let p ← plan id .open .expired (ctx.over { actor := "system" })
  let result : MutationResult ← intents (.expireIfOpen id)
  recordTransition p result.toOption
  observe id result.toOption
  pure result.toOption

def slashIfAccepted (id : String) (slashedAt : Nat) (slashReason : String) (ctx : ContextPatch) :
    Backend (Option Intent) := do
  let p ← plan id .accepted .slashed (ctx.over { actor := "system", reason := some slashReason })
  let updated ← withFillRecord cfg .failed slashedAt (intents (.slashIfAccepted id slashedAt slashReason))
  recordTransition p updated
  observe id updated
  pure updated

/-- The two states that a slash can be compensated to. -/
inductive Compensation where
  | filled
  | expired
deriving Repr, DecidableEq

def Compensation.state : Compensation → IntentState
  | .filled => .filled
  | .expired => .expired

/-- The `reversed` row of a compensation, and the `filled` row of a fill that landed. -/
def recordCompensation (intent updated : Intent) («to» : Compensation) (now : Nat) : Backend Unit :=
  if !cfg.fillLedger then pure ()
  else do
    recordOutcome intent .reversed now
    if «to» = .filled then recordOutcome updated .filled now else pure ()

/-- Roll a slash back. -/
def compensateSlash (id : String) («to» : Compensation) (ctx : TransitionContext) (patch : IntentPatch)
    (now : Option Nat) : Backend (Option Intent) := do
  let nowSec ← orNow now
  let stored : Option Intent ← intents (.findById id)
  match stored with
  | none => pure none
  | some intent =>
    if intent.state ≠ .slashed then pure none
    else
      let p ← plan intent.intentId intent.state «to».state { ctx with override := true }
      let result : MutationResult ← intents (.transitionIf id .slashed «to».state patch)
      match result.toOption with
      | none => pure none
      | some updated =>
        recordCompensation cfg intent updated «to» nowSec
        recordTransition p (some updated)
        pure (some updated)

def extendDeadlineIfAccepted (id : String) (newDeadline : Nat) : Backend (Option Intent) := do
  let result : MutationResult ← intents (.extendDeadlineIfAccepted id newDeadline)
  pure result.toOption

def amendIfOpen (id minDstAmount : String) (deadline : Nat) (now : Option Nat) :
    Backend (Option Intent) :=
  intents (.amendIfOpen id minDstAmount deadline now)

def update (id : String) (patch : IntentPatch) (expectedVersion : Option Nat) : Backend (Option Intent) := do
  let result : MutationResult ← intents (.update id patch expectedVersion)
  pure result.toOption

/-- Re-read and mutate until the write is not refused for its version; `mutate` may give up. -/
def mutateWithRetry (id : String) (mutate : Intent → Option (Backend MutationResult)) :
    Nat → MutationResult → Backend MutationResult
  | 0, last => pure last
  | attempts + 1, _ => do
    let stored : Option Intent ← intents (.findById id)
    match stored with
    | none => pure .missed
    | some current =>
      match mutate current with
      | none => pure .missed
      | some pending =>
        let last ← pending
        match last with
        | .versionConflict .. => mutateWithRetry id mutate attempts last
        | _ => pure last

/-- `MAX_VERSION_RETRIES` -/
def MAX_VERSION_RETRIES : Nat := 3

/-! ### Creation -/

/-- Whether a new intent starts verified, and why. -/
def initialSrcVerification (srcChain : SupportedChain) (now : Nat) : Bool × SrcVerification :=
  if !cfg.depositVerificationEnabled then
    (true, { status := .skipped, checkedAt := now, detail := some "deposit verification disabled" })
  else if srcChain = .stellar then
    (true, { status := .skipped, checkedAt := now, detail := some "non-EVM source chain" })
  else (false, { status := .pending, checkedAt := now })

variable (data : NewIntentData)

/-- The record of a new intent. -/
def newIntent (id : String) (now version : Nat) : Intent where
  intentId := id
  user := data.user
  srcChain := data.srcChain
  srcToken := data.srcToken
  srcAmount := data.srcAmount
  dstToken := data.dstToken
  minDstAmount := data.minDstAmount
  createdAt := now
  deadline := data.deadline
  paramsVersion := some version
  srcVerified := some (initialSrcVerification cfg data.srcChain now).1
  srcVerification := some (initialSrcVerification cfg data.srcChain now).2
  allowPartialFill := data.allowPartialFill
  minFillAmount := data.minFillAmount

/-- `new ServiceUnavailableException(..)` of a missing contract id. -/
def contractNotConfigured : BackendError :=
  .plain 503 "On-chain intent registration is enabled but SETTLEMENT_CONTRACT_ID is not configured"

/-- Queue the registration of an intent on the outbox. -/
def enqueueOnchain (intent : Intent) : Backend Unit := do
  throwWhen cfg.settlementContractId.isNone contractNotConfigured
  attempt (external (.enqueueOutbox intent))

/-- Register an intent with the contract and return the transaction hash. -/
def registerOnChain (intent : Intent) : Backend String := do
  throwWhen cfg.settlementContractId.isNone contractNotConfigured
  tryCatch (attempt (external (.invokeContract .create intent.intentId))) fun _ =>
    throw (.plain 503 "Failed to register intent with the settlement contract")

/-- Save a record, unless the store refuses it, and return it. -/
def save (intent : Intent) : Backend Intent := do
  attempt (external (.storeWrite intent.intentId))
  let _ ← intents (.save intent)
  pure intent

/-- Build, register if the rollout says so, and save a new intent; `now` is its creation time. -/
def persistNewIntentAt (now : Nat) : Backend Intent := do
  let version : Nat ← external (.paramsVersion data.srcChain)
  let id ← newId
  let intent := newIntent cfg data id now version
  let onchain : Bool ← external (.isOnchainWrite intent.intentId intent.srcChain)
  if onchain then
    if cfg.unitOfWork then
      let pending := { intent with state := .pendingOpen, pendingOp := some .create }
      enqueueOnchain cfg pending
      save pending
    else
      let txHash ← registerOnChain cfg intent
      save { intent with state := .pendingOpen, pendingOp := some .create, pendingTxHash := some txHash }
  else save intent

def persistNewIntent : Backend Intent := do
  let now ← nowSeconds
  persistNewIntentAt cfg data now

/-- `IDEMPOTENCY_TTL_SECONDS` -/
def IDEMPOTENCY_TTL_SECONDS : Nat := 86400

/-- The creation of a caller that found none in flight: remember a success, counted from the time `now` of the call,
    and settle the promise either way. The record is created at the time of the claim. -/
def runCreation (key : String) (now createdAt ticket : Nat) : Backend Intent :=
  tryCatch
    (do
      let intent ← persistNewIntentAt cfg data createdAt
      creation (.remember key intent.intentId (now + IDEMPOTENCY_TTL_SECONDS))
      creation (.settle key ticket (.ok intent))
      pure intent)
    fun e => do
      creation (.settle key ticket (.error e))
      throw e

/-- A caller whose claim is decided; `now` is when it looked its key up, if that was before the claim. -/
def createClaimed (key : String) (now : Option Nat) : CreationClaim → Backend Intent
  | .joined ticket => attempt (creation (.result ticket))
  | .owner ticket createdAt => runCreation cfg data key (now.getD createdAt) createdAt ticket

def create (idempotencyKey : Option String) : Backend Intent :=
  match idempotencyKey.filter (!·.isEmpty) with
  | none => persistNewIntent cfg data
  | some key => do
    let found : CreationLookup ← creation (.lookup key)
    match found with
    | .claimed claim => createClaimed cfg data key none claim
    | .cached intentId _ now =>
      let stored : Option Intent ← intents (.findById intentId)
      match stored with
      | some intent => pure intent
      | none =>
        -- The entry outlived its intent.
        let claim : CreationClaim ← creation (.reclaim key)
        createClaimed cfg data key (some now) claim

/-! ### The cap on standing intents, and batches -/

def MAX_OPEN_INTENTS_PER_USER : Nat := 50

/-- Open and accepted, with their pending variants. -/
def isStanding (intent : Intent) : Bool :=
  intent.state == .open || intent.state == .accepted || intent.state == .pendingOpen ||
    intent.state == .pendingAccepted

/-- The standing intents of a user. -/
def countOpenByUser (user : String) : Backend Nat := do
  let found : List Intent ← intents (.findByUser user)
  pure (found.countP isStanding)

structure BatchError where
  index : Nat
  field : String
  code : Option String := none
  message : String
deriving Repr, DecidableEq

/-- The message of both creation paths. -/
def capReached : String :=
  s!"Open-intent cap reached — max {MAX_OPEN_INTENTS_PER_USER} open/accepted intents per user"

/-- `userOpenCounts`, with the count of the user of an item. -/
def withStanding (counts : JsMap String Nat) (user : String) : Backend (JsMap String Nat) :=
  if (counts.get user.toLower).isSome then pure counts
  else do
    let standing ← countOpenByUser user
    pure (counts.set user.toLower standing)

/-- The check of one item of a batch, after the items before it. -/
def checkBatchItem (checked : List BatchError × JsMap String Nat) (item : NewIntentData × Nat) :
    Backend (List BatchError × JsMap String Nat) := do
  let user := item.1.user.toLower
  if user.isEmpty then
    pure (checked.1 ++ [{ index := item.2, field := "user", message := "User address is required" }], checked.2)
  else
    let counts ← withStanding checked.2 item.1.user
    let currentCount := (counts.get user).getD 0
    if MAX_OPEN_INTENTS_PER_USER < currentCount + 1 then
      pure (checked.1 ++ [{ index := item.2, field := "user", message := capReached }], counts)
    else pure (checked.1, counts.set user (currentCount + 1))

/-- Check every item, then create them one by one. -/
def createBatch (items : List NewIntentData) : Backend (List Intent × List BatchError) := do
  let (errors, _) ← onEachWith checkBatchItem ([], .empty) items.zipIdx
  if !errors.isEmpty then pure ([], errors)
  else
    let created ← onEachWith (fun created item => do
      let intent ← persistNewIntent cfg item
      pure (created ++ [intent])) [] items
    pure (created, [])

/-! ### Eviction -/

/-- `TERMINAL_STATES` -/
def TERMINAL_STATES : List IntentState := [.filled, .cancelled, .expired, .slashed]

/-- A terminal intent that is older than the retention. -/
def isEvictable (cutoff : Int) (intent : Intent) : Bool :=
  intent.state ∈ TERMINAL_STATES && (intent.filledAt.getD intent.createdAt : Int) ≤ cutoff

/-- Delete the terminal intents of the in-memory store that are older than the retention. -/
def evictTerminalIntents : Backend Nat :=
  if !cfg.memoryPersistence || cfg.onchainIntentsEnabled then pure 0
  else do
    let now ← nowSeconds
    let cutoff := (now : Int) - cfg.intentRetentionDays * 86400
    let all : List Intent ← intents .findAll
    onEachWith (fun evicted intent => do
      let removed : Bool ← intents (.delete intent.intentId)
      pure (if removed then evicted + 1 else evicted)) 0 (all.filter (isEvictable cutoff))

/-- The `intents.store-size` job. -/
def logStoreSize : Backend Unit := do
  let _ ← evictTerminalIntents cfg
  let _ ← intents .findAll
  pure ()

end VortexBackend.IntentsService
