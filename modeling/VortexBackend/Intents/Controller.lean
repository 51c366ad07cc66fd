/-
Module: VortexBackend.Intents.Controller
Purpose: The handlers of the routes that write, with their errors, and what the validation of bodies promises.
Trusted boundary: route guards (but see KillSwitch.Guard), throttling and the read routes are left out;
  a broadcast that is not awaited has no effect here
Main exports: IntentsController, IntentFillsController
-/
import VortexBackend.Intents.Sweeper

namespace VortexBackend

open Backend Async BigInt

/-! ### Bodies -/

structure CreateIntentDto where
  user : String
  srcChain : SupportedChain
  srcTokenAddress : String
  srcTokenSymbol : String
  srcTokenDecimals : Nat
  srcAmount : String
  dstTokenContract : String
  dstTokenSymbol : String
  dstTokenDecimals : Nat
  minDstAmount : String
  deadline : Option Nat := none
  idempotencyKey : Option String := none
  allowPartialFill : Option Bool := none
  minFillAmount : Option String := none
deriving Repr, DecidableEq

structure AcceptIntentDto where
  solver : String
  signature : String
deriving Repr, DecidableEq

structure FillIntentDto where
  solver : String
  fillAmount : String
  txHash : Option String := none
  signature : String
deriving Repr, DecidableEq

structure CancelIntentDto where
  user : String
  signature : String
deriving Repr, DecidableEq

structure AmendIntentDto where
  user : String
  minDstAmount : String
  deadline : Nat
  signature : String
deriving Repr, DecidableEq

structure ReserveTrancheDto where
  solver : String
  amount : String
  signature : String
deriving Repr, DecidableEq

structure FillTrancheDto where
  solver : String
  dstAmount : String
  txHash : Option String := none
  signature : String
deriving Repr, DecidableEq

/-- `/^[1-9]\d*$/` -/
def isPositiveDigits (text : String) : Bool :=
  IntentsService.isDigits text && text.toList.head? != some '0'

/-- What the validation of the bodies says about amounts. -/
def CreateIntentDto.valid (dto : CreateIntentDto) : Bool :=
  IntentsService.isDigits dto.srcAmount && IntentsService.isDigits dto.minDstAmount &&
    dto.minFillAmount.all isPositiveDigits

def FillIntentDto.valid (dto : FillIntentDto) : Bool := IntentsService.isDigits dto.fillAmount
def AmendIntentDto.valid (dto : AmendIntentDto) : Bool := IntentsService.isDigits dto.minDstAmount
def ReserveTrancheDto.valid (dto : ReserveTrancheDto) : Bool := isPositiveDigits dto.amount
def FillTrancheDto.valid (dto : FillTrancheDto) : Bool := IntentsService.isDigits dto.dstAmount

/-! ### Signed messages -/

def buildCancelMessage (intentId : String) : String := s!"cancel:{intentId}"

def buildAmendMessage (intentId user minDstAmount : String) (deadline : Nat) : String :=
  s!"amend:{intentId}:{user}:{minDstAmount}:{deadline}"

def buildAcceptMessage (intentId solver : String) : String := s!"accept:{intentId}:{solver}"

def buildFillMessage (intentId solver : String) : String := s!"fill:{intentId}:{solver}"

def buildReserveMessage (intentId solver amount : String) : String := s!"reserve:{intentId}:{solver}:{amount}"

def buildTrancheFillMessage (intentId fillId solver dstAmount : String) : String :=
  s!"fill-tranche:{intentId}:{fillId}:{solver}:{dstAmount}"

def verifyStellarSignature (publicKey message signature : String) : Backend Unit :=
  attempt (external (.verifySignature publicKey message signature))

/-! ### Shared checks -/

/-- Load an intent or answer 404. -/
def loadIntent (id : String) : Backend Intent := do
  let stored ← IntentsService.get id
  match stored with
  | some intent => pure intent
  | none => throw (.plain 404 "Intent not found")

/-- Evaluate the pauses for the chain and the token of a loaded intent. -/
def assertIntentNotPaused (intent : Intent) (operation : KillSwitchOperation) : Backend Unit := do
  let k ← killSwitch
  match assertNotPaused k (IntentsSweeper.switchTarget intent operation) with
  | .ok _ => pure ()
  | .error active => throw (.killSwitchActive active)

/-- Is the user or the solver of the intent a canary address? -/
def isCanaryIntent (intent : Intent) (canaryAddresses : List String) : Bool :=
  canaryAddresses.contains intent.user ||
    intent.solver.any fun solver => !solver.isEmpty && canaryAddresses.contains solver

/-- A registered, bonded solver that is not suspended, and of the same kind as the intent. -/
def assertSolverEligible (cfg : BackendSettings) (intent : Intent) (address pairing : String) : Backend Unit := do
  let solver ← attempt (external (.getSolver address))
  match solver.filter (·.isActive) with
  | none => throw (.plain 403 "Solver not registered or inactive")
  | some registered =>
    let bond ← bigInt (parse (registered.bondAmount.getD "0"))
    throwWhen (bond ≤ 0) (.plain 403 "Solver has insufficient bond")
    let suspended : Bool ← external (.isSuspended address)
    throwWhen suspended (.plain 403 "Solver is suspended by an active guardian action")
    throwWhen (isCanaryIntent intent cfg.canaryAddresses != cfg.canaryAddresses.contains address)
      (.plain 403 pairing)

/-- The error of a destination that cannot receive the delivery. -/
def destinationError (failure : DestinationFailure) : BackendError :=
  .http 422 failure.detail [("code", failure.code)]

/-- `destinationPreflight?.assertDeliverable` -/
def assertDeliverable (cfg : BackendSettings) (user contract minDstAmount : String) (fresh : Bool) :
    Backend Unit :=
  if !cfg.destinationPreflight then pure ()
  else do
    let failure ← attempt (external (.checkDestination user contract minDstAmount fresh))
    match failure with
    | none => pure ()
    | some failure => throw (destinationError failure)

/-- `current?.state ?? "unknown"` -/
def stateName (current : Option Intent) : String := (current.map (·.state.name)).getD "unknown"

namespace IntentsController

variable (cfg : BackendSettings)

/-! ### Create -/

/-- The partial-fill terms of a body. -/
def partialFillTerms (dto : CreateIntentDto) : Backend (Option Bool × Option String) :=
  if dto.allowPartialFill ≠ some true then do
    throwWhen dto.minFillAmount.isSome (.plain 400 "minFillAmount requires allowPartialFill: true")
    pure (none, none)
  else do
    throwWhen (!cfg.partialFillsEnabled) (.plain 400 "Partial fills are disabled on this deployment")
    let minFill := dto.minFillAmount.getD "1"
    let minimum ← bigInt (parse minFill)
    let amount ← bigInt (parse dto.srcAmount)
    throwWhen (amount < minimum) (.plain 400 "minFillAmount may not exceed srcAmount")
    pure (some true, some minFill)

/-- What the body asks the service to create. -/
def intentData (dto : CreateIntentDto) (terms : Option Bool × Option String) (now : Nat) : NewIntentData where
  user := dto.user
  srcChain := dto.srcChain
  srcToken := ⟨dto.srcTokenAddress, dto.srcTokenSymbol, dto.srcTokenDecimals⟩
  srcAmount := dto.srcAmount
  dstToken := ⟨dto.dstTokenContract, dto.dstTokenSymbol, dto.dstTokenDecimals⟩
  minDstAmount := dto.minDstAmount
  deadline := dto.deadline.getD (now + cfg.deadlineWindow dto.srcChain)
  allowPartialFill := terms.1
  minFillAmount := terms.2

def create (dto : CreateIntentDto) : Backend IntentView := do
  let now ← nowSeconds
  let openCount ← IntentsService.countOpenByUser dto.user
  throwWhen (IntentsService.MAX_OPEN_INTENTS_PER_USER ≤ openCount)
    (.plain 409 IntentsService.capReached)
  attempt (external (.resolveSrcToken dto.srcChain dto.srcTokenAddress))
  attempt (external (.resolveDstToken dto.dstTokenContract))
  let terms ← partialFillTerms cfg dto
  assertDeliverable cfg dto.user dto.dstTokenContract dto.minDstAmount false
  let intent ← IntentsService.create cfg (intentData cfg dto terms now) dto.idempotencyKey
  PartialFillService.withProgress intent

/-! ### Batch create -/

def BATCH_CREATE_MAX_INTENTS : Nat := 50

/-- The tokens and the terms of one item. -/
def batchItem (now : Nat) (items : List NewIntentData) (dto : CreateIntentDto) : Backend (List NewIntentData) := do
  attempt (external (.resolveSrcToken dto.srcChain dto.srcTokenAddress))
  attempt (external (.resolveDstToken dto.dstTokenContract))
  let terms ← partialFillTerms cfg dto
  pure (items ++ [intentData cfg dto terms now])

variable (errors : List IntentsService.BatchError)

/-- The destination of one item. -/
def preflightItem (item : NewIntentData × Nat) : Backend (List IntentsService.BatchError) := do
  let failure ← attempt
    (external (.checkDestination item.1.user item.1.dstToken.contract item.1.minDstAmount false))
  match failure with
  | none => pure errors
  | some failure =>
    pure (errors ++ [{ index := item.2, field := "user", code := some failure.code, message := failure.detail }])

/-- Check every destination before anything is written. -/
def preflightBatch (items : List NewIntentData) : Backend (List IntentsService.BatchError) :=
  if cfg.destinationPreflight then onEachWith preflightItem [] items.zipIdx else pure []

/-- The exception with the errors of the items. -/
def batchError : BackendError :=
  .http 422 "Batch intent creation failed validation" (errors.flatMap fun e =>
    [("index", toString e.index), ("field", e.field), ("code", e.code.getD ""), ("message", e.message)])

def batchCreate (dtos : List CreateIntentDto) : Backend (List Intent) := do
  throwWhen dtos.isEmpty (.plain 400 "Intents array must contain at least 1 item")
  throwWhen (BATCH_CREATE_MAX_INTENTS < dtos.length)
    (.plain 400 s!"Batch size exceeds maximum allowed limit of {BATCH_CREATE_MAX_INTENTS}")
  let now ← nowSeconds
  let items ← onEachWith (batchItem cfg now) [] dtos
  let preflightErrors ← preflightBatch cfg items
  throwWhen (!preflightErrors.isEmpty) (batchError preflightErrors)
  let (created, errors) ← IntentsService.createBatch cfg items
  throwWhen (!errors.isEmpty) (batchError errors)
  pure created

/-! ### Accept -/

variable (intent : Intent)

/-- Re-check the destination before an accept; a failure is audited and broadcast. -/
def assertDestinationStillDeliverable : Backend Unit :=
  if !cfg.destinationPreflight then pure ()
  else do
    let failure ← attempt
      (external (.checkDestination intent.user intent.dstToken.contract intent.minDstAmount true))
    match failure with
    | none => pure ()
    | some failure =>
      IntentsService.appendAuditEntry intent.intentId intent.state "system" "destination preflight failed"
      attempt (external (.broadcast .destinationInvalid intent.intentId))
      throw (destinationError failure)

/-- The answer to a solver whose accept lost. -/
def acceptRefused (id : String) : Backend IntentView := do
  let current ← IntentsService.get id
  match current with
  | none => throw (.plain 404 "Intent not found")
  | some intent =>
    let now ← nowSeconds
    throwWhen (intent.deadline ≤ now) (.plain 410 "Intent has expired")
    let state := intent.state.name
    throw (.plain 409 s!"Intent is {state}, cannot accept")

def accept (id : String) (dto : AcceptIntentDto) : Backend IntentView := do
  let intent ← loadIntent id
  assertIntentNotPaused intent .accept
  throwWhen intent.partialFills
    (.plain 409 "Intent allows partial fills — reserve a tranche via POST /intents/:id/reservations")
  let now ← nowSeconds
  if intent.deadline ≤ now then
    let _ ← IntentsService.expireIfOpen id {}
    throw (.plain 410 "Intent has expired")
  else
    verifyStellarSignature dto.solver (buildAcceptMessage id dto.solver) dto.signature
    assertSolverEligible cfg intent dto.solver
      "Canary intents may only be accepted by canary solvers, and vice versa"
    assertDestinationStillDeliverable cfg intent
    let updated ← IntentsService.acceptIfOpen cfg id dto.solver (some now) {}
    match updated with
    | none => acceptRefused id
    | some intent => pure { intent }

/-! ### Fill -/

/-- `parseBaseUnits` -/
def parseBaseUnits (text : String) : Backend Int :=
  match decimal (trim text.toList) with
  | some n => pure (n : Int)
  | none => throw (.other "invalid base-unit amount" false)

/-- The reported amount is at least the minimum of the intent the handler read. -/
def assertFillAmount (fillAmount : String) : Backend Unit := do
  let amount ← parseBaseUnits fillAmount
  match parse intent.minDstAmount with
  | none =>
    throw (.http 400 "Data integrity error: intent minDstAmount is not a valid integer"
      [("intentId", intent.intentId), ("minDstAmount", intent.minDstAmount)])
  | some minimum =>
    throwWhen (amount < minimum) (.http 400 "Fill amount below minimum"
      [("fillAmount", fillAmount), ("minDstAmount", intent.minDstAmount)])

/-- The answer to a solver whose fill lost. -/
def fillRefused (id solver : String) : Backend IntentView := do
  let current ← IntentsService.get id
  throwWhen (current.bind (·.solver) != some solver) (.plain 403 "Wrong solver for this intent")
  let state := stateName current
  throw (.plain 409 s!"Intent is {state}, cannot fill")

/-- What a fill writes. -/
def fillPatch (dto : FillIntentDto) (feeAmount : Int) (now : Nat) : IntentPatch where
  filledAt := some (some now)
  fillAmount := some (some dto.fillAmount)
  feeAmount := some (some (toText feeAmount))
  txHash := some dto.txHash

def fill (id : String) (dto : FillIntentDto) : Backend IntentView := do
  let intent ← loadIntent id
  assertIntentNotPaused intent .fill
  throwWhen intent.partialFills (.plain 409
    "Intent allows partial fills — fill a reserved tranche via POST /intents/:id/reservations/:fillId/fill")
  let now ← nowSeconds
  throwWhen (intent.deadline ≤ now) (.plain 410 "Fill window has expired")
  verifyStellarSignature dto.solver (buildFillMessage id dto.solver) dto.signature
  assertFillAmount intent dto.fillAmount
  let amount ← bigInt (parse dto.fillAmount)
  let updated ← IntentsService.fillIfAccepted cfg id dto.solver
    (fillPatch dto (PartialFillService.protocolFee amount) now) none {}
  match updated with
  | none => fillRefused id dto.solver
  | some intent =>
    attempt (external (.recordSuccessfulFill dto.solver dto.fillAmount))
    pure { intent }

/-! ### Cancel and amend -/

/-- Only the creator of an intent may change it. -/
def assertCreator (user : String) : Backend Unit :=
  throwWhen (intent.user.toLower != user.toLower) (.plain 403 "Unauthorized")

/-- The answer to a user whose cancel lost. -/
def cancelRefused (id : String) : Backend IntentView := do
  let current ← IntentsService.get id
  let state := stateName current
  throw (.plain 409 s!"Cannot cancel intent in state: {state}")

/-- An ordinary cancel of a partial-fill intent is audited here; a settlement has its own entry. -/
def auditCancel (id user : String) (settled : Bool) : Backend Unit :=
  if settled then pure () else IntentsService.appendAuditEntry id .cancelled user "user cancelled"

/-- The cancel of a partial-fill intent. -/
def cancelPartial (id user : String) : Backend IntentView := do
  let now ← nowSeconds
  let (outcome, settled) ← PartialFillService.cancelRemainder cfg intent user now
  match outcome with
  | none => cancelRefused id
  | some view =>
    auditCancel id user settled
    PartialFillService.withProgress view.intent

def cancel (id : String) (dto : CancelIntentDto) : Backend IntentView := do
  let intent ← loadIntent id
  assertCreator intent dto.user
  let state := intent.state.name
  throwWhen (intent.state != .open) (.plain 409 s!"Cannot cancel intent in state: {state}")
  verifyStellarSignature dto.user (buildCancelMessage id) dto.signature
  if intent.partialFills then cancelPartial cfg intent id dto.user
  else
    let updated ← IntentsService.cancelIfOpen cfg id
      { actor := some dto.user, reason := some "user cancelled" }
    match updated with
    | none => cancelRefused id
    | some intent => pure { intent }

def amend (id : String) (dto : AmendIntentDto) : Backend IntentView := do
  let intent ← loadIntent id
  assertCreator intent dto.user
  verifyStellarSignature dto.user (buildAmendMessage id dto.user dto.minDstAmount dto.deadline) dto.signature
  let amended ← IntentsService.amendIfOpen id dto.minDstAmount dto.deadline none
  match amended with
  | none =>
    let current ← IntentsService.get id
    let state := stateName current
    throw (.plain 409 s!"Cannot amend intent in state: {state}")
  | some intent =>
    IntentsService.appendAuditEntry id .open dto.user "user amended"
    pure { intent }

end IntentsController

namespace IntentFillsController

variable (cfg : BackendSettings)

def reserve (id : String) (dto : ReserveTrancheDto) : Backend (IntentFill × IntentView) := do
  let intent ← loadIntent id
  assertIntentNotPaused intent .accept
  verifyStellarSignature dto.solver (buildReserveMessage id dto.solver dto.amount) dto.signature
  assertSolverEligible cfg intent dto.solver
    "Canary intents may only be reserved by canary solvers, and vice versa"
  assertDeliverable cfg intent.user intent.dstToken.contract intent.minDstAmount true
  let now ← nowSeconds
  PartialFillService.reserve cfg intent dto.solver dto.amount now

def fill (id fillId : String) (dto : FillTrancheDto) : Backend PartialFillService.TrancheFilled := do
  let intent ← loadIntent id
  assertIntentNotPaused intent .fill
  verifyStellarSignature dto.solver (buildTrancheFillMessage id fillId dto.solver dto.dstAmount) dto.signature
  let now ← nowSeconds
  PartialFillService.fillTranche cfg intent fillId dto.solver dto.dstAmount dto.txHash now

end IntentFillsController

end VortexBackend
