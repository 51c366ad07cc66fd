/-
Module: VortexBackend.Soroban.FillVerifier
Purpose: `FillVerifierService`: the check of a fill's payments, and the scan for a fill that landed in time.
Trusted boundary: the contract ids of classic assets come from the Stellar library; a topic is what it decodes to;
  close times are given in milliseconds
Main exports: FillVerifier.verify, findLandedFill
-/
import VortexBackend.Intents.Types
import VortexBackend.Js.Decimal

namespace VortexBackend.FillVerifier

/-! ### Horizon -/

/-- A structured verdict on a submitted fill transaction. -/
inductive FillVerificationVerdict where
  | verified (deliveredAmount operation : String)
  | pending (reason : String)
  | rejected (reason : String)
deriving Repr, DecidableEq

structure HorizonTransaction where
  successful : Option Bool := none
  memoType : Option String := none
  memo : Option String := none
  operationsHref : Option String := none
deriving Repr, DecidableEq

/-- The fields of an operation that are read; an amount that is not a string counts as absent. -/
structure HorizonOperation where
  type : String
  sourceAccount : Option String := none
  «to» : Option String := none
  assetType : Option String := none
  assetCode : Option String := none
  assetIssuer : Option String := none
  amount : Option String := none
  destinationAmount : Option String := none
deriving Repr, DecidableEq

/-- The answer to a request; a body that does not parse is absent. -/
structure HorizonResponse (α : Type) where
  statusCode : Nat
  body : Option α
deriving Repr, DecidableEq

/-- The body of a response with a 2xx status. -/
def HorizonResponse.success {α : Type} (response : HorizonResponse α) : Option α :=
  if response.statusCode < 200 ∨ 300 ≤ response.statusCode then none else response.body

/-- A classic asset. -/
inductive StellarAsset where
  | native
  | issued (code issuer : String)
deriving Repr, DecidableEq

def HorizonOperation.asset (operation : HorizonOperation) : StellarAsset :=
  if operation.assetType = some "native" then .native
  else .issued (operation.assetCode.getD "") (operation.assetIssuer.getD "")

/-- The operations that are credited. -/
def PAYMENT_TYPES : List String := ["payment", "path_payment_strict_send", "path_payment_strict_receive"]

/-- The amount that arrived. -/
def HorizonOperation.delivered (operation : HorizonOperation) : Option String :=
  if "path_payment_".toList.isPrefixOf operation.type.toList then operation.destinationAmount else operation.amount

/-- Throws when the amount is more precise than the token. -/
def decimalToBaseUnits (value : String) (decimals : Nat) : Option String :=
  if decimals < (Decimal.fraction value.toList).length then none
  else do
    let whole ← BigInt.parse (String.ofList (Decimal.whole value.toList))
    let rest := Decimal.padded value.toList decimals
    let fraction ← BigInt.parse (if rest.isEmpty then "0" else String.ofList rest)
    some (BigInt.toText (whole * 10 ^ decimals + fraction))

section Verify

-- `asset.contractId(passphrase)`, which may throw.
variable (contractId : StellarAsset → Option String)

/-- The verdict on a payment that matches the intent; `none` is an exception. -/
def creditPayment (intent : Intent) (operation : HorizonOperation) (raw : String) : Option FillVerificationVerdict := do
  let delivered ← decimalToBaseUnits raw intent.dstToken.decimals
  let amount ← BigInt.parse delivered
  let minimum ← BigInt.parse intent.minDstAmount
  if amount < minimum then some (.rejected "insufficient_delivered_amount")
  else some (.verified delivered operation.type)

/-- The amount of an operation that passes the checks on its type, sender, receiver, asset and format. -/
def matchingPayment (intent : Intent) (operation : HorizonOperation) : Option String :=
  if operation.type ∉ PAYMENT_TYPES then none
  else if operation.sourceAccount.any fun source => !source.isEmpty && some source != intent.solver then none
  else match contractId operation.asset with
    | none => none
    | some assetContractId =>
      if operation.to.getD "" ≠ intent.user then none
      else if assetContractId ≠ intent.dstToken.contract then none
      else operation.delivered.filter fun raw => Decimal.isDecimal raw.toList

/-- The first payment that matches decides. -/
def checkOperations (intent : Intent) : List HorizonOperation → Option FillVerificationVerdict
  | [] => some (.rejected "matching_payment_missing")
  | operation :: rest =>
    match matchingPayment contractId intent operation with
    | none => checkOperations intent rest
    | some raw => creditPayment intent operation raw

/-- The transaction and its operations are fetched one after the other; a request that throws has no response. -/
def verify (transaction : Option (HorizonResponse HorizonTransaction))
    (operations : Option (HorizonResponse (Option (List HorizonOperation)))) (intent : Intent) :
    FillVerificationVerdict :=
  if transaction.any (·.statusCode == 404) then .pending "not_indexed"
  else match transaction.bind (·.success) with
    | none => .pending "horizon_unavailable"
    | some transaction =>
      if transaction.successful ≠ some true then .rejected "transaction_failed"
      else if transaction.memoType ≠ some "text" ∨ transaction.memo ≠ some intent.intentId then
        .rejected "intent_memo_mismatch"
      else if transaction.operationsHref.all (·.isEmpty) then .rejected "operations_missing"
      else match operations.bind (·.success) with
        | none => .pending "horizon_unavailable"
        | some records =>
          (checkOperations contractId intent (records.getD [])).getD (.pending "horizon_unavailable")

end Verify

/-! ### Events of the settlement contract -/

/-- An event; a topic that does not decode to a text is absent. -/
structure ContractEvent where
  contractId : String
  topic : List (Option String)
  ledger : Nat
  ledgerClosedAt : Nat
  txHash : String
  pagingToken : String
deriving Repr, DecidableEq

/-- Topic layout: the name of the event, then the intent. -/
def isIntentFilled (topic : List (Option String)) (intentId : String) : Bool :=
  topic[0]? == some (some "intent_filled") && topic[1]? == some (some intentId)

/-- Where a page of events starts. -/
inductive EventsStart where
  | ledger (startLedger : Nat)
  | cursor (pagingToken : String)
deriving Repr, DecidableEq

/-- What the RPC node answers while one scan runs; a request may throw. -/
structure SorobanRpc (ε : Type) where
  getLatestLedger : Except ε Nat
  getEvents : EventsStart → String → Nat → Except ε (List ContractEvent)

/-- A fill observed on the chain, with the close time of its ledger in seconds. -/
structure LandedFill where
  txHash : String
  ledger : Nat
  closedAt : Nat
deriving Repr, DecidableEq

def LEDGER_SECONDS : Nat := 5
def MAX_FILL_WINDOW_SECONDS : Nat := 1800
def EVENTS_PAGE_LIMIT : Nat := 200
def MAX_EVENT_PAGES : Nat := 10

/-- `closedAt` of an event. -/
def ContractEvent.closedAt (event : ContractEvent) : Nat := event.ledgerClosedAt / 1000

/-- An `intent_filled` event of the intent that closed in time. -/
def ContractEvent.isTimelyFill (event : ContractEvent) (intentId : String) (latestAcceptable : Nat) : Bool :=
  isIntentFilled event.topic intentId && event.closedAt ≤ latestAcceptable

/-- The first ledger of the scan. -/
def startLedger (latest now fillDeadline : Nat) : Nat :=
  let lookbackSeconds := (now - fillDeadline) + MAX_FILL_WINDOW_SECONDS
  max 1 (latest - (lookbackSeconds + (LEDGER_SECONDS - 1)) / LEDGER_SECONDS)

/-- Scan at most `pages` further pages. -/
def scanPages {ε : Type} (rpc : SorobanRpc ε) (contract intentId : String) (start latestAcceptable : Nat) :
    Nat → Option String → Except ε (Option LandedFill)
  | 0, _ => .ok none
  | pages + 1, cursor =>
    match rpc.getEvents
        (match cursor.filter (!·.isEmpty) with
          | some token => .cursor token
          | none => .ledger start)
        contract EVENTS_PAGE_LIMIT with
    | .error e => .error e
    | .ok events =>
      match events.find? (·.isTimelyFill intentId latestAcceptable) with
      | some event => .ok (some ⟨event.txHash, event.ledger, event.closedAt⟩)
      | none =>
        -- A short page is taken for the last one.
        if events.length < EVENTS_PAGE_LIMIT then .ok none
        else scanPages rpc contract intentId start latestAcceptable pages (events.getLast?.map (·.pagingToken))

/-- Without a settlement contract there is no fill to find. -/
def findLandedFill {ε : Type} (rpc : SorobanRpc ε) (settlementContractId : Option String) (intentId : String)
    (fillDeadline latestAcceptable now : Nat) : Except ε (Option LandedFill) :=
  match settlementContractId.filter (!·.isEmpty) with
  | none => .ok none
  | some contract => do
    let latest ← rpc.getLatestLedger
    scanPages rpc contract intentId (startLedger latest now fillDeadline) latestAcceptable MAX_EVENT_PAGES none

end VortexBackend.FillVerifier
