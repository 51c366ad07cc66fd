/-
Module: VortexBackend.Intents.Types
Purpose: The records of the intent store. A patch says of each field whether it is written.
Trusted boundary: amounts are the strings that the code stores; a price in dollars and a number of basis points are
  rational numbers; of a token, the name, the chain, the logo and the price are left out; no patch sets a required
  field to `undefined`
Main exports: Intent, IntentPatch, IntentFill
-/

namespace VortexBackend

inductive SupportedChain where
  | stellar
  | ethereum
  | base
  | polygon
  | arbitrum
  | optimism
  | avalanche
deriving Repr, Inhabited, DecidableEq

namespace SupportedChain

/-- The identifier of the chain in kill-switch scopes. -/
def name : SupportedChain → String
  | .stellar => "stellar"
  | .ethereum => "ethereum"
  | .base => "base"
  | .polygon => "polygon"
  | .arbitrum => "arbitrum"
  | .optimism => "optimism"
  | .avalanche => "avalanche"

/-- `CHAIN_FILL_WINDOW_DEFAULTS[chain]`: the seconds a solver has from accept to fill. -/
def fillWindow : SupportedChain → Nat
  | .stellar => 120
  | .base | .optimism | .arbitrum | .avalanche => 600
  | .ethereum => 1800
  | .polygon => 900

/-- `CHAIN_DEADLINE_DEFAULTS[chain]`: the seconds an intent stays open by default. -/
def deadline : SupportedChain → Nat
  | .stellar => 900
  | .base | .optimism | .arbitrum | .avalanche => 1800
  | .ethereum => 3600
  | .polygon => 2700

end SupportedChain

inductive IntentState where
  | «open»
  | accepted
  | filled
  | cancelled
  | expired
  | slashed
  | pendingOpen
  | pendingAccepted
  | pendingFilled
  | pendingCancelled
deriving Repr, Inhabited, DecidableEq

/-- How a state reads in messages. -/
def IntentState.name : IntentState → String
  | .open => "open"
  | .accepted => "accepted"
  | .filled => "filled"
  | .cancelled => "cancelled"
  | .expired => "expired"
  | .slashed => "slashed"
  | .pendingOpen => "pending_open"
  | .pendingAccepted => "pending_accepted"
  | .pendingFilled => "pending_filled"
  | .pendingCancelled => "pending_cancelled"

/-- Which chain write is in flight while an intent sits in a pending state. -/
inductive PendingIntentOp where
  | create
  | accept
  | fill
  | cancel
deriving Repr, DecidableEq

structure TokenInfo where
  address : String
  symbol : String
  decimals : Nat
deriving Repr, Inhabited, DecidableEq

structure StellarToken where
  contract : String
  symbol : String
  decimals : Nat
deriving Repr, Inhabited, DecidableEq

inductive SrcVerificationStatus where
  | pending
  | verified
  | notFound
  | mismatch
  | reorged
  | skipped
  | grandfathered
deriving Repr, DecidableEq

/-- Outcome of the source-chain deposit check. -/
structure SrcVerification where
  status : SrcVerificationStatus
  checkedAt : Nat
  blockNumber : Option String := none
  blockHash : Option String := none
  receivedAmount : Option String := none
  detail : Option String := none
deriving Repr, DecidableEq

/-- Off-chain Dutch auction terms. -/
structure DutchAuction where
  startDstAmount : String
  decayStart : Nat
  decayEnd : Nat
  exclusiveSolver : Option String := none
  exclusivityEnd : Option Nat := none
deriving Repr, DecidableEq

inductive FillVerificationState where
  | pending
  | verified
  | rejected
deriving Repr, DecidableEq

/-- What the price oracle said when the intent was created; `null` when it was not available. -/
structure PriceLockSnapshot where
  fairValue : Option String
  slippageBps : Option Rat
  premiumBps : Option Rat
  asOfMs : Nat
deriving Repr, DecidableEq

structure Intent where
  intentId : String
  user : String
  srcChain : SupportedChain
  srcToken : TokenInfo
  srcAmount : String
  dstToken : StellarToken
  minDstAmount : String
  auction : Option DutchAuction := none
  acceptedDstAmount : Option String := none
  quotedDstAmount : Option String := none
  solver : Option String := none
  state : IntentState := .open
  createdAt : Nat
  deadline : Nat
  filledAt : Option Nat := none
  fillAmount : Option String := none
  feeAmount : Option String := none
  txHash : Option String := none
  fillVerificationState : Option FillVerificationState := none
  fillVerificationReason : Option String := none
  -- An ISO-8601 text in the code; here the instant it denotes, in milliseconds.
  fillVerifiedAt : Option Nat := none
  slashedAt : Option Nat := none
  slashReason : Option String := none
  paramsVersion : Option Nat := none
  usdValueAtCreate : Option Rat := none
  priceLock : Option PriceLockSnapshot := none
  version : Option Nat := none
  srcVerified : Option Bool := none
  srcTxHash : Option String := none
  srcVerification : Option SrcVerification := none
  pendingTxHash : Option String := none
  pendingOp : Option PendingIntentOp := none
  srcTokenId : Option String := none
  dstTokenId : Option String := none
  srcDecimals : Option Nat := none
  dstDecimals : Option Nat := none
  allowPartialFill : Option Bool := none
  minFillAmount : Option String := none
deriving Repr, Inhabited, DecidableEq

namespace Intent

/-- `intent.version ?? 0` -/
def currentVersion (intent : Intent) : Nat := intent.version.getD 0

/-- `intent.allowPartialFill`, as a condition -/
def partialFills (intent : Intent) : Bool := intent.allowPartialFill == some true

end Intent

/-- The fields that a write through the generic paths may change: all but the identity, the version and the
    creation time. The outer `Option` says whether the field is in the patch. -/
structure IntentPatch where
  user : Option String := none
  srcChain : Option SupportedChain := none
  srcToken : Option TokenInfo := none
  srcAmount : Option String := none
  dstToken : Option StellarToken := none
  minDstAmount : Option String := none
  auction : Option (Option DutchAuction) := none
  acceptedDstAmount : Option (Option String) := none
  quotedDstAmount : Option (Option String) := none
  solver : Option (Option String) := none
  state : Option IntentState := none
  deadline : Option Nat := none
  filledAt : Option (Option Nat) := none
  fillAmount : Option (Option String) := none
  feeAmount : Option (Option String) := none
  txHash : Option (Option String) := none
  fillVerificationState : Option (Option FillVerificationState) := none
  fillVerificationReason : Option (Option String) := none
  fillVerifiedAt : Option (Option Nat) := none
  slashedAt : Option (Option Nat) := none
  slashReason : Option (Option String) := none
  paramsVersion : Option (Option Nat) := none
  usdValueAtCreate : Option (Option Rat) := none
  priceLock : Option (Option PriceLockSnapshot) := none
  srcVerified : Option (Option Bool) := none
  srcTxHash : Option (Option String) := none
  srcVerification : Option (Option SrcVerification) := none
  pendingTxHash : Option (Option String) := none
  pendingOp : Option (Option PendingIntentOp) := none
  srcTokenId : Option (Option String) := none
  dstTokenId : Option (Option String) := none
  srcDecimals : Option (Option Nat) := none
  dstDecimals : Option (Option Nat) := none
  allowPartialFill : Option (Option Bool) := none
  minFillAmount : Option (Option String) := none
deriving Repr, DecidableEq

/-- `{ ...intent, ...patch }` -/
def Intent.assign (intent : Intent) (patch : IntentPatch) : Intent :=
  { intent with
    user := patch.user.getD intent.user
    srcChain := patch.srcChain.getD intent.srcChain
    srcToken := patch.srcToken.getD intent.srcToken
    srcAmount := patch.srcAmount.getD intent.srcAmount
    dstToken := patch.dstToken.getD intent.dstToken
    minDstAmount := patch.minDstAmount.getD intent.minDstAmount
    auction := patch.auction.getD intent.auction
    acceptedDstAmount := patch.acceptedDstAmount.getD intent.acceptedDstAmount
    quotedDstAmount := patch.quotedDstAmount.getD intent.quotedDstAmount
    solver := patch.solver.getD intent.solver
    state := patch.state.getD intent.state
    deadline := patch.deadline.getD intent.deadline
    filledAt := patch.filledAt.getD intent.filledAt
    fillAmount := patch.fillAmount.getD intent.fillAmount
    feeAmount := patch.feeAmount.getD intent.feeAmount
    txHash := patch.txHash.getD intent.txHash
    fillVerificationState := patch.fillVerificationState.getD intent.fillVerificationState
    fillVerificationReason := patch.fillVerificationReason.getD intent.fillVerificationReason
    fillVerifiedAt := patch.fillVerifiedAt.getD intent.fillVerifiedAt
    slashedAt := patch.slashedAt.getD intent.slashedAt
    slashReason := patch.slashReason.getD intent.slashReason
    paramsVersion := patch.paramsVersion.getD intent.paramsVersion
    usdValueAtCreate := patch.usdValueAtCreate.getD intent.usdValueAtCreate
    priceLock := patch.priceLock.getD intent.priceLock
    srcVerified := patch.srcVerified.getD intent.srcVerified
    srcTxHash := patch.srcTxHash.getD intent.srcTxHash
    srcVerification := patch.srcVerification.getD intent.srcVerification
    pendingTxHash := patch.pendingTxHash.getD intent.pendingTxHash
    pendingOp := patch.pendingOp.getD intent.pendingOp
    srcTokenId := patch.srcTokenId.getD intent.srcTokenId
    dstTokenId := patch.dstTokenId.getD intent.dstTokenId
    srcDecimals := patch.srcDecimals.getD intent.srcDecimals
    dstDecimals := patch.dstDecimals.getD intent.dstDecimals
    allowPartialFill := patch.allowPartialFill.getD intent.allowPartialFill
    minFillAmount := patch.minFillAmount.getD intent.minFillAmount }

/-- What `create` is given: an intent without its identity, state and creation time. -/
structure NewIntentData where
  user : String
  srcChain : SupportedChain
  srcToken : TokenInfo
  srcAmount : String
  dstToken : StellarToken
  minDstAmount : String
  deadline : Nat
  allowPartialFill : Option Bool := none
  minFillAmount : Option String := none
deriving Repr, DecidableEq

inductive IntentFillStatus where
  | reserved
  | filled
  | slashed
  | released
deriving Repr, DecidableEq

def IntentFillStatus.name : IntentFillStatus → String
  | .reserved => "reserved"
  | .filled => "filled"
  | .slashed => "slashed"
  | .released => "released"

/-- One solver's tranche of a partial-fill intent. -/
structure IntentFill where
  fillId : String
  intentId : String
  solver : String
  reservedAmount : String
  minDstAmount : String
  status : IntentFillStatus := .reserved
  reservedAt : Nat
  deadline : Nat
  dstAmount : Option String := none
  feeAmount : Option String := none
  txHash : Option String := none
  filledAt : Option Nat := none
  slashedAt : Option Nat := none
  releasedAt : Option Nat := none
deriving Repr, Inhabited, DecidableEq

/-- One entry of the audit log of an intent. -/
structure IntentAuditEntry where
  toState : IntentState
  actor : String
  reason : String
deriving Repr, DecidableEq

inductive SolverFillOutcome where
  | filled
  | failed
  | reversed
deriving Repr, DecidableEq

/-- One row of the fill ledger. -/
structure SolverFillRecord where
  intentId : String
  solver : String
  chain : SupportedChain
  srcAmount : String
  dstAmount : Option String
  outcome : SolverFillOutcome
  createdAt : Nat
deriving Repr, DecidableEq

end VortexBackend
