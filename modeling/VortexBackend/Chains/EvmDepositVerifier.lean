/-
Module: VortexBackend.Chains.EvmDepositVerifier
Purpose: The check of a deposit on an EVM chain: the first live `Deposited` log of the intent decides.
Trusted boundary: the RPC nodes, the hash of intent ids, and how viem decodes a log
Main exports: EvmDepositVerifier.verify
-/
import VortexBackend.Backend.Interface

namespace VortexBackend

/-- When a deposit counts as final: so many blocks deep, head included, or not above the safe head. -/
inductive ConfirmationPolicy where
  | depth (blocks : Nat)
  | safe

/-- `CONFIRMATION_POLICIES`; a chain without one is not an EVM source chain. -/
def CONFIRMATION_POLICIES : SupportedChain → Option ConfirmationPolicy
  | .stellar => none
  | .ethereum => some (.depth 12)
  | .polygon => some (.depth 128)
  | .base | .optimism | .arbitrum => some .safe
  | .avalanche => some (.depth 1)

/-- A `Deposited` event. The depositor is not read. -/
structure DepositedLog where
  intentId : String
  token : String
  amount : Nat
  user : String
  blockNumber : Option Nat
  blockHash : Option String
  removed : Bool := false

/-- The logs of a receipt are addresses with the event that they decode to. -/
structure EvmReceipt where
  success : Bool
  logs : List (String × Option DepositedLog)

/-- What the node answers during a check; an error is a call that throws. A receipt that does not exist is `none`,
    and the head is asked for twice. -/
structure EvmClient where
  getTransactionReceipt : String → Except String (Option EvmReceipt)
  getBlockNumber : Except String Nat
  getLogs : (escrow intentId : String) → (fromBlock toBlock : Nat) → Except String (List DepositedLog)
  safeBlock : Except String (Option Nat)
  latestBlock : Except String Nat

structure EvmSettings where
  escrowAddresses : SupportedChain → Option String
  rpcUrls : SupportedChain → Option String
  logLookbackBlocks : Nat
  transferFeeToleranceBps : Rat
  clientFactory : SupportedChain → String → EvmClient
  intentIdToBytes32 : String → String

namespace EvmDepositVerifier

variable (evm : EvmSettings)

/-- `isAddressEqual` compares in lower case, and so does its fallback. -/
def sameAddress (a b : String) : Bool := a.toLower == b.toLower

/-- `srcAmount` reduced by the tolerance in basis points, rounded up. -/
def minimumReceived (srcAmount : Int) (toleranceBps : Rat) : Int :=
  let bps := max 0 (min 10000 toleranceBps.floor)
  (srcAmount * (10000 - bps) + 9999).tdiv 10000

def escrow (chain : SupportedChain) : Option String := (evm.escrowAddresses chain).filter (!·.isEmpty)

def client (chain : SupportedChain) : Option EvmClient :=
  ((evm.rpcUrls chain).filter (!·.isEmpty)).map (evm.clientFactory chain)

/-- The logs of the deposit transaction; a text is the reason of a mismatch. -/
def logsFromReceipt (client : EvmClient) (escrow hash : String) (intent : Intent) :
    Except String (String ⊕ List DepositedLog) := do
  match ← client.getTransactionReceipt hash with
  | none => pure (.inr [])
  | some receipt =>
    if receipt.success then
      pure (.inr ((receipt.logs.filterMap fun log => if sameAddress log.1 escrow then log.2 else none).filter
        (·.intentId == evm.intentIdToBytes32 intent.intentId)))
    else pure (.inl s!"deposit transaction {hash} reverted")

def logsFromRange (client : EvmClient) (escrow : String) (intent : Intent) : Except String (List DepositedLog) := do
  let head ← client.getBlockNumber
  client.getLogs escrow (evm.intentIdToBytes32 intent.intentId) (head - evm.logLookbackBlocks) head

def fetchLogs (client : EvmClient) (escrow : String) (intent : Intent) :
    Except String (String ⊕ List DepositedLog) :=
  match intent.srcTxHash.filter (!·.isEmpty) with
  | some hash => logsFromReceipt evm client escrow hash intent
  | none => .inr <$> logsFromRange evm client escrow intent

/-- No live log: a deposit that was located before has been reorged out. -/
def missing (intent : Intent) : DepositCheck :=
  match intent.srcVerification.bind (·.blockHash) with
  | some hash => { status := .reorged, detail := s!"deposit previously seen in block {hash} is no longer canonical" }
  | none => { status := .notFound, detail := "no matching Deposited log yet" }

/-- Whether the block meets the policy, and the text that says so. -/
def confirmation (client : EvmClient) (blockNumber : Nat) : ConfirmationPolicy → Except String (Bool × String)
  | .safe => do
    let safe ← client.safeBlock
    let text := (safe.map toString).getD "null"
    pure (safe.any (blockNumber ≤ ·), s!"block {blockNumber} vs safe head {text}")
  | .depth blocks => do
    let head ← client.latestBlock
    let confirmations := if blockNumber ≤ head then head - blockNumber + 1 else 0
    pure (blocks ≤ confirmations, s!"{confirmations}/{blocks} confirmations")

/-- The checks on the log that was found, in its block. -/
def judge (client : EvmClient) (policy : ConfirmationPolicy) (intent : Intent) (log : DepositedLog)
    (blockNumber : Nat) (blockHash : String) : Except String DepositCheck := do
  let located : DepositCheck := { status := .mismatch, blockNumber := toString blockNumber, blockHash }
  if !sameAddress log.token intent.srcToken.address then
    return { located with detail := s!"deposited token {log.token} ≠ {intent.srcToken.address}" }
  if log.user.toLower != intent.user.toLower then
    return { located with detail := s!"deposit is for user {log.user}, not {intent.user}" }
  let received := { located with receivedAmount := toString log.amount }
  let some srcAmount := BigInt.parse intent.srcAmount | throw s!"Cannot convert {intent.srcAmount} to a BigInt"
  let required := minimumReceived srcAmount evm.transferFeeToleranceBps
  if log.amount < required then
    return { received with
      detail := s!"escrow received {log.amount} < required {required} (srcAmount {intent.srcAmount})" }
  let (ok, detail) ← confirmation client blockNumber policy
  return { received with status := if ok then .verified else .pending, detail }

/-- Not removed, and in a block. -/
def live (log : DepositedLog) : Bool := !log.removed && log.blockNumber.isSome && log.blockHash.isSome

/-- The first live log is the one that is checked. -/
def checkLogs (client : EvmClient) (policy : ConfirmationPolicy) (intent : Intent) (logs : List DepositedLog) :
    Except String DepositCheck :=
  match logs.find? live with
  | some log => judge evm client policy intent log (log.blockNumber.getD 0) (log.blockHash.getD "")
  | none => pure (missing intent)

def verify (intent : Intent) : Except String DepositCheck :=
  match CONFIRMATION_POLICIES intent.srcChain with
  | none => pure { status := .mismatch, detail := s!"{intent.srcChain.name} is not an EVM source chain" }
  | some policy =>
    match escrow evm intent.srcChain, client evm intent.srcChain with
    | some escrow, some client => do
      match ← fetchLogs evm client escrow intent with
      | .inl reason => pure { status := .mismatch, detail := reason }
      | .inr logs => checkLogs evm client policy intent logs
    | _, _ =>
      pure { status := .pending, detail := s!"no RPC URL or escrow address configured for {intent.srcChain.name}" }

end EvmDepositVerifier

end VortexBackend
