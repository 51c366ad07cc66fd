/-
Module: VortexBackend.Soroban.ContractVersion
Purpose: `ContractVersionService`: callers that come while a refresh reads share its result.
Trusted boundary: the clock does not go back; metrics and logs are left out, and a row of `contract_upgrades` is
  appended when it is created (the service does not wait for it)
Main exports: ContractVersions.step
-/
import VortexBackend.Sequential.Run
import Mathlib.Logic.Function.Basic

namespace VortexBackend

def CONTRACT_VERSION_MAX_AGE_MS : Nat := 60000

inductive ContractName where
  | settlement
  | solverRegistry
deriving Repr, DecidableEq

def CONTRACT_NAMES : List ContractName := [.settlement, .solverRegistry]

inductive ContractVersionStatus where
  | unconfigured
  | pending
  | supported
  | unknownHash
  | unreachable
deriving Repr, DecidableEq

structure ContractVersionState where
  contract : ContractName
  contractId : String
  status : ContractVersionStatus
  wasmHash : Option String := none
  abiVersion : Option String := none
  checkedAt : Option Nat := none
  previousWasmHash : Option String := none
  upgradedAt : Option Nat := none
  error : Option String := none
deriving Repr, DecidableEq

structure ContractUpgradeEvent where
  contractId : String
  ledger : Nat
  txHash : Option String := none
  wasmHash : Option String := none
deriving Repr, DecidableEq

inductive UpgradeSource where
  | poll
  | event
deriving Repr, DecidableEq

/-- A row of `contract_upgrades`. -/
structure ContractUpgrade where
  contractName : ContractName
  contractId : String
  previousWasmHash : Option String
  wasmHash : Option String
  abiVersion : Option String
  source : UpgradeSource
  ledger : Option Nat := none
  txHash : Option String := none
deriving Repr, DecidableEq

/-- The configured contract ids (`""` if there is none), and the ABI versions of the WASM hashes. -/
structure VersionConfig where
  contractIdFor : ContractName → String
  registry : ContractName → String → Option String

/-- What `assertWritable` returns. -/
structure WritableVersion where
  abiVersion : String
  wasmHash : String
deriving Repr, DecidableEq

/-- A caller that waits for a refresh. -/
inductive RefreshCaller where
  | refresh
  | assertWritable (calledAt : Nat)
  | recordUpgradeEvent (event : ContractUpgradeEvent) (before : ContractVersionState)
deriving Repr, DecidableEq

/-- A refresh in flight. It has its result from the moment `doRefresh` returns until the callers go on. -/
structure Refresh where
  startedAt : Nat
  previous : ContractVersionState
  result : Option ContractVersionState := none
  callers : List RefreshCaller
deriving Repr, DecidableEq

/-- A read of the contract's instance that has been answered: with a WASM hash or with an error. -/
structure LedgerRead where
  startedAt : Nat
  wasmHash : Except String String
deriving DecidableEq

/-- What the service's maps have for one contract, and the reads so far, the newest first. -/
structure Tracked where
  state : ContractVersionState
  checkedAtMs : Option Nat := none
  inFlight : Option Refresh := none
  reads : List LedgerRead := []
deriving DecidableEq

structure ContractVersions where
  now : Nat
  tracked : ContractName → Tracked
  upgrades : List ContractUpgrade := []

/-- What can happen between two awaits. -/
inductive VersionOp where
  | tick (ms : Nat)
  | refreshAll
  | refresh (contract : ContractName)
  | assertWritable (contract : ContractName)
  | recordUpgradeEvent (event : ContractUpgradeEvent)
  /-- The ledger read of the contract's refresh is answered. -/
  | answer (contract : ContractName) (wasmHash : Except String String)
  /-- The callers of the contract's refresh go on. -/
  | settle (contract : ContractName)
deriving DecidableEq

/-- A call of `assertWritable` that has ended. -/
structure WriteCheck where
  contract : ContractName
  calledAt : Nat
  outcome : Except ContractVersionState WritableVersion
deriving DecidableEq

namespace ContractVersions

/-- The string is there and not empty. -/
def given (text : Option String) : Bool := text.any (· ≠ "")

variable (config : VersionConfig)

/-- The constructor. -/
def initialise (now : Nat) : ContractVersions where
  now
  tracked contract :=
    let contractId := config.contractIdFor contract
    { state := { contract, contractId, status := if contractId = "" then .unconfigured else .pending } }

/-- The first part of `doRefresh`: it notes the time, and unless the contract is unconfigured it starts to read. -/
def startRefresh (now : Nat) (contract : ContractName) (t : Tracked) (caller : RefreshCaller) : Tracked :=
  let contractId := config.contractIdFor contract
  if contractId = "" then
    let state : ContractVersionState := { contract, contractId, status := .unconfigured, checkedAt := some now }
    { t with
      state
      checkedAtMs := some now
      inFlight := some { startedAt := now, previous := t.state, result := some state, callers := [caller] } }
  else
    { t with
      checkedAtMs := some now
      inFlight := some { startedAt := now, previous := t.state, callers := [caller] } }

/-- `refresh`: a caller shares the refresh that is in flight. -/
def refreshTracked (now : Nat) (contract : ContractName) (t : Tracked) (caller : RefreshCaller) : Tracked :=
  match t.inFlight with
  | some pending => { t with inFlight := some { pending with callers := pending.callers ++ [caller] } }
  | none => startRefresh config now contract t caller

variable (s : ContractVersions) (contract : ContractName)

def refresh (caller : RefreshCaller) : ContractVersions :=
  { s with
    tracked := Function.update s.tracked contract
      (refreshTracked config s.now contract (s.tracked contract) caller) }

/-- A hash was seen before, and the new one is another. -/
def upgraded (previous : ContractVersionState) (wasmHash : String) : Bool :=
  given previous.wasmHash && previous.wasmHash != some wasmHash

variable (contract : ContractName)

/-- The state that `doRefresh` stores when the read is answered. -/
def nextState (previous : ContractVersionState) (checkedAt : Nat) : Except String String → ContractVersionState
  | .ok wasmHash =>
    let abiVersion := config.registry contract wasmHash
    let isUpgrade := upgraded previous wasmHash
    { contract
      contractId := config.contractIdFor contract
      status := if given abiVersion then .supported else .unknownHash
      wasmHash := some wasmHash
      abiVersion
      checkedAt := some checkedAt
      previousWasmHash := if isUpgrade then previous.wasmHash else previous.previousWasmHash
      upgradedAt := if isUpgrade then some checkedAt else previous.upgradedAt }
  | .error message =>
    { previous with
      contract
      contractId := config.contractIdFor contract
      status := .unreachable
      checkedAt := some checkedAt
      error := some message }

/-- The row that a refresh appends when the hash has changed. -/
def pollUpgrade (previous : ContractVersionState) : Except String String → List ContractUpgrade
  | .ok wasmHash =>
    if upgraded previous wasmHash then
      [{ contractName := contract
         contractId := config.contractIdFor contract
         previousWasmHash := previous.wasmHash
         wasmHash := some wasmHash
         abiVersion := config.registry contract wasmHash
         source := .poll }]
    else []
  | .error _ => []

/-- The rest of `doRefresh`, from the answer of the ledger read on. -/
def answer (wasmHash : Except String String) : ContractVersions :=
  let t := s.tracked contract
  match t.inFlight with
  | some { startedAt, previous, result := none, callers } =>
    let next := nextState config contract previous startedAt wasmHash
    { s with
      tracked := Function.update s.tracked contract
        { t with
          state := next
          inFlight := some { startedAt, previous, result := some next, callers }
          reads := { startedAt, wasmHash } :: t.reads }
      upgrades := s.upgrades ++ pollUpgrade config contract previous wasmHash }
  | _ => s

variable (state : ContractVersionState)

/-- The end of `assertWritable`. -/
def writable : Except ContractVersionState WritableVersion :=
  match state.status, state.abiVersion, state.wasmHash with
  | .supported, some abiVersion, some wasmHash =>
    if abiVersion = "" ∨ wasmHash = "" then .error state else .ok { abiVersion, wasmHash }
  | _, _, _ => .error state

/-- The end of `recordUpgradeEvent`: the event is recorded unless the refresh saw the change itself. -/
def eventUpgrade (event : ContractUpgradeEvent) (before after : ContractVersionState) : List ContractUpgrade :=
  if before.wasmHash = after.wasmHash ∨ ¬ given before.wasmHash then
    [{ contractName := contract
       contractId := config.contractIdFor contract
       previousWasmHash := before.wasmHash
       wasmHash := event.wasmHash <|> after.wasmHash
       abiVersion := after.abiVersion
       source := .event
       ledger := some event.ledger
       txHash := event.txHash }]
  else []

/-- What a caller of a refresh makes of its result: `assertWritable` ends, `recordUpgradeEvent` may append a row. -/
def callerChecks : RefreshCaller → List WriteCheck
  | .assertWritable calledAt => [{ contract, calledAt, outcome := writable state }]
  | .refresh | .recordUpgradeEvent _ _ => []

def callerUpgrades : RefreshCaller → List ContractUpgrade
  | .recordUpgradeEvent event before => eventUpgrade config contract event before state
  | .refresh | .assertWritable _ => []

/-- The refresh is taken out of `inFlight` and its callers go on with its result. -/
def settle : List WriteCheck × ContractVersions :=
  let t := s.tracked contract
  match t.inFlight with
  | some { result := some state, callers, .. } =>
    (callers.flatMap (callerChecks contract state),
      { s with
        tracked := Function.update s.tracked contract { t with inFlight := none }
        upgrades := s.upgrades ++ callers.flatMap (callerUpgrades config contract state) })
  | _ => ([], s)

/-- `assertWritable` up to its end or its `await`. -/
def assertWritable (config : VersionConfig) (s : ContractVersions) (contract : ContractName) :
    List WriteCheck × ContractVersions :=
  let t := s.tracked contract
  let age := s.now - t.checkedAtMs.getD 0
  if t.state.status ≠ .unconfigured ∧ CONTRACT_VERSION_MAX_AGE_MS < age then
    ([], refresh config s contract (.assertWritable s.now))
  else ([{ contract, calledAt := s.now, outcome := writable t.state }], s)

/-- `recordUpgradeEvent` up to its `await`, for the first contract with the event's id. -/
def recordUpgradeEvent (config : VersionConfig) (s : ContractVersions) (event : ContractUpgradeEvent) :
    ContractVersions :=
  match CONTRACT_NAMES.find? (config.contractIdFor · == event.contractId) with
  | some contract => refresh config s contract (.recordUpgradeEvent event (s.tracked contract).state)
  | none => s

def refreshAll : ContractVersions :=
  CONTRACT_NAMES.foldl (fun s contract => refresh config s contract .refresh) s

/-- One operation. The result is what calls of `assertWritable` have ended with it. -/
def step : VersionOp → List WriteCheck × ContractVersions
  | .tick ms => ([], { s with now := s.now + ms })
  | .refreshAll => ([], refreshAll config s)
  | .refresh contract => ([], refresh config s contract .refresh)
  | .assertWritable contract => assertWritable config s contract
  | .recordUpgradeEvent event => ([], recordUpgradeEvent config s event)
  | .answer contract wasmHash => ([], answer config s contract wasmHash)
  | .settle contract => settle config s contract

end ContractVersions

end VortexBackend
