/-
Module: VortexBackend.Solvers.Records
Purpose: `SolversService` on whole records: every method reads one, awaits, and writes it back.
Trusted boundary: a write that fails has not been applied; logs, inventory, delegated signers and referrers are left out
Main exports: SolverRecords, recordService
-/
import VortexBackend.Async.Discipline
import VortexBackend.Soroban.EventIngestion

namespace VortexBackend

inductive SolverSource where
  | api
  | chain
deriving Repr, DecidableEq

structure SolverRecord where
  address : String
  name : String := ""
  bondAmount : String
  fillsCompleted : Nat := 0
  fillsFailed : Nat := 0
  totalVolume : String := "0"
  avgFillTime : Nat := 0
  isActive : Bool := true
  registeredAt : Nat := 0
  lastActiveAt : Nat := 0
  supportedChains : List String := []
  supportedTokens : List String := []
  source : SolverSource := .api
  chainUpdatedLedger : Option Nat := none
deriving Repr, DecidableEq

inductive SolverPenaltyState where
  | pending
  | confirmed
  | failed
deriving Repr, DecidableEq

structure SolverPendingPenalty where
  intentId : String
  solverAddress : String
  detectedAt : Nat
  state : SolverPenaltyState
  confirmedSlashAmount : Option String := none
deriving Repr, DecidableEq

/-- The records, each under its own address. -/
structure SolverStore where
  rows : JsMap String SolverRecord
  keyed : ∀ address solver, rows.get address = some solver → solver.address = address

namespace SolverStore

def empty : SolverStore := ⟨.empty, by simp⟩

def get (store : SolverStore) (address : String) : Option SolverRecord := store.rows.get address

def save (store : SolverStore) (solver : SolverRecord) : SolverStore where
  rows := store.rows.set solver.address solver
  keyed := by
    intro address other isStored
    rw [JsMap.get_set] at isStored
    split at isStored
    · rename_i same
      cases isStored
      exact same.symm
    · exact store.keyed address other isStored

theorem get_save (store : SolverStore) (solver : SolverRecord) (address : String) :
    (store.save solver).get address = if address = solver.address then some solver else store.get address :=
  JsMap.get_set ..

end SolverStore

/-! ### The store, the clock and the penalties in memory -/

inductive RecordCall where
  | now
  | findByAddress (address : String)
  | save (solver : SolverRecord)
  | invalidate
  | penalty (intentId : String)
  | setPenalty (penalty : SolverPendingPenalty)
deriving Repr, DecidableEq

abbrev RecordReply : RecordCall → Type
  | .now => Nat
  | .findByAddress _ => Except String (Option SolverRecord)
  | .save _ => Except String SolverRecord
  | .invalidate => Except String Unit
  | .penalty _ => Option SolverPendingPenalty
  | .setPenalty _ => Unit

/-- The clock is in milliseconds. -/
structure RecordWorld where
  clock : Nat := 0
  solvers : SolverStore := .empty
  penalties : JsMap String SolverPendingPenalty := .empty

/-- Whether the store or the cache fails, and how. -/
structure RecordChoice where
  fault : Option String := none
deriving Repr, DecidableEq

def RecordChoice.answer {α : Type} (choice : RecordChoice) (value : α) : Except String α :=
  match choice.fault with
  | some message => .error message
  | none => .ok value

namespace RecordWorld

def perform (call : RecordCall) (choice : RecordChoice) (w : RecordWorld) : RecordReply call × RecordWorld :=
  match call with
  | .now => (w.clock / 1000, w)
  | .findByAddress address => (choice.answer (w.solvers.get address), w)
  | .save solver =>
      (choice.answer solver, if choice.fault = none then { w with solvers := w.solvers.save solver } else w)
  | .invalidate => (choice.answer (), w)
  | .penalty intentId => (w.penalties.get intentId, w)
  | .setPenalty penalty => ((), { w with penalties := w.penalties.set penalty.intentId penalty })

end RecordWorld

/-! ### The methods -/

abbrev SolverMethod := Async RecordReply String

namespace SolverRecords

def ask (call : RecordCall) : SolverMethod (RecordReply call) := Async.call call

def get (address : String) : SolverMethod (Option SolverRecord) := Async.attempt (ask (.findByAddress address))

/-- Write a record and drop the cached reads that embed it. -/
def persist (solver : SolverRecord) : SolverMethod SolverRecord := do
  let saved : SolverRecord ← Async.attempt (ask (.save solver))
  let _ : Unit ← Async.attempt (ask .invalidate)
  pure saved

/-- Read a record, change it at the time of the reply, and write it back. -/
def revise (address : String) (change : Nat → SolverRecord → Except String SolverRecord) :
    SolverMethod (Option SolverRecord) := do
  match ← get address with
  | none => pure none
  | some solver => do
    let now : Nat ← ask .now
    let updated ← Async.ofExcept (change now solver)
    let saved ← persist updated
    pure (some saved)

/-- `BigInt(text)`, which throws on a text that is no integer. -/
def toBigInt (text : String) : Except String Int :=
  match BigInt.parse text with
  | some value => .ok value
  | none => .error s!"Cannot convert {text} to a BigInt"

/-- The volume after a fill; an amount or a volume that is no integer leaves it as it is. -/
def addVolume (totalVolume : String) (fillAmount : Option String) : String :=
  match BigInt.parse totalVolume, fillAmount.bind BigInt.parse with
  | some volume, some amount => BigInt.toText (volume + amount)
  | _, _ => totalVolume

def countFill (fillAmount : Option String) (now : Nat) (solver : SolverRecord) : Except String SolverRecord :=
  .ok { solver with
    fillsCompleted := solver.fillsCompleted + 1
    totalVolume := addVolume solver.totalVolume fillAmount
    lastActiveAt := now }

def recordSuccessfulFill (address : String) (fillAmount : Option String) : SolverMethod (Option SolverRecord) :=
  revise address (countFill fillAmount)

def countFailure (_now : Nat) (solver : SolverRecord) : Except String SolverRecord :=
  .ok { solver with fillsFailed := solver.fillsFailed + 1 }

/-- Count a missed fill at once and remember it as a pending penalty of the intent. -/
def recordFailedFill (address intentId : String) : SolverMethod (Option SolverRecord) := do
  match ← revise address countFailure with
  | none => pure none
  | some saved => do
    let detectedAt : Nat ← ask .now
    let _ : Unit ← ask (.setPenalty { intentId, solverAddress := address, detectedAt, state := .pending })
    pure (some saved)

/-- A bond after a slash or a withdrawal, not below zero. -/
def reduced (bond amount : Int) : Int := if bond > amount then bond - amount else 0

def slashBond (slashAmount : String) (_now : Nat) (solver : SolverRecord) : Except String SolverRecord := do
  let current ← toBigInt solver.bondAmount
  let slash ← toBigInt slashAmount
  .ok { solver with bondAmount := BigInt.toText (reduced current slash) }

/-- The penalty, if it is still to be decided. -/
def undecided (penalty : Option SolverPendingPenalty) : Option SolverPendingPenalty :=
  penalty.filter (·.state = .pending)

/-- Charge the pending penalty of the intent, and mark it as confirmed. -/
def confirmPenalty (intentId slashAmount : String) : SolverMethod (Option SolverRecord) := do
  let penalty : Option SolverPendingPenalty ← ask (.penalty intentId)
  match undecided penalty with
  | none => pure none
  | some penalty => do
    match ← revise penalty.solverAddress (slashBond slashAmount) with
    | none => pure none
    | some saved => do
      let confirmed := { penalty with intentId, state := .confirmed, confirmedSlashAmount := some slashAmount }
      let _ : Unit ← ask (.setPenalty confirmed)
      pure (some saved)

def uncountFailure (_now : Nat) (solver : SolverRecord) : Except String SolverRecord :=
  .ok { solver with fillsFailed := solver.fillsFailed - 1 }

/-- Take the pending penalty of the intent back. If there is none at all, the given solver's counter is lowered. -/
def rollbackPenalty (intentId : String) (solverAddress : Option String) : SolverMethod (Option SolverRecord) := do
  let penalty : Option SolverPendingPenalty ← ask (.penalty intentId)
  match penalty, solverAddress.filter (!·.isEmpty) with
  | none, some address => revise address uncountFailure
  | _, _ =>
    match undecided penalty with
    | none => pure none
    | some penalty => do
      match ← revise penalty.solverAddress uncountFailure with
      | none => pure none
      | some saved => do
        let _ : Unit ← ask (.setPenalty { penalty with intentId, state := .failed })
        pure (some saved)

/-- What `EventIngestionService` does with a slash event. -/
def solverSlashed (event : EventResponse) : SolverMethod (Option SolverRecord) :=
  match EventIngestion.handleSolverSlashed event with
  | some (.confirmPenalty intentId slashAmount) => confirmPenalty intentId slashAmount
  | _ => pure none

end SolverRecords

/-! ### Concurrent calls -/

inductive RecordRequest where
  | recordSuccessfulFill (address : String) (fillAmount : Option String)
  | recordFailedFill (address intentId : String)
  | solverSlashed (event : EventResponse)
  | rollbackPenalty (intentId : String) (solverAddress : Option String)
deriving Repr, DecidableEq

namespace RecordRequest

def start : RecordRequest → SolverMethod (Option SolverRecord)
  | .recordSuccessfulFill address fillAmount => SolverRecords.recordSuccessfulFill address fillAmount
  | .recordFailedFill address intentId => SolverRecords.recordFailedFill address intentId
  | .solverSlashed event => SolverRecords.solverSlashed event
  | .rollbackPenalty intentId solverAddress => SolverRecords.rollbackPenalty intentId solverAddress

end RecordRequest

/-- Calls of the service over one store; time passes by itself. -/
def recordService :
    Service RecordReply RecordWorld RecordChoice Nat RecordRequest (Except String (Option SolverRecord)) where
  perform call choice w := some (w.perform call choice)
  drift elapsed w := some { w with clock := w.clock + elapsed }
  start request := request.start.run

abbrev RecordEvent := Event RecordReply RecordRequest
abbrev RecordExchange := Exchange RecordReply
abbrev RecordView := View RecordReply RecordWorld RecordRequest
abbrev RecordConfig := Config RecordReply RecordWorld RecordRequest (Except String (Option SolverRecord))
abbrev RecordTransition :=
  Transition RecordReply RecordWorld RecordChoice Nat RecordRequest (Except String (Option SolverRecord))

end VortexBackend
