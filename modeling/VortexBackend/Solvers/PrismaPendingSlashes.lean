/-
Module: VortexBackend.Solvers.PrismaPendingSlashes
Purpose: The Postgres adapter of that store, which sets no column but the lease back to `null`.
Trusted boundary: `create`, `updateMany` and `findUnique` are atomic on one row; the clock of the database is the clock
  of the process; row ids and the listings are left out
Main exports: PendingSlashTable.apply
-/
import VortexBackend.Solvers.PendingSlashes

namespace VortexBackend

/-- The columns of `pending_slashes`; `null` is `none`. -/
structure PendingSlashRow where
  intentId : String
  solverAddress : String
  reason : String
  state : PendingSlashState := .detected
  fillDeadline : Nat
  detectedAt : Nat
  challengeEndsAt : Nat
  attempts : Nat := 0
  nextAttemptAt : Nat
  lockedUntil : Option Nat := none
  txHash : Option String := none
  simulated : Bool := false
  submittedAt : Option Nat := none
  confirmedAt : Option Nat := none
  cancelledAt : Option Nat := none
  cancelReason : Option String := none
  cancelledBy : Option String := none
  fillTxHash : Option String := none
  lastError : Option String := none
  createdAt : Nat
  updatedAt : Nat
deriving Repr, DecidableEq

/-- The columns that an update sets. -/
structure PendingSlashData where
  state : Option PendingSlashState := none
  attempts : Option Nat := none
  nextAttemptAt : Option Nat := none
  txHash : Option String := none
  simulated : Option Bool := none
  submittedAt : Option Nat := none
  confirmedAt : Option Nat := none
  cancelledAt : Option Nat := none
  cancelReason : Option String := none
  cancelledBy : Option String := none
  fillTxHash : Option String := none
  lastError : Option String := none
deriving Repr, DecidableEq

/-- The entries of a patch that are not `undefined`. -/
def PendingSlashPatch.toData (patch : PendingSlashPatch) : PendingSlashData where
  state := patch.state
  attempts := patch.attempts
  nextAttemptAt := patch.nextAttemptAt
  txHash := patch.txHash.join
  simulated := patch.simulated
  submittedAt := patch.submittedAt.join
  confirmedAt := patch.confirmedAt.join
  cancelledAt := patch.cancelledAt.join
  cancelReason := patch.cancelReason.join
  cancelledBy := patch.cancelledBy.join
  fillTxHash := patch.fillTxHash.join
  lastError := patch.lastError.join

namespace PendingSlashRow

variable (row : PendingSlashRow)

/-- An update of some columns; `updatedAt` is stamped with the time of the update. -/
def set (data : PendingSlashData) (lockedUntil : Option Nat) (clock : Nat) : PendingSlashRow :=
  { row with
    state := data.state.getD row.state
    attempts := data.attempts.getD row.attempts
    nextAttemptAt := data.nextAttemptAt.getD row.nextAttemptAt
    txHash := data.txHash.or row.txHash
    simulated := data.simulated.getD row.simulated
    submittedAt := data.submittedAt.or row.submittedAt
    confirmedAt := data.confirmedAt.or row.confirmedAt
    cancelledAt := data.cancelledAt.or row.cancelledAt
    cancelReason := data.cancelReason.or row.cancelReason
    cancelledBy := data.cancelledBy.or row.cancelledBy
    fillTxHash := data.fillTxHash.or row.fillTxHash
    lastError := data.lastError.or row.lastError
    lockedUntil
    updatedAt := clock }

def fromRow : PendingSlash where
  intentId := row.intentId
  solverAddress := row.solverAddress
  reason := row.reason
  state := row.state
  fillDeadline := row.fillDeadline
  detectedAt := row.detectedAt
  challengeEndsAt := row.challengeEndsAt
  attempts := row.attempts
  nextAttemptAt := row.nextAttemptAt
  lockedUntil := row.lockedUntil
  txHash := row.txHash
  simulated := row.simulated
  submittedAt := row.submittedAt
  confirmedAt := row.confirmedAt
  cancelledAt := row.cancelledAt
  cancelReason := row.cancelReason
  cancelledBy := row.cancelledBy
  fillTxHash := row.fillTxHash
  lastError := row.lastError
  createdAt := row.createdAt
  updatedAt := row.updatedAt

/-- `OR: [{ lockedUntil: null }, { lockedUntil: { lt: now } }]` -/
def isFree (now : Nat) : Bool := row.lockedUntil == none || row.lockedUntil.any (· < now)

end PendingSlashRow

/-- The rows of `pending_slashes` under their unique `intent_id`. -/
abbrev PendingSlashTable := JsMap String PendingSlashRow

namespace PendingSlashTable

/-- `findUnique({ where: { intentId } })` -/
def findUnique (table : PendingSlashTable) (intentId : String) : Option PendingSlashRow := JsMap.get table intentId

/-- `updateMany` on the row of one intent, under a condition on its columns: the number of rows hit. -/
def updateMany (table : PendingSlashTable) (intentId : String) (condition : PendingSlashRow → Bool)
    (change : PendingSlashRow → PendingSlashRow) : Nat × PendingSlashTable :=
  match table.findUnique intentId with
  | some row => if condition row then (1, JsMap.set table intentId (change row)) else (0, table)
  | none => (0, table)

variable (table : PendingSlashTable)

def findByIntent (intentId : String) : Option PendingSlash := (table.findUnique intentId).map (·.fromRow)

/-- Insert a `detected` row; a violation of the unique key on the intent returns the row that is there. -/
def createIfAbsent (input : NewPendingSlash) (clock : Nat) : (PendingSlash × Bool) × PendingSlashTable :=
  match table.findUnique input.intentId with
  | some existing => ((existing.fromRow, false), table)
  | none =>
    let row : PendingSlashRow :=
      { intentId := input.intentId, solverAddress := input.solverAddress, reason := input.reason
        fillDeadline := input.fillDeadline, detectedAt := input.detectedAt
        challengeEndsAt := input.challengeEndsAt
        -- The defaults of the schema.
        nextAttemptAt := clock, createdAt := clock, updatedAt := clock }
    ((row.fromRow, true), JsMap.set table input.intentId row)

def claim (intentId : String) (now leaseUntil clock : Nat) : Bool × PendingSlashTable :=
  let (count, table') := table.updateMany intentId (·.isFree now) (·.set {} (some leaseUntil) clock)
  (0 < count, table')

def transition (intentId : String) («from» : List PendingSlashState) (patch : PendingSlashPatch)
    (now : Option Nat) (clock : Nat) : Option PendingSlash × PendingSlashTable :=
  let (count, table') := table.updateMany intentId
    (fun row => decide (row.state ∈ «from») && now.all row.isFree) (·.set patch.toData none clock)
  if count = 0 then (none, table') else (table'.findByIntent intentId, table')

end PendingSlashTable

/-! ### Operations -/

/-- The writes that the slashing pipeline makes. -/
inductive SlashOperation where
  | createIfAbsent (input : NewPendingSlash)
  | claim (intentId : String) (now leaseUntil : Nat)
  | transition (intentId : String) («from» : List PendingSlashState) (patch : PendingSlashPatch) (now : Option Nat)
deriving Repr, DecidableEq

inductive SlashAnswer where
  | created (slash : PendingSlash) (isNew : Bool)
  | claimed (taken : Bool)
  | moved (slash : Option PendingSlash)
deriving Repr, DecidableEq

/-- One write, at the time that the clock shows. -/
def SlashStore.apply (store : SlashStore) : Nat × SlashOperation → SlashAnswer × SlashStore
  | (clock, .createIfAbsent input) =>
    let ((slash, isNew), store') := store.createIfAbsent input clock
    (.created slash isNew, store')
  | (_, .claim intentId now leaseUntil) =>
    let (taken, store') := store.claim intentId now leaseUntil
    (.claimed taken, store')
  | (clock, .transition intentId «from» patch now) =>
    let (slash, store') := store.transition intentId «from» patch now clock
    (.moved slash, store')

def PendingSlashTable.apply (table : PendingSlashTable) : Nat × SlashOperation → SlashAnswer × PendingSlashTable
  | (clock, .createIfAbsent input) =>
    let ((slash, isNew), table') := table.createIfAbsent input clock
    (.created slash isNew, table')
  | (clock, .claim intentId now leaseUntil) =>
    let (taken, table') := table.claim intentId now leaseUntil clock
    (.claimed taken, table')
  | (clock, .transition intentId «from» patch now) =>
    let (slash, table') := table.transition intentId «from» patch now clock
    (.moved slash, table')

/-! ### Lemmas -/

namespace PendingSlashTable

variable {table : PendingSlashTable} {id : String} {condition : PendingSlashRow → Bool}
  {change : PendingSlashRow → PendingSlashRow} {row : PendingSlashRow}

theorem findUnique_set (table : PendingSlashTable) (id id' : String) (row : PendingSlashRow) :
    findUnique (JsMap.set table id row) id' = if id' = id then some row else table.findUnique id' :=
  JsMap.get_set _ _ _ _

theorem updateMany_absent (absent : table.findUnique id = none) :
    table.updateMany id condition change = (0, table) := by
  rw [updateMany, absent]

theorem updateMany_hit (found : table.findUnique id = some row) (hit : condition row = true) :
    table.updateMany id condition change = (1, JsMap.set table id (change row)) := by
  rw [updateMany, found]
  exact if_pos hit

theorem updateMany_miss (found : table.findUnique id = some row) (miss : condition row = false) :
    table.updateMany id condition change = (0, table) := by
  rw [updateMany, found]
  exact if_neg (by rw [miss]; decide)

end PendingSlashTable

end VortexBackend
