/-
Module: VortexBackend.Solvers.PendingSlashes
Purpose: The store of pending slashes. Every state change clears the lease; `claim` looks at the lease only.
Trusted boundary: row ids are left out, nothing reads them
Main exports: SlashStore
-/
import VortexBackend.Js.Map
import Mathlib.Data.List.Sort

namespace VortexBackend

inductive PendingSlashState where
  | detected
  | challengeWindow
  | submitted
  | confirmed
  | cancelled
deriving Repr, DecidableEq

def PendingSlashState.name : PendingSlashState → String
  | .detected => "detected"
  | .challengeWindow => "challenge_window"
  | .submitted => "submitted"
  | .confirmed => "confirmed"
  | .cancelled => "cancelled"

/-- One slash; times are in milliseconds, `fillDeadline` in seconds. -/
structure PendingSlash where
  intentId : String
  solverAddress : String
  reason : String
  state : PendingSlashState
  fillDeadline : Nat
  detectedAt : Nat
  challengeEndsAt : Nat
  attempts : Nat
  nextAttemptAt : Nat
  lockedUntil : Option Nat := none
  txHash : Option String := none
  simulated : Bool := false
  submittedAt : Option Nat := none
  confirmedAt : Option Nat := none
  cancelledAt : Option Nat := none
  cancelReason : Option String := none
  cancelledBy : Option String := none
  fillTxHash : Option String := none
  lastError : Option String := none
  createdAt : Nat := 0
  updatedAt : Nat := 0
deriving Repr, DecidableEq

structure NewPendingSlash where
  intentId : String
  solverAddress : String
  reason : String
  fillDeadline : Nat
  detectedAt : Nat
  challengeEndsAt : Nat
deriving Repr, DecidableEq

/-- The fields that a transition writes; the outer `Option` says whether the field is in the patch. -/
structure PendingSlashPatch where
  state : Option PendingSlashState := none
  attempts : Option Nat := none
  nextAttemptAt : Option Nat := none
  txHash : Option (Option String) := none
  simulated : Option Bool := none
  submittedAt : Option (Option Nat) := none
  confirmedAt : Option (Option Nat) := none
  cancelledAt : Option (Option Nat) := none
  cancelReason : Option (Option String) := none
  cancelledBy : Option (Option String) := none
  fillTxHash : Option (Option String) := none
  lastError : Option (Option String) := none
deriving Repr, DecidableEq

namespace PendingSlash

variable (row : PendingSlash)

/-- `Object.assign(row, patch, { lockedUntil: undefined, updatedAt: new Date() })` -/
def assign (patch : PendingSlashPatch) (clock : Nat) : PendingSlash :=
  { row with
    state := patch.state.getD row.state
    attempts := patch.attempts.getD row.attempts
    nextAttemptAt := patch.nextAttemptAt.getD row.nextAttemptAt
    txHash := patch.txHash.getD row.txHash
    simulated := patch.simulated.getD row.simulated
    submittedAt := patch.submittedAt.getD row.submittedAt
    confirmedAt := patch.confirmedAt.getD row.confirmedAt
    cancelledAt := patch.cancelledAt.getD row.cancelledAt
    cancelReason := patch.cancelReason.getD row.cancelReason
    cancelledBy := patch.cancelledBy.getD row.cancelledBy
    fillTxHash := patch.fillTxHash.getD row.fillTxHash
    lastError := patch.lastError.getD row.lastError
    lockedUntil := none
    updatedAt := clock }

/-- No lease, or one that has run out. -/
def unlocked (now : Nat) : Bool := row.lockedUntil.all (· < now)

/-- The pipeline has something to do for the row. -/
def due (now : Nat) : Bool :=
  row.state == .detected ||
  (row.state == .challengeWindow && row.challengeEndsAt ≤ now && row.nextAttemptAt ≤ now) ||
  (row.state == .submitted && !row.simulated && row.nextAttemptAt ≤ now)

end PendingSlash

/-- The rows, each under the id of its intent. -/
structure SlashStore where
  rows : JsMap String PendingSlash
  keyed : ∀ id row, rows.get id = some row → row.intentId = id

namespace SlashStore

def empty : SlashStore := ⟨.empty, by simp⟩

/-- `findByIntent` -/
def get (store : SlashStore) (intentId : String) : Option PendingSlash := store.rows.get intentId

variable (store : SlashStore)

def put (row : PendingSlash) : SlashStore where
  rows := store.rows.set row.intentId row
  keyed := by
    intro id other h
    rw [JsMap.get_set] at h
    split at h
    · rename_i same
      cases h
      exact same.symm
    · exact store.keyed id other h

/-- Insert a `detected` row unless the intent has one; `clock` is the time of the insertion. -/
def createIfAbsent (input : NewPendingSlash) (clock : Nat) : (PendingSlash × Bool) × SlashStore :=
  match store.get input.intentId with
  | some existing => ((existing, false), store)
  | none =>
    let row : PendingSlash :=
      { intentId := input.intentId, solverAddress := input.solverAddress, reason := input.reason
        state := .detected, fillDeadline := input.fillDeadline, detectedAt := input.detectedAt
        challengeEndsAt := input.challengeEndsAt, attempts := 0, nextAttemptAt := clock
        createdAt := clock, updatedAt := clock }
    ((row, true), store.put row)

/-- The rows to act on now that are not leased, oldest first. -/
def findDue (now limit : Nat) : List PendingSlash :=
  (((store.rows.values.filter (·.unlocked now)).filter (·.due now)).insertionSort
    fun a b => a.detectedAt ≤ b.detectedAt).take limit

/-- Take the processing lease if it is free or expired. -/
def claim (intentId : String) (now leaseUntil : Nat) : Bool × SlashStore :=
  match store.get intentId with
  | none => (false, store)
  | some row =>
    if row.unlocked now then (true, store.put { row with lockedUntil := some leaseUntil, updatedAt := now })
    else (false, store)

/-- Conditional update; checks the lease only when given the time. Always clears the lease. -/
def transition (intentId : String) («from» : List PendingSlashState)
    (patch : PendingSlashPatch) (now : Option Nat) (clock : Nat) : Option PendingSlash × SlashStore :=
  match store.get intentId with
  | none => (none, store)
  | some row =>
    if row.state ∉ «from» then (none, store)
    else if now.any fun time => !row.unlocked time then (none, store)
    else (some (row.assign patch clock), store.put (row.assign patch clock))

/-! ### Lemmas -/

theorem get_put (row : PendingSlash) (id : String) :
    (store.put row).get id = if id = row.intentId then some row else store.get id :=
  JsMap.get_set _ _ _ _

variable {store store' : SlashStore} {row : PendingSlash}

theorem intentId_of_get {id} (h : store.get id = some row) : row.intentId = id :=
  store.keyed id row h

theorem mem_findDue {now limit} (h : row ∈ store.findDue now limit) :
    store.get row.intentId = some row ∧ row.unlocked now = true ∧ row.due now = true := by
  have member := List.mem_of_mem_take h
  rw [List.mem_insertionSort, List.mem_filter, List.mem_filter, JsMap.mem_values] at member
  obtain ⟨⟨⟨id, present⟩, unlocked⟩, due⟩ := member
  exact ⟨store.keyed id row present ▸ present, unlocked, due⟩

theorem createIfAbsent_cases {input clock reply} (h : store.createIfAbsent input clock = (reply, store')) :
    store' = store ∨
      store.get input.intentId = none ∧ reply.1.intentId = input.intentId ∧ store' = store.put reply.1 := by
  unfold createIfAbsent at h
  split at h
  · cases h
    exact .inl rfl
  · rename_i absent
    cases h
    exact .inr ⟨absent, rfl, rfl⟩

variable {intentId : String}

theorem claim_cases {now leaseUntil taken} (h : store.claim intentId now leaseUntil = (taken, store')) :
    (taken = false ∧ store' = store) ∨
      ∃ row, store.get intentId = some row ∧ taken = true ∧
        store' = store.put { row with lockedUntil := some leaseUntil, updatedAt := now } := by
  unfold claim at h
  split at h
  · cases h
    exact .inl ⟨rfl, rfl⟩
  · rename_i row present
    split at h
    · cases h
      exact .inr ⟨row, present, rfl, rfl⟩
    · cases h
      exact .inl ⟨rfl, rfl⟩

theorem transition_cases {«from» patch now clock result}
    (h : store.transition intentId «from» patch now clock = (result, store')) :
    (result = none ∧ store' = store) ∨
      ∃ row, store.get intentId = some row ∧ row.state ∈ «from» ∧
        (∀ time, now = some time → row.unlocked time = true) ∧
        result = some (row.assign patch clock) ∧ store' = store.put (row.assign patch clock) := by
  unfold transition at h
  split at h
  · cases h
    exact .inl ⟨rfl, rfl⟩
  · rename_i row present
    split at h
    · cases h
      exact .inl ⟨rfl, rfl⟩
    · rename_i allowed
      split at h
      · cases h
        exact .inl ⟨rfl, rfl⟩
      · rename_i free
        cases h
        refine .inr ⟨row, present, not_not.mp allowed, ?_, rfl, rfl⟩
        intro time isTime
        simpa [isTime] using free

end SlashStore

end VortexBackend
