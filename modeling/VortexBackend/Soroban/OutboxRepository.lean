/-
Module: VortexBackend.Soroban.OutboxRepository
Purpose: The in-memory outbox: claims under a lease, and updates fenced on the number of claims.
Trusted boundary: times are milliseconds; row ids are the numbers their decimal strings denote.
Main exports: OutboxStore
-/
import Mathlib.Data.List.Sort
import VortexBackend.Js.Map

namespace VortexBackend

open JsMap

/-- Settlement-contract operations that flow through the outbox. -/
inductive OutboxOperation where
  | createIntent
  | acceptIntent
  | fillIntent
  | cancelIntent
deriving Repr, DecidableEq

/-- Row lifecycle. -/
inductive OutboxStatus where
  | pending
  | processing
  | submitted
  | confirmed
  | simulated
  | dead
deriving Repr, DecidableEq

def OUTBOX_STATUSES : List OutboxStatus :=
  [.pending, .processing, .submitted, .confirmed, .simulated, .dead]

/-- Statuses after which the next row for the same intent may proceed. -/
def OUTBOX_DONE_STATUSES : List OutboxStatus := [.confirmed, .simulated]

/-- A JSON value of a payload. -/
inductive PayloadValue where
  | text (s : String)
  | number (n : Nat)
deriving Repr, DecidableEq

/-- One row. `attempts` counts the claims so far and is the fencing token. -/
structure OutboxEntry where
  id : Nat
  intentId : String
  operation : OutboxOperation
  payload : List (String × PayloadValue)
  status : OutboxStatus
  attempts : Nat
  nextAttemptAt : Nat
  lockedUntil : Option Nat := none
  envelopeHash : Option String := none
  txHash : Option String := none
  lastError : Option String := none
  createdAt : Nat
  updatedAt : Nat
deriving Repr, DecidableEq

/-- What intent-mutating code hands to the outbox. -/
structure NewOutboxEntry where
  intentId : String
  operation : OutboxOperation
  payload : List (String × PayloadValue)
deriving Repr, DecidableEq

/-- The fields an update writes; the others are left alone. `some none` writes `undefined`. -/
structure OutboxPatch where
  status : Option OutboxStatus := none
  attempts : Option Nat := none
  nextAttemptAt : Option Nat := none
  lockedUntil : Option (Option Nat) := none
  envelopeHash : Option (Option String) := none
  txHash : Option (Option String) := none
  lastError : Option (Option String) := none
deriving Repr, DecidableEq

variable (row : OutboxEntry)

/-- `Object.assign(row, patch, { updatedAt })` -/
def OutboxEntry.assign (patch : OutboxPatch) (updatedAt : Nat) : OutboxEntry :=
  { row with
    status := patch.status.getD row.status
    attempts := patch.attempts.getD row.attempts
    nextAttemptAt := patch.nextAttemptAt.getD row.nextAttemptAt
    lockedUntil := patch.lockedUntil.getD row.lockedUntil
    envelopeHash := patch.envelopeHash.getD row.envelopeHash
    txHash := patch.txHash.getD row.txHash
    lastError := patch.lastError.getD row.lastError
    updatedAt }

/-- The rows under their ids, none of which the sequence will hand out again. -/
structure OutboxStore where
  rows : JsMap Nat OutboxEntry
  sequence : Nat
  keyed : ∀ id row, rows.get id = some row → row.id = id
  numbered : ∀ id row, rows.get id = some row → id ≤ sequence

namespace OutboxStore

/-- The store of a process that has just started. -/
def empty : OutboxStore := ⟨.empty, 0, by simp, by simp⟩

/-- The row under an id. -/
def get (store : OutboxStore) (id : Nat) : Option OutboxEntry := store.rows.get id

/-- Update the row under an id in place, if there is one. -/
def assign (store : OutboxStore) (id : Nat) (patch : OutboxPatch) (updatedAt : Nat) : OutboxStore :=
  match h : store.rows.get id with
  | none => store
  | some row =>
    { rows := store.rows.set id (row.assign patch updatedAt)
      sequence := store.sequence
      keyed := by
        intro id' row' h'
        rw [get_set] at h'
        split at h'
        · cases h'
          subst id'
          exact store.keyed id row h
        · exact store.keyed id' row' h'
      numbered := by
        intro id' row' h'
        rw [get_set] at h'
        split at h'
        · subst id'
          exact store.numbered id row h
        · exact store.numbered id' row' h' }

variable (store : OutboxStore)

/-- Append a new row under the next id. -/
def enqueue (entry : NewOutboxEntry) (now : Nat) : OutboxEntry × OutboxStore :=
  let row : OutboxEntry :=
    { entry with
      id := store.sequence + 1
      status := .pending
      attempts := 0
      nextAttemptAt := now
      createdAt := now
      updatedAt := now }
  (row,
    { rows := store.rows.set (store.sequence + 1) row
      sequence := store.sequence + 1
      keyed := by
        intro id' row' h'
        rw [get_set] at h'
        split at h'
        · cases h'
          exact Eq.symm ‹_›
        · exact store.keyed id' row' h'
      numbered := by
        intro id' row' h'
        rw [get_set] at h'
        split at h'
        · exact Nat.le_of_eq ‹_›
        · exact (store.numbered id' row' h').trans (Nat.le_succ _) })

/-- All rows in the order of their ids. -/
def ordered : List OutboxEntry :=
  store.rows.values.insertionSort fun a b => a.id ≤ b.id

/-- A row that a claim may take: pending and due, or abandoned by the worker whose lease expired. -/
def due (now : Nat) : Bool :=
  (row.status == .pending && row.nextAttemptAt ≤ now) ||
    (row.status == .processing && row.lockedUntil.any (· < now))

/-- What a claim writes to a row. -/
def claimPatch (leaseUntil : Nat) : OutboxPatch :=
  { status := some .processing, attempts := some (row.attempts + 1), lockedUntil := some (some leaseUntil) }

/-- The claiming loop over the ordered rows. Only the first unfinished row of an intent is eligible. -/
def claimLoop (now limit leaseUntil : Nat) :
    List OutboxEntry → List String → List OutboxEntry → OutboxStore → List OutboxEntry × OutboxStore
  | [], _, claimed, store => (claimed, store)
  | row :: rest, headSeen, claimed, store =>
    if limit ≤ claimed.length then (claimed, store)
    else if row.status ∈ OUTBOX_DONE_STATUSES then claimLoop now limit leaseUntil rest headSeen claimed store
    else if row.intentId ∈ headSeen then claimLoop now limit leaseUntil rest headSeen claimed store
    else if !due row now then
      claimLoop now limit leaseUntil rest (row.intentId :: headSeen) claimed store
    else
      claimLoop now limit leaseUntil rest (row.intentId :: headSeen)
        (claimed ++ [row.assign (claimPatch row leaseUntil) now])
        (store.assign row.id (claimPatch row leaseUntil) now)

/-- Claim up to `limit` due head rows under a lease. -/
def claimDue (now limit leaseUntil : Nat) : List OutboxEntry × OutboxStore :=
  claimLoop now limit leaseUntil store.ordered [] [] store

/-- Rows waiting on confirmation, oldest first. -/
def findSubmitted (limit : Nat) : List OutboxEntry :=
  (store.ordered.filter (·.status == .submitted)).take limit

/-- How many rows are in each status. -/
def countByStatus : List (OutboxStatus × Nat) :=
  OUTBOX_STATUSES.map fun status => (status, store.rows.values.countP (·.status == status))

variable (entry : OutboxEntry)

/-- Apply a patch only while the row still carries the entry's token and one of the given statuses. -/
def fenced («from» : List OutboxStatus) (patch : OutboxPatch) (now : Nat) : Bool × OutboxStore :=
  match store.get entry.id with
  | none => (false, store)
  | some row =>
    if row.attempts ≠ entry.attempts ∨ row.status ∉ «from» then (false, store)
    else (true, store.assign entry.id patch now)

def recordEnvelope (envelopeHash : String) (now : Nat) : Bool × OutboxStore :=
  store.fenced entry [.processing] { envelopeHash := some (some envelopeHash) } now

def markSubmitted (txHash : String) (now : Nat) : Bool × OutboxStore :=
  store.fenced entry [.processing]
    { status := some .submitted, txHash := some (some txHash), lockedUntil := some none } now

def markConfirmed (txHash : String) (now : Nat) : Bool × OutboxStore :=
  store.fenced entry [.processing, .submitted]
    { status := some .confirmed, txHash := some (some txHash), lockedUntil := some none } now

def markSimulated (now : Nat) : Bool × OutboxStore :=
  store.fenced entry [.processing] { status := some .simulated, lockedUntil := some none } now

def scheduleRetry (error : String) (nextAttemptAt : Nat) (now : Nat) : Bool × OutboxStore :=
  store.fenced entry [.processing, .submitted]
    { status := some .pending, nextAttemptAt := some nextAttemptAt, lastError := some (some error)
      lockedUntil := some none, envelopeHash := some none, txHash := some none } now

def markDead (error : String) (now : Nat) : Bool × OutboxStore :=
  store.fenced entry [.processing, .submitted]
    { status := some .dead, lastError := some (some error), lockedUntil := some none } now

/-- Give the claim back without consuming its attempt. -/
def release (note : String) (nextAttemptAt : Nat) (now : Nat) : Bool × OutboxStore :=
  store.fenced entry [.processing]
    { status := some .pending, attempts := some (entry.attempts - 1)
      nextAttemptAt := some nextAttemptAt, lastError := some (some note), lockedUntil := some none
      envelopeHash := some none } now

/-- Operator action: `dead` → `pending` with the attempts reset. -/
def requeueDead (id : Nat) (now : Nat) : Bool × OutboxStore :=
  match store.get id with
  | none => (false, store)
  | some row =>
    if row.status ≠ .dead then (false, store)
    else
      (true, store.assign id
        { status := some .pending, attempts := some 0, nextAttemptAt := some now
          envelopeHash := some none, txHash := some none } now)

/-! ### How a row can change -/

theorem get_assign (id id' : Nat) (patch : OutboxPatch) (now : Nat) : (store.assign id patch now).get id' =
      if id' = id then (store.get id).map (·.assign patch now) else store.get id' := by
  unfold assign
  split
  · rename_i absent
    split
    · subst id'
      simp [get, absent]
    · rfl
  · rename_i row present
    simp only [get, get_set, present, Option.map_some]

variable {id now : Nat} {row : OutboxEntry} {store store' : OutboxStore}

theorem get_enqueue (store : OutboxStore) (entry : NewOutboxEntry) (now : Nat) (h : store.get id = some row) :
    (store.enqueue entry now).2.get id = some row := by
  have bound := store.numbered id row h
  have fresh : id ≠ store.sequence + 1 := by omega
  simp only [enqueue, get, get_set_of_ne _ _ fresh]
  exact h

theorem get_id (h : store.get id = some row) : row.id = id :=
  store.keyed id row h

theorem mem_ordered : row ∈ store.ordered ↔ store.get row.id = some row := by
  rw [ordered, List.mem_insertionSort, mem_values]
  constructor
  · rintro ⟨id, h⟩
    rwa [get, store.keyed id row h]
  · exact fun h => ⟨row.id, h⟩

theorem nodup_ordered (store : OutboxStore) : (store.ordered.map (·.id)).Nodup := by
  have keys : store.rows.values.map (·.id) = store.rows.entries.map Prod.fst := by
    rw [values, List.map_map]
    refine List.map_congr_left fun entry h => ?_
    exact store.keyed entry.1 entry.2 (get_eq_some.mpr h)
  refine ((List.perm_insertionSort _ store.rows.values).map _).nodup_iff.mpr ?_
  rw [keys]
  exact store.rows.nodup

/-- What one pass of the claiming loop has done: each claimed entry is a due row of the store it
    started from, as the claim leaves it, and the other rows are untouched. -/
structure Claims (now leaseUntil : Nat) (store : OutboxStore) (claimed : List OutboxEntry)
    (store' : OutboxStore) : Prop where
  claim : ∀ entry ∈ claimed, ∃ row, store.get entry.id = some row ∧ due row now = true ∧
    entry = row.assign (claimPatch row leaseUntil) now ∧ store'.get entry.id = some entry
  others : ∀ id, (∀ entry ∈ claimed, entry.id ≠ id) → store'.get id = store.get id
  nodup : (claimed.map (·.id)).Nodup

theorem Claims.snoc {leaseUntil claimed} (claims : Claims now leaseUntil store claimed store')
    (stored : store.get row.id = some row) (isDue : due row now = true)
    (fresh : ∀ entry ∈ claimed, entry.id ≠ row.id) :
    Claims now leaseUntil store (claimed ++ [row.assign (claimPatch row leaseUntil) now])
      (store'.assign row.id (claimPatch row leaseUntil) now) where
  claim := by
    intro entry hentry
    rcases List.mem_append.mp hentry with earlier | last
    · obtain ⟨old, hold, holdDue, heq, hnow⟩ := claims.claim entry earlier
      refine ⟨old, hold, holdDue, heq, ?_⟩
      rw [get_assign, if_neg (fresh entry earlier), hnow]
    · rw [List.mem_singleton] at last
      subst last
      refine ⟨row, stored, isDue, rfl, ?_⟩
      have kept : store'.get row.id = some row := (claims.others row.id fresh).trans stored
      rw [get_assign]
      simp [OutboxEntry.assign, kept]
  others := by
    intro id hid
    have hne : id ≠ row.id := fun h =>
      hid _ (List.mem_append_right _ (List.mem_singleton_self _)) h.symm
    rw [get_assign, if_neg hne]
    exact claims.others id fun entry h => hid entry (List.mem_append_left _ h)
  nodup := by
    rw [List.map_append, List.nodup_append]
    refine ⟨claims.nodup, List.nodup_singleton _, ?_⟩
    intro id hid id' hid'
    obtain ⟨entry, hentry, rfl⟩ := List.mem_map.mp hid
    rw [List.map_singleton, List.mem_singleton] at hid'
    subst hid'
    exact fresh entry hentry

theorem claims_claimLoop {limit leaseUntil} :
    ∀ (rows : List OutboxEntry) (headSeen : List String) (claimed : List OutboxEntry)
      (store' : OutboxStore), (∀ row ∈ rows, store.get row.id = some row) →
      (rows.map (·.id)).Nodup → (∀ row ∈ rows, ∀ entry ∈ claimed, entry.id ≠ row.id) →
      Claims now leaseUntil store claimed store' →
      Claims now leaseUntil store (claimLoop now limit leaseUntil rows headSeen claimed store').1
        (claimLoop now limit leaseUntil rows headSeen claimed store').2 := by
  intro rows
  induction rows with
  | nil => exact fun _ _ _ _ _ _ claims => claims
  | cons row rest ih =>
    intro headSeen claimed store' stored nodup fresh claims
    rw [List.map_cons, List.nodup_cons] at nodup
    have skip := fun headSeen => ih headSeen claimed store' (fun r hr => stored r (.tail _ hr))
      nodup.2 (fun r hr => fresh r (.tail _ hr)) claims
    unfold claimLoop
    split
    · exact claims
    · split
      · exact skip headSeen
      · split
        · exact skip headSeen
        · split
          · exact skip _
          · rename_i isDue
            refine ih _ _ _ (fun r hr => stored r (.tail _ hr)) nodup.2 ?_
              (claims.snoc (stored row (.head _)) (by simpa using isDue) (fresh row (.head _)))
            intro r hr entry hentry
            rcases List.mem_append.mp hentry with earlier | last
            · exact fresh r (.tail _ hr) entry earlier
            · rw [List.mem_singleton] at last
              subst last
              intro same
              exact nodup.1 (List.mem_map.mpr ⟨r, hr, same.symm⟩)

theorem claims_claimDue (store : OutboxStore) (now limit leaseUntil : Nat) :
    Claims now leaseUntil store (store.claimDue now limit leaseUntil).1 (store.claimDue now limit leaseUntil).2 :=
  claims_claimLoop store.ordered [] [] store (fun _ h => mem_ordered.mp h) store.nodup_ordered
    (by simp) ⟨by simp, fun _ _ => rfl, List.nodup_nil⟩

variable {«from» : List OutboxStatus} {entry : OutboxEntry} {patch : OutboxPatch}

theorem fenced_cases {done} (h : store.fenced entry «from» patch now = (done, store')) :
    (done = false ∧ store' = store) ∨
      (done = true ∧ store' = store.assign entry.id patch now ∧ ∃ row, store.get entry.id = some row ∧
        row.attempts = entry.attempts ∧ row.status ∈ «from») := by
  unfold fenced at h
  split at h
  · cases h
    exact .inl ⟨rfl, rfl⟩
  · rename_i row present
    split at h
    · cases h
      exact .inl ⟨rfl, rfl⟩
    · rename_i guard
      rw [not_or, not_not, not_not] at guard
      cases h
      exact .inr ⟨rfl, rfl, row, present, guard.1, guard.2⟩

theorem fenced_of_current (present : store.get entry.id = some row) (token : row.attempts = entry.attempts)
    (status : row.status ∈ «from») :
    store.fenced entry «from» patch now = (true, store.assign entry.id patch now) := by
  simp [fenced, present, token, status]

theorem requeueDead_cases {done} (h : store.requeueDead id now = (done, store')) :
    (done = false ∧ store' = store) ∨
      (done = true ∧ ∃ patch row, store' = store.assign id patch now ∧ store.get id = some row ∧
        row.status = .dead) := by
  unfold requeueDead at h
  split at h
  · cases h
    exact .inl ⟨rfl, rfl⟩
  · rename_i row present
    split at h
    · cases h
      exact .inl ⟨rfl, rfl⟩
    · rename_i guard
      rw [not_not] at guard
      cases h
      exact .inr ⟨rfl, _, row, rfl, present, guard⟩

theorem requeueDead_done (h : store.requeueDead id now = (true, store')) :
    ∃ row, store'.get id = some row ∧ row.attempts = 0 ∧ row.status = .pending := by
  unfold requeueDead at h
  split at h
  · cases h
  · rename_i row present
    split at h
    · cases h
    · cases h
      rw [get_assign, if_pos rfl, present]
      exact ⟨_, rfl, rfl, rfl⟩

end OutboxStore

end VortexBackend
