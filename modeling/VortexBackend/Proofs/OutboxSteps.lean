/-
Module: VortexBackend.Proofs.OutboxSteps
Purpose: What one answered call can do to the outbox store, said once.
Main exports: storeChange, fencedWrite
-/
import VortexBackend.Async.RelyGuarantee
import VortexBackend.Soroban.OutboxRelay

namespace VortexBackend

abbrev RelayEvent := Event RelayReply RelayRequest

abbrev RelayView := View RelayReply RelayWorld RelayRequest

/-- The entries that a claim returned. -/
def claimedIn : RelayEvent → List OutboxEntry
  | ⟨_, .outbox (.claimDue _ _ _), entries⟩ => entries
  | _ => []

/-- What a fenced operation carries, from which statuses it writes, and what it writes. -/
def fencedWrite : RelayCall → Option (OutboxEntry × List OutboxStatus × OutboxPatch)
  | .outbox (.recordEnvelope entry hash) =>
    some (entry, [.processing], { envelopeHash := some (some hash) })
  | .outbox (.markSubmitted entry hash) =>
    some (entry, [.processing],
      { status := some .submitted, txHash := some (some hash), lockedUntil := some none })
  | .outbox (.markConfirmed entry hash) =>
    some (entry, [.processing, .submitted],
      { status := some .confirmed, txHash := some (some hash), lockedUntil := some none })
  | .outbox (.markSimulated entry) =>
    some (entry, [.processing], { status := some .simulated, lockedUntil := some none })
  | .outbox (.scheduleRetry entry error nextAttemptAt) =>
    some (entry, [.processing, .submitted],
      { status := some .pending, nextAttemptAt := some nextAttemptAt, lastError := some (some error)
        lockedUntil := some none, envelopeHash := some none, txHash := some none })
  | .outbox (.markDead entry error) =>
    some (entry, [.processing, .submitted],
      { status := some .dead, lastError := some (some error), lockedUntil := some none })
  | .outbox (.release entry note nextAttemptAt) =>
    some (entry, [.processing],
      { status := some .pending, attempts := some (entry.attempts - 1)
        nextAttemptAt := some nextAttemptAt, lastError := some (some note), lockedUntil := some none
        envelopeHash := some none })
  | _ => none

/-- The entry that a fenced operation carries. -/
def carried (call : RelayCall) : Option OutboxEntry := (fencedWrite call).map (·.1)

/-- Is it a release? -/
def isRelease : RelayCall → Bool
  | .outbox (.release ..) => true
  | _ => false

/-- Did the fenced operation, or the requeue, take effect? -/
def succeeded : RelayEvent → Bool
  | ⟨_, .outbox (.recordEnvelope _ _), done⟩ | ⟨_, .outbox (.markSubmitted _ _), done⟩
  | ⟨_, .outbox (.markConfirmed _ _), done⟩ | ⟨_, .outbox (.markSimulated _), done⟩
  | ⟨_, .outbox (.scheduleRetry _ _ _), done⟩ | ⟨_, .outbox (.markDead _ _), done⟩
  | ⟨_, .outbox (.release _ _ _), done⟩ | ⟨_, .outbox (.requeueDead _), done⟩ => done
  | _ => false

/-- What a fenced operation writes: a release gives its attempt back, the others keep the token. -/
def TokenPatch (call : RelayCall) (entry : OutboxEntry) (patch : OutboxPatch) : Prop :=
  if isRelease call then
    patch.attempts = some (entry.attempts - 1) ∧ patch.status = some .pending
  else patch.attempts = none

section Write

variable {call : RelayCall} {entry : OutboxEntry} {«from» : List OutboxStatus} {patch : OutboxPatch}

section

variable (writes : fencedWrite call = some (entry, «from», patch))
include writes

theorem carried_of_fencedWrite : carried call = some entry := by
  rw [carried, writes, Option.map_some]

/-- No fenced operation touches a pending row, and each touches a row that is being processed. -/
theorem from_of_fencedWrite : .pending ∉ «from» ∧ .processing ∈ «from» := by
  unfold fencedWrite at writes
  split at writes <;> cases writes <;> decide

theorem token_of_fencedWrite : TokenPatch call entry patch := by
  unfold fencedWrite at writes
  split at writes <;> cases writes <;> simp [TokenPatch, isRelease]

end

end Write

/-- The ways an answered call can change the store. -/
inductive StoreChange (w : RelayWorld) (e : RelayEvent) (w' : RelayWorld) : Prop where
  | claim (now limit leaseUntil : Nat) (call : e.call = .outbox (.claimDue now limit leaseUntil))
      (claims : OutboxStore.Claims now leaseUntil w.outbox (claimedIn e) w'.outbox)
  | fenced (entry : OutboxEntry) («from» : List OutboxStatus) (patch : OutboxPatch)
      (writes : fencedWrite e.call = some (entry, «from», patch))
      (update : w.outbox.fenced entry «from» patch w.now = (succeeded e, w'.outbox))
  | requeue (id : Nat) (call : e.call = .outbox (.requeueDead id))
      (update : w.outbox.requeueDead id w.now = (succeeded e, w'.outbox))
  | enqueue (entry : NewOutboxEntry) (call : e.call = .outbox (.enqueue entry))
      (append : w'.outbox = (w.outbox.enqueue entry w.now).2)
  | read (noClaim : claimedIn e = []) (noEntry : carried e.call = none)
      (noRequeue : ∀ id, e.call ≠ .outbox (.requeueDead id)) (same : w'.outbox = w.outbox)

variable {settings : OutboxSettings} {E : Setting RelayReply RelayWorld RelayRequest}

theorem perform_outbox_eq {call choice w w' reply} (notStore : ∀ c, call ≠ .outbox c)
    (h : RelayWorld.perform call choice w = some (reply, w')) : w'.outbox = w.outbox := by
  cases call with
  | outbox c => exact absurd rfl (notStore c)
  | nextSequence | beginTick | build | sleepUntil =>
    simp only [RelayWorld.perform] at h
    split at h <;> cases h <;> rfl
  | submit hash =>
    cases h
    cases choice.reaches <;> rfl
  | _ =>
    cases h
    rfl

/-- Every answered call changes the store in one of these ways. -/
theorem storeChange {v v' e} (answered : Answered (relayService settings) E v e v') :
    StoreChange v.world e v'.world := by
  obtain ⟨choice, w, performed, rfl⟩ := answered.performed
  obtain ⟨actor, call, reply⟩ := e
  change RelayWorld.perform call choice v.world = some (reply, w) at performed
  cases call with
  | outbox call =>
    cases performed
    cases call with
    | enqueue entry => exact .enqueue entry rfl rfl
    | claimDue now limit leaseUntil =>
      exact .claim now limit leaseUntil rfl (v.world.outbox.claims_claimDue now limit leaseUntil)
    | findSubmitted | countByStatus => exact .read rfl rfl (by simp) rfl
    | requeueDead id => exact .requeue id rfl rfl
    | recordEnvelope | markSubmitted | markConfirmed | markSimulated | scheduleRetry | markDead
    | release =>
      exact .fenced _ _ _ rfl rfl
  | _ =>
    exact .read rfl rfl (by simp) (perform_outbox_eq (by simp) performed)

end VortexBackend
