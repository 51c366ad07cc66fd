/-
Module: VortexBackend.Proofs.OutboxOwnership
Purpose: A worker holds a row as its own writes left it, or has lost it, lease and token.
Main exports: Held, Lost, Claim
-/
import VortexBackend.Proofs.OutboxFencing

namespace VortexBackend

open OutboxStore RelayWorld

/-- The request that claimed the row last. -/
def holder (id : Nat) : List RelayEvent → Option Nat
  | [] => none
  | e :: older => if claimsRow id e then some e.actor.pid else holder id older

/-- The entry that request `p` got from its last claim of the row. -/
def claimOf (p id : Nat) : List RelayEvent → Option OutboxEntry
  | [] => none
  | e :: older =>
    if e.actor.pid = p ∧ claimsRow id e then (claimedIn e).find? (·.id == id) else claimOf p id older

/-- What every relay worker promises about its calls: only the holder of a row updates it, claims are not
    dated ahead of the clock, and dead rows are left to the operators. -/
structure RelayPromise (v : RelayView) (e : RelayEvent) : Prop where
  owned : ∀ y, carried e.call = some y → succeeded e = true → holder y.id v.history = some e.actor.pid
  dated : ∀ now limit leaseUntil, e.call = .outbox (.claimDue now limit leaseUntil) → now ≤ v.world.now
  noRequeue : ∀ id, e.call ≠ .outbox (.requeueDead id)

/-- Request `p` holds the row of `x`, which is as its claim left it but for the recorded envelope. -/
structure Held (p : Nat) (x : OutboxEntry) (envelopeHash : Option String) (v : RelayView) : Prop where
  latest : holder x.id v.history = some p
  row : ∃ row, v.world.outbox.get x.id = some row ∧ row.status = .processing ∧
    row.attempts = x.attempts ∧ row.lockedUntil = x.lockedUntil ∧ row.envelopeHash = envelopeHash

/-- The lease of `x` has expired and the row's token is out of reach for it. -/
structure Lost (x : OutboxEntry) (w : RelayWorld) : Prop where
  row : ∃ row, w.outbox.get x.id = some row ∧
    (x.attempts < row.attempts ∨ x.attempts = row.attempts ∧ row.status = .pending)
  expired : ∃ lease, x.lockedUntil = some lease ∧ lease < w.now

/-- Request `p` claimed `x` and holds it still, or has lost it. -/
structure Claim (p : Nat) (x : OutboxEntry) (envelopeHash : Option String) (v : RelayView) : Prop where
  mine : claimOf p x.id v.history = some x
  owned : Held p x envelopeHash v ∨ Lost x v.world

/-! ### Frames -/

variable {e : RelayEvent} {p : Nat} {w w' : RelayWorld} {v : RelayView} {x : OutboxEntry} {id : Nat}
  {history : List RelayEvent}

theorem holder_cons_of_not (h : claimsRow id e = false) : holder id (e :: history) = holder id history := by
  simp [holder, h]

theorem claimOf_cons_of_not (h : e.actor.pid ≠ p ∨ claimsRow id e = false) :
    claimOf p id (e :: history) = claimOf p id history := by
  rcases h with other | none <;> simp [claimOf, *]

variable {call : RelayCall}

theorem now_perform {choice reply} (h : perform call choice w = some (reply, w')) : w'.now = w.now := by
  cases call with
  | beginTick | build | sleepUntil | nextSequence =>
    simp only [perform] at h
    split at h <;> cases h <;> rfl
  | submit hash =>
    cases h
    cases choice.reaches <;> rfl
  | _ =>
    cases h
    rfl

theorem Answered.now_eq {settings E v'} (answered : Answered (relayService settings) E v e v') :
    v'.world.now = v.world.now := by
  obtain ⟨_, _, performed, rfl⟩ := answered.performed
  exact now_perform performed

theorem Lost.of_get_eq (lost : Lost x w) (same : w'.outbox.get x.id = w.outbox.get x.id) (later : w.now ≤ w'.now) :
    Lost x w' := by
  obtain ⟨row, present, token⟩ := lost.row
  obtain ⟨lease, hlease, past⟩ := lost.expired
  exact ⟨⟨row, same.trans present, token⟩, lease, hlease, past.trans_le later⟩

variable {envelopeHash : Option String}

theorem Held.of_get_eq {v'} (held : Held p x envelopeHash v) (same : v'.world.outbox.get x.id = v.world.outbox.get x.id)
    (holderEq : holder x.id v'.history = holder x.id v.history) : Held p x envelopeHash v' := by
  obtain ⟨row, present, fields⟩ := held.row
  exact ⟨holderEq.trans held.latest, row, same.trans present, fields⟩

variable {row : OutboxEntry} {y : OutboxEntry}

theorem Lost.over_update (lost : Lost x w) {patch} (sameRow : x.id = y.id) (present : w.outbox.get y.id = some row)
    (tokenEq : row.attempts = y.attempts) (active : row.status ≠ .pending) (token : TokenPatch call y patch)
    (update : w'.outbox = w.outbox.assign y.id patch w.now) (sameTime : w'.now = w.now) : Lost x w' := by
  obtain ⟨row', present', past⟩ := lost.row
  rw [sameRow, present] at present'
  cases present'
  have less : x.attempts < row.attempts := by
    rcases past with less | ⟨_, pending⟩
    · exact less
    · exact absurd pending active
  have written : w'.outbox.get x.id = some (row.assign patch w.now) := by
    rw [update, sameRow, get_assign, if_pos rfl, present]
    rfl
  refine ⟨⟨_, written, ?_⟩, sameTime ▸ lost.expired⟩
  unfold TokenPatch at token
  split at token
  · have attempts : (row.assign patch w.now).attempts = y.attempts - 1 := by
      simp [OutboxEntry.assign, token.1]
    have status : (row.assign patch w.now).status = .pending := by
      simp [OutboxEntry.assign, token.2]
    rcases Nat.lt_or_ge x.attempts (y.attempts - 1) with past | equal
    · exact .inl (attempts ▸ past)
    · exact .inr ⟨by omega, status⟩
  · left
    simpa [OutboxEntry.assign, token] using less

theorem lost_of_claim (claim : Held p x envelopeHash v ∨ Lost x v.world) {now leaseUntil claimed}
    (claims : OutboxStore.Claims now leaseUntil v.world.outbox claimed w'.outbox) (dated : now ≤ v.world.now)
    (sameTime : w'.now = v.world.now) (hy : y ∈ claimed) (sameRow : y.id = x.id) : Lost x w' := by
  obtain ⟨row, present, isDue, rfl, stored⟩ := claims.claim y hy
  rw [sameRow] at present stored
  have token : (row.assign (claimPatch row leaseUntil) now).attempts = row.attempts + 1 := by
    simp [OutboxEntry.assign, claimPatch]
  rcases claim with held | lost
  · obtain ⟨row', present', processing, attempts, lease, _⟩ := held.row
    rw [present] at present'
    cases present'
    -- The row was being processed, so only an expired lease made it due.
    obtain ⟨until', hlease, expired⟩ : ∃ t, row.lockedUntil = some t ∧ t < now := by
      simpa [due, processing, Option.any_eq_true] using isDue
    refine ⟨⟨_, stored, .inl (by omega)⟩, until', lease ▸ hlease, ?_⟩
    omega
  · obtain ⟨row', present', past⟩ := lost.row
    rw [present] at present'
    cases present'
    refine ⟨⟨_, stored, .inl ?_⟩, sameTime ▸ lost.expired⟩
    rcases past with less | ⟨equal, _⟩ <;> omega

/-! ### One call, and one drift -/

section Step

variable {settings : OutboxSettings} {E : Setting RelayReply RelayWorld RelayRequest}
  {v v' : RelayView} {e : RelayEvent}

theorem get_eq_of_elsewhere (answered : Answered (relayService settings) E v e v') (promise : RelayPromise v e)
    (present : v.world.outbox.get id = some row) (noClaim : claimsRow id e = false)
    (elsewhere : ∀ y, carried e.call = some y → succeeded e = true → y.id ≠ id) :
    v'.world.outbox.get id = v.world.outbox.get id := by
  cases storeChange answered with
  | claim now limit leaseUntil call claims =>
    exact claims.others id (by simpa [claimsRow] using noClaim)
  | fenced y «from» patch writes update =>
    rcases fenced_cases update with ⟨_, same⟩ | ⟨done, same, _⟩
    · rw [same]
    · have different := elsewhere y (carried_of_fencedWrite writes) done
      rw [same, get_assign, if_neg different.symm]
  | requeue id call => exact absurd call (promise.noRequeue id)
  | enqueue entry call append => rw [append, get_enqueue _ _ _ present, present]
  | read _ _ _ same => rw [same]

variable {x : OutboxEntry} {p : Nat}

section

variable (answered : Answered (relayService settings) E v e v')
include answered

theorem lost_of_claimsRow (owned : Held p x envelopeHash v ∨ Lost x v.world) (promise : RelayPromise v e)
    (again : claimsRow x.id e = true) : Lost x v'.world := by
  simp only [claimsRow, List.any_eq_true, beq_iff_eq] at again
  obtain ⟨y, hy, sameRow⟩ := again
  cases storeChange answered with
  | claim now limit leaseUntil call claims =>
    exact lost_of_claim owned claims (promise.dated _ _ _ call) answered.now_eq hy sameRow
  | fenced _ _ _ writes => simp [claimedIn_of_carried (carried_of_fencedWrite writes)] at hy
  | requeue _ call | enqueue _ call => simp [claimedIn_eq_nil (e := e) (by simp [call])] at hy
  | read noClaim => simp [noClaim] at hy

/-- What is lost stays lost, whoever makes the call. -/
theorem Lost.step (lost : Lost x v.world) (promise : RelayPromise v e) : Lost x v'.world := by
  have sameTime := answered.now_eq
  obtain ⟨row, present, _⟩ := lost.row
  by_cases update : ∃ y, carried e.call = some y ∧ succeeded e = true ∧ y.id = x.id
  · obtain ⟨y, carries, done, sameRow⟩ := update
    cases storeChange answered with
    | fenced y' «from» patch writes update =>
      rw [carried_of_fencedWrite writes] at carries
      cases carries
      rcases fenced_cases update with ⟨refused, _⟩ | ⟨_, same, row', present', tokenEq, status⟩
      · rw [done] at refused
        cases refused
      · have active : row'.status ≠ .pending := fun h => (from_of_fencedWrite writes).1 (h ▸ status)
        exact lost.over_update sameRow.symm present' tokenEq active (token_of_fencedWrite writes) same
          sameTime
    | claim _ _ _ call | requeue _ call | enqueue _ call => simp [call, carried, fencedWrite] at carries
    | read _ noEntry => simp [carries] at noEntry
  · cases again : claimsRow x.id e with
    | false =>
      apply lost.of_get_eq _ sameTime.ge
      exact get_eq_of_elsewhere answered promise present again fun y carries done sameRow =>
        update ⟨y, carries, done, sameRow⟩
    | true =>
      have owned : Held 0 x none v ∨ Lost x v.world := .inr lost
      exact lost_of_claimsRow answered owned promise again

/-- A row that is held stays as it is, or is lost to a claim, over every call of another request and every
    call that has to do with another row. -/
theorem Held.step (held : Held p x envelopeHash v) (promise : RelayPromise v e)
    (apart : e.actor.pid ≠ p ∨ (claimedIn e = [] ∧ ∀ y, carried e.call = some y → y.id ≠ x.id)) :
    Held p x envelopeHash v' ∨ Lost x v'.world := by
  obtain ⟨row, present, _⟩ := held.row
  cases again : claimsRow x.id e with
  | false =>
    left
    have holderEq : holder x.id v'.history = holder x.id v.history := by
      obtain ⟨_, _, _, rfl⟩ := answered.performed
      exact holder_cons_of_not again
    apply held.of_get_eq _ holderEq
    refine get_eq_of_elsewhere answered promise present again fun y carries done sameRow => ?_
    -- Only the holder gets an update through, and that is `p`.
    rcases apart with other | ⟨_, elsewhere⟩
    · have byHolder := promise.owned y carries done
      rw [sameRow, held.latest] at byHolder
      exact other (Option.some.inj byHolder).symm
    · exact elsewhere y carries sameRow
  | true => exact .inr (lost_of_claimsRow answered (.inl held) promise again)

theorem claimOf_step (mine : claimOf p id v.history = some x) (apart : e.actor.pid ≠ p ∨ claimedIn e = []) :
    claimOf p id v'.history = some x := by
  obtain ⟨_, _, _, rfl⟩ := answered.performed
  refine (claimOf_cons_of_not ?_).trans mine
  exact apart.imp_right fun h => claimsRow_of_claimedIn_eq_nil h id

theorem Claim.step (claim : Claim p x envelopeHash v) (promise : RelayPromise v e)
    (apart : e.actor.pid ≠ p ∨ (claimedIn e = [] ∧ ∀ y, carried e.call = some y → y.id ≠ x.id)) :
    Claim p x envelopeHash v' := by
  refine ⟨claimOf_step answered claim.mine (apart.imp_right And.left), ?_⟩
  rcases claim.owned with held | lost
  · exact held.step answered promise apart
  · exact .inr (lost.step answered promise)

end

end Step

section Drift

variable {v : RelayView} {d : RelayWorld.Drift} {w : RelayWorld}

theorem get_eq_of_drift (drifted : drift d v.world = some w) (present : v.world.outbox.get id = some row) :
    w.outbox.get id = v.world.outbox.get id ∧ v.world.now ≤ w.now := by
  cases d with
  | tick ms =>
    cases drifted
    exact ⟨rfl, Nat.le_add_right _ _⟩
  | enqueue entry =>
    cases drifted
    exact ⟨(get_enqueue _ _ _ present).trans present.symm, le_rfl⟩
  | close hash applied =>
    simp only [drift] at drifted
    split at drifted <;> cases drifted
    exact ⟨rfl, le_rfl⟩
  | setKillSwitch | bumpSequence =>
    cases drifted
    exact ⟨rfl, le_rfl⟩

variable {x : OutboxEntry}

theorem Lost.drift (lost : Lost x v.world) (drifted : drift d v.world = some w) : Lost x w := by
  obtain ⟨row, present, _⟩ := lost.row
  obtain ⟨same, later⟩ := get_eq_of_drift drifted present
  exact lost.of_get_eq same later

theorem Held.drift {p} (held : Held p x envelopeHash v) (drifted : drift d v.world = some w) :
    Held p x envelopeHash { v with world := w } := by
  obtain ⟨row, present, _⟩ := held.row
  exact held.of_get_eq (get_eq_of_drift drifted present).1 rfl

theorem Claim.drift {p} (claim : Claim p x envelopeHash v) (drifted : drift d v.world = some w) :
    Claim p x envelopeHash { v with world := w } :=
  ⟨claim.mine, claim.owned.imp (·.drift drifted) (·.drift drifted)⟩

end Drift

end VortexBackend
