/-
Module: VortexBackend.Proofs.OutboxSingleEffect
Purpose: At most one envelope of a row is effective: the recorded one, while the row is unfinished.
Main exports: Exclusive, RowSafe
-/
import VortexBackend.Proofs.OutboxOwnership

namespace VortexBackend

open Network

/-- The envelope can still be included. -/
def Alive (w : RelayWorld) (hash : String) : Prop :=
  ∃ envelope, w.network.envelopes.get hash = some envelope ∧
    w.now ≤ envelope.builtAt + INVOKE_TX_TIMEOUT_MS

/-- The envelope carries the row's call, and has taken effect or still can. -/
def Effective (w : RelayWorld) (row : Nat) (hash : String) : Prop :=
  w.network.carries row hash = true ∧
    (w.network.applied hash = true ∨
      (hash ∈ w.network.accepted ∧ w.network.included hash = false ∧ Alive w hash))

/-- The envelope has not taken effect and never will. -/
def Spent (w : RelayWorld) (hash : String) : Prop :=
  w.network.applied hash = false ∧
    (w.network.included hash = true ∨
      ∃ envelope, w.network.envelopes.get hash = some envelope ∧
        envelope.builtAt + INVOKE_TX_TIMEOUT_MS < w.now)

variable {w w' : RelayWorld} {hash hash' : String} {network : Network} {envelope : Envelope} {id now : Nat}
  {applied : Bool}

theorem Spent.not_effective (spent : Spent w hash) (row : Nat) : ¬Effective w row hash := by
  rintro ⟨_, applied | ⟨_, out, envelope, present, inTime⟩⟩
  · rw [spent.1] at applied
    cases applied
  · rcases spent.2 with included | ⟨envelope', present', late⟩
    · rw [out] at included
      cases included
    · rw [present] at present'
      cases present'
      omega

/-- What the invariant says about one row. -/
structure RowSafe (w : RelayWorld) (id : Nat) (row : OutboxEntry) : Prop where
  unsubmitted : row.status ≠ .submitted
  cleared : row.status = .pending → row.envelopeHash = none
  leased : row.status = .processing → ∃ lease, row.lockedUntil = some lease ∧
    ∀ hash, row.envelopeHash = some hash → ∃ envelope,
      w.network.envelopes.get hash = some envelope ∧
        (envelope.builtAt + INVOKE_TX_TIMEOUT_MS ≤ lease ∨
          envelope.builtAt + INVOKE_TX_TIMEOUT_MS < w.now)
  recorded : row.status = .pending ∨ row.status = .processing →
    ∀ hash, Effective w id hash → row.envelopeHash = some hash

/-- The invariant of the relay. -/
structure Exclusive (w : RelayWorld) : Prop where
  built : ∀ hash ∈ w.network.accepted, ∃ envelope, w.network.envelopes.get hash = some envelope
  landed : ∀ entry ∈ w.network.ledger, entry.hash ∈ w.network.accepted
  nodup : (w.network.ledger.map (·.hash)).Nodup
  known : ∀ hash envelope row, w.network.envelopes.get hash = some envelope →
    envelope.row = some row → ∃ stored, w.outbox.get row = some stored
  rows : ∀ id row, w.outbox.get id = some row → RowSafe w id row
  once : ∀ id hash₁ hash₂, Effective w id hash₁ → Effective w id hash₂ → hash₁ = hash₂

/-! ### The invariant bounds the effects -/

theorem Network.carries_of_get (h : network.envelopes.get hash = some envelope) (row : Nat) :
    network.carries row hash = true ↔ envelope.row = some row := by
  simp [carries, h]

theorem Network.applied_of_mem {entry} (h : entry ∈ network.ledger) (applied : entry.applied = true) :
    network.applied entry.hash = true := by
  simp only [Network.applied, List.any_eq_true, Bool.and_eq_true, beq_iff_eq]
  exact ⟨entry, h, rfl, applied⟩

/-- Entries of a ledger without repeated hashes that all have the same hash are at most one. -/
theorem countP_le_one_of_same_hash {l : List LedgerEntry} {p : LedgerEntry → Bool} (nodup : (l.map (·.hash)).Nodup)
    (same : ∀ x ∈ l, ∀ y ∈ l, p x = true → p y = true → x.hash = y.hash) : l.countP p ≤ 1 := by
  induction l with
  | nil => simp
  | cons x rest ih =>
    rw [List.map_cons, List.nodup_cons] at nodup
    have ihRest := ih nodup.2 fun y hy z hz => same y (.tail _ hy) z (.tail _ hz)
    rw [List.countP_cons]
    by_cases hx : p x = true
    · have none : rest.countP p = 0 := by
        rw [List.countP_eq_zero]
        intro y hy py
        apply nodup.1
        rw [same x (.head _) y (.tail _ hy) hx py]
        exact List.mem_map_of_mem hy
      simp [none, hx]
    · simp [hx, ihRest]

theorem Exclusive.effects_le_one (exclusive : Exclusive w) (row : Nat) : w.network.effects row ≤ 1 := by
  apply countP_le_one_of_same_hash exclusive.nodup
  intro x hx y hy px py
  rw [Bool.and_eq_true] at px py
  have effectiveX : Effective w row x.hash := ⟨px.2, .inl (applied_of_mem hx px.1)⟩
  have effectiveY : Effective w row y.hash := ⟨py.2, .inl (applied_of_mem hy py.1)⟩
  exact exclusive.once row _ _ effectiveX effectiveY

/-! ### Change of world -/

variable {row : OutboxEntry}

theorem RowSafe.mono (safe : RowSafe w id row)
    (persist : ∀ hash envelope, w.network.envelopes.get hash = some envelope →
      w'.network.envelopes.get hash = some envelope) (later : w.now ≤ w'.now)
    (effective : ∀ hash, Effective w' id hash → Effective w id hash) : RowSafe w' id row where
  __ := safe
  leased := by
    intro processing
    obtain ⟨lease, hlease, recorded⟩ := safe.leased processing
    refine ⟨lease, hlease, fun hash hhash => ?_⟩
    obtain ⟨envelope, present, bound⟩ := recorded hash hhash
    refine ⟨envelope, persist hash envelope present, bound.imp_right fun late => ?_⟩
    omega
  recorded := fun status hash h => safe.recorded status hash (effective hash h)

theorem Effective.of_same_network (h : Effective w' id hash) (same : w'.network = w.network)
    (later : w.now ≤ w'.now) :
    Effective w id hash := by
  unfold Effective Alive at h ⊢
  rw [same] at h
  refine ⟨h.1, h.2.imp_right ?_⟩
  rintro ⟨reached, out, envelope, present, inTime⟩
  exact ⟨reached, out, envelope, present, later.trans inTime⟩

section

variable (exclusive : Exclusive w)
include exclusive

/-- Time passes and the rows change, and the network does not: every row of the new store has to be safe. -/
theorem Exclusive.of_rows (same : w'.network = w.network) (later : w.now ≤ w'.now)
    (kept : ∀ id row, w.outbox.get id = some row → ∃ row', w'.outbox.get id = some row')
    (safe : ∀ id row, w'.outbox.get id = some row → RowSafe w id row) : Exclusive w' where
  built := by rw [same]; exact exclusive.built
  landed := by rw [same]; exact exclusive.landed
  nodup := by rw [same]; exact exclusive.nodup
  known := by
    intro hash envelope row present hrow
    rw [same] at present
    obtain ⟨stored, hstored⟩ := exclusive.known hash envelope row present hrow
    exact kept row stored hstored
  rows := by
    intro id row present
    apply (safe id row present).mono
    · intro hash envelope h
      rwa [same]
    · exact later
    · exact fun hash h => h.of_same_network same later
  once := fun id h₁ h₂ e₁ e₂ => exclusive.once id h₁ h₂ (e₁.of_same_network same later)
    (e₂.of_same_network same later)

theorem Exclusive.of_same (sameRows : w'.outbox = w.outbox) (same : w'.network = w.network) (later : w.now ≤ w'.now) :
    Exclusive w' := by
  apply exclusive.of_rows same later
  · intro id row present
    exact ⟨row, sameRows ▸ present⟩
  · intro id row present
    exact exclusive.rows id row (sameRows ▸ present)

section

variable (same : w'.network = w.network) (sameTime : w'.now = w.now)
include same sameTime

theorem Exclusive.assign {patch} (update : w'.outbox = w.outbox.assign id patch now)
    (present : w.outbox.get id = some row) (safe : RowSafe w id (row.assign patch now)) : Exclusive w' := by
  apply exclusive.of_rows same sameTime.ge
  · intro id' row' present'
    rw [update, OutboxStore.get_assign]
    split
    · rw [present]
      exact ⟨_, rfl⟩
    · exact ⟨row', present'⟩
  · intro id' row' present'
    rw [update, OutboxStore.get_assign] at present'
    split at present'
    · subst id'
      rw [present] at present'
      cases present'
      exact safe
    · exact exclusive.rows id' row' present'

theorem Exclusive.claim {leaseUntil claimed} (claims : OutboxStore.Claims now leaseUntil w.outbox claimed w'.outbox)
    (dated : now ≤ w.now) : Exclusive w' := by
  apply exclusive.of_rows same sameTime.ge
  · intro id row present
    by_cases hid : ∃ entry ∈ claimed, entry.id = id
    · obtain ⟨entry, hentry, rfl⟩ := hid
      obtain ⟨_, _, _, _, stored⟩ := claims.claim entry hentry
      exact ⟨entry, stored⟩
    · push Not at hid
      exact ⟨row, (claims.others id hid).trans present⟩
  · intro id row present
    by_cases hid : ∃ entry ∈ claimed, entry.id = id
    · obtain ⟨entry, hentry, rfl⟩ := hid
      obtain ⟨old, hold, isDue, heq, stored⟩ := claims.claim entry hentry
      rw [stored] at present
      injection present with present
      subst present
      have before := exclusive.rows entry.id old hold
      have dueCases : old.status = .pending ∨
          old.status = .processing ∧ ∃ t, old.lockedUntil = some t ∧ t < now := by
        simp only [OutboxStore.due, Bool.or_eq_true, Bool.and_eq_true, beq_iff_eq, decide_eq_true_eq,
          Option.any_eq_true] at isDue
        exact isDue.imp And.left id
      have hash : entry.envelopeHash = old.envelopeHash := by rw [heq]; rfl
      have status : entry.status = .processing := by rw [heq]; rfl
      have lease : entry.lockedUntil = some leaseUntil := by rw [heq]; rfl
      refine ⟨by simp [status], by simp [status], fun _ => ⟨leaseUntil, lease, ?_⟩, fun _ => ?_⟩
      · intro h hh
        rw [hash] at hh
        rcases dueCases with pending | ⟨processing, t, ht, expired⟩
        · rw [before.cleared pending] at hh
          cases hh
        · obtain ⟨lease', hlease, recorded⟩ := before.leased processing
          obtain ⟨envelope, hget, bound⟩ := recorded h hh
          rw [ht] at hlease
          cases hlease
          refine ⟨envelope, hget, .inr ?_⟩
          omega
      · intro h effective
        rw [hash]
        exact before.recorded (dueCases.imp_right And.left) h effective
    · push Not at hid
      rw [claims.others id hid] at present
      exact exclusive.rows id row present

theorem Exclusive.enqueue {entry} (append : w'.outbox = (w.outbox.enqueue entry w.now).2) : Exclusive w' := by
  apply exclusive.of_rows same sameTime.ge
  · exact fun id row present => ⟨row, append ▸ OutboxStore.get_enqueue _ entry _ present⟩
  · intro id row present
    rw [append] at present
    by_cases fresh : id = w.outbox.sequence + 1
    · subst fresh
      have hrow : row = (w.outbox.enqueue entry w.now).1 := by
        simpa [OutboxStore.enqueue, OutboxStore.get] using present.symm
      have unknown : ∀ hash, ¬Effective w (w.outbox.sequence + 1) hash := by
        rintro hash ⟨carries, _⟩
        unfold Network.carries at carries
        rw [Option.any_eq_true] at carries
        obtain ⟨envelope, hget, hrow⟩ := carries
        obtain ⟨stored, hstored⟩ := exclusive.known hash envelope _ hget (by simpa using hrow)
        have := w.outbox.numbered _ _ hstored
        omega
      have status : row.status = .pending := by rw [hrow]; rfl
      refine ⟨by simp [status], fun _ => by rw [hrow]; rfl, by simp [status], ?_⟩
      exact fun _ hash effective => absurd effective (unknown hash)
    · have old : w.outbox.get id = some row := by
        simpa [OutboxStore.enqueue, OutboxStore.get, JsMap.get_set, fresh] using present
      exact exclusive.rows id row old

end

end

/-! ### Change of the network -/

theorem Network.close_cases {network'} (h : network.close now hash applied = some network') :
    ∃ envelope, network.envelopes.get hash = some envelope ∧ hash ∈ network.accepted ∧
      network.included hash = false ∧ now ≤ envelope.builtAt + INVOKE_TX_TIMEOUT_MS ∧
      network'.envelopes = network.envelopes ∧ network'.accepted = network.accepted ∧
      network'.ledger = ⟨hash, applied⟩ :: network.ledger := by
  unfold close at h
  split at h
  · cases h
  · rename_i envelope present
    split at h
    · rename_i guard
      cases h
      exact ⟨envelope, present, guard.1, guard.2.1, guard.2.2.1, rfl, rfl, rfl⟩
    · cases h

theorem Effective.of_close (h : w.network.close w.now hash applied = some w'.network) (sameTime : w'.now = w.now)
    (effective : Effective w' id hash') : Effective w id hash' := by
  obtain ⟨envelope, present, reached, out, inTime, sameEnvelopes, sameAccepted, ledger⟩ :=
    Network.close_cases h
  have carries : w.network.carries id hash' = true := by
    have := effective.1
    rwa [Network.carries, sameEnvelopes] at this
  refine ⟨carries, ?_⟩
  by_cases closed : hash' = hash
  · subst closed
    exact .inr ⟨reached, out, envelope, present, inTime⟩
  · have other : (hash == hash') = false := by simpa using Ne.symm closed
    rcases effective.2 with applied' | ⟨reached', out', alive⟩
    · left
      simpa [Network.applied, ledger, other] using applied'
    · right
      refine ⟨sameAccepted ▸ reached', ?_, ?_⟩
      · simpa [Network.included, ledger, other] using out'
      · unfold Alive at alive ⊢
        rwa [sameEnvelopes, sameTime] at alive

theorem Exclusive.close (exclusive : Exclusive w) (h : w.network.close w.now hash applied = some w'.network)
    (sameRows : w'.outbox = w.outbox) (sameTime : w'.now = w.now) : Exclusive w' := by
  obtain ⟨envelope, present, reached, out, inTime, sameEnvelopes, sameAccepted, ledger⟩ :=
    close_cases h
  have effective : ∀ id hash', Effective w' id hash' → Effective w id hash' :=
    fun id hash' => Effective.of_close h sameTime
  constructor
  · rw [sameAccepted, sameEnvelopes]
    exact exclusive.built
  · rw [ledger, sameAccepted]
    exact List.forall_mem_cons.mpr ⟨reached, exclusive.landed⟩
  · rw [ledger, List.map_cons, List.nodup_cons]
    refine ⟨?_, exclusive.nodup⟩
    intro again
    obtain ⟨entry, hentry, same⟩ := List.mem_map.mp again
    have : w.network.included hash = true := by
      simp only [included, List.any_eq_true, beq_iff_eq]
      exact ⟨entry, hentry, same⟩
    rw [out] at this
    cases this
  · rw [sameEnvelopes, sameRows]
    exact exclusive.known
  · intro id row hrow
    rw [sameRows] at hrow
    apply (exclusive.rows id row hrow).mono
    · intro hash' envelope' h'
      rwa [sameEnvelopes]
    · exact sameTime.ge
    · exact effective id
  · exact fun id h₁ h₂ e₁ e₂ => exclusive.once id h₁ h₂ (effective id h₁ e₁) (effective id h₂ e₂)

section

variable (sameLedger : w'.network.ledger = w.network.ledger)
include sameLedger

section

variable (exclusive : Exclusive w) (fresh : w.network.envelopes.get hash = none)
  (envelopes : w'.network.envelopes = w.network.envelopes.set hash envelope)
  (sameAccepted : w'.network.accepted = w.network.accepted) (sameTime : w'.now = w.now)
include exclusive fresh envelopes sameAccepted sameTime

theorem Effective.of_build (effective : Effective w' id hash') : Effective w id hash' := by
  have reached : hash' ∈ w.network.accepted := by
    rcases effective.2 with applied | ⟨reached, _⟩
    · simp only [Network.applied, List.any_eq_true, Bool.and_eq_true, beq_iff_eq] at applied
      obtain ⟨entry, hentry, rfl, _⟩ := applied
      exact exclusive.landed entry (sameLedger ▸ hentry)
    · exact sameAccepted ▸ reached
  have old : hash' ≠ hash := by
    rintro rfl
    obtain ⟨_, present⟩ := exclusive.built hash' reached
    rw [fresh] at present
    cases present
  unfold Effective Alive Network.carries Network.applied Network.included at effective ⊢
  rwa [envelopes, sameAccepted, sameLedger, sameTime, JsMap.get_set_of_ne _ _ old] at effective

theorem Exclusive.build (sameRows : w'.outbox = w.outbox)
    (known : ∀ row, envelope.row = some row → ∃ stored, w.outbox.get row = some stored) : Exclusive w' := by
  have effective : ∀ id hash', Effective w' id hash' → Effective w id hash' := fun id hash' =>
    Effective.of_build sameLedger exclusive fresh envelopes sameAccepted sameTime
  have persist : ∀ hash' envelope', w.network.envelopes.get hash' = some envelope' →
      w'.network.envelopes.get hash' = some envelope' := by
    intro hash' envelope' present
    have old : hash' ≠ hash := by
      rintro rfl
      rw [fresh] at present
      cases present
    rw [envelopes, JsMap.get_set_of_ne _ _ old, present]
  constructor
  · intro hash' reached
    obtain ⟨envelope', present⟩ := exclusive.built hash' (sameAccepted ▸ reached)
    exact ⟨envelope', persist hash' envelope' present⟩
  · rw [sameLedger, sameAccepted]
    exact exclusive.landed
  · rw [sameLedger]
    exact exclusive.nodup
  · intro hash' envelope' row present hrow
    rw [envelopes, JsMap.get_set] at present
    rw [sameRows]
    split at present
    · cases present
      exact known row hrow
    · exact exclusive.known hash' envelope' row present hrow
  · intro id row hrow
    rw [sameRows] at hrow
    exact (exclusive.rows id row hrow).mono persist sameTime.ge (effective id)
  · exact fun id h₁ h₂ e₁ e₂ => exclusive.once id h₁ h₂ (effective id h₁ e₁) (effective id h₂ e₂)

end

theorem Effective.of_submit (sameEnvelopes : w'.network.envelopes = w.network.envelopes)
    (accepted : w'.network.accepted = hash :: w.network.accepted) (sameTime : w'.now = w.now)
    (effective : Effective w' id hash') :
    Effective w id hash' ∨ (hash' = hash ∧ w.network.carries id hash = true ∧ Alive w hash) := by
  unfold Effective Alive carries applied included at effective ⊢
  rw [sameEnvelopes, accepted, sameLedger, sameTime] at effective
  obtain ⟨carries, applied | ⟨reached, out, alive⟩⟩ := effective
  · exact .inl ⟨carries, .inl applied⟩
  · rcases List.mem_cons.mp reached with rfl | earlier
    · exact .inr ⟨rfl, carries, alive⟩
    · exact .inl ⟨carries, .inr ⟨earlier, out, alive⟩⟩

/-- An envelope may reach the network while its row is being processed and has it on record. -/
theorem Exclusive.submit (exclusive : Exclusive w) (hash : String)
    (sameEnvelopes : w'.network.envelopes = w.network.envelopes)
    (accepted : w'.network.accepted = hash :: w.network.accepted) (sameTime : w'.now = w.now)
    (sameRows : w'.outbox = w.outbox) (built : ∃ envelope, w.network.envelopes.get hash = some envelope)
    (onRecord : ∀ id, w.network.carries id hash = true → Alive w hash → ∃ row,
      w.outbox.get id = some row ∧ row.status = .processing ∧ row.envelopeHash = some hash) : Exclusive w' := by
  have grows : ∀ id hash', Effective w' id hash' →
      Effective w id hash' ∨ (hash' = hash ∧ w.network.carries id hash = true ∧ Alive w hash) :=
    fun id hash' => Effective.of_submit sameLedger sameEnvelopes accepted sameTime
  have recorded : ∀ id row hash', w.outbox.get id = some row →
      (row.status = .pending ∨ row.status = .processing) → Effective w' id hash' →
      row.envelopeHash = some hash' := by
    intro id row hash' hrow status effective
    rcases grows id hash' effective with before | ⟨rfl, carries, alive⟩
    · exact (exclusive.rows id row hrow).recorded status hash' before
    · obtain ⟨row', hrow', _, onRow⟩ := onRecord id carries alive
      rw [hrow] at hrow'
      cases hrow'
      exact onRow
  constructor
  · rw [accepted, sameEnvelopes]
    exact List.forall_mem_cons.mpr ⟨built, exclusive.built⟩
  · rw [sameLedger, accepted]
    exact fun entry h => .tail _ (exclusive.landed entry h)
  · rw [sameLedger]
    exact exclusive.nodup
  · rw [sameEnvelopes, sameRows]
    exact exclusive.known
  · intro id row hrow
    rw [sameRows] at hrow
    have before := exclusive.rows id row hrow
    refine ⟨before.unsubmitted, before.cleared, ?_, fun status hash' => recorded id row hash' hrow status⟩
    rw [sameEnvelopes, sameTime]
    exact before.leased
  · intro id h₁ h₂ e₁ e₂
    -- If the submission made one of them effective, the row is being processed and names both.
    have named (carries : w.network.carries id hash = true) (alive : Alive w hash) : h₁ = h₂ := by
      obtain ⟨row, hrow, processing, _⟩ := onRecord id carries alive
      have first := recorded id row h₁ hrow (.inr processing) e₁
      rw [recorded id row h₂ hrow (.inr processing) e₂] at first
      exact (Option.some.inj first).symm
    rcases grows id h₁ e₁ with before₁ | ⟨_, carries, alive⟩
    · rcases grows id h₂ e₂ with before₂ | ⟨_, carries, alive⟩
      · exact exclusive.once id h₁ h₂ before₁ before₂
      · exact named carries alive
    · exact named carries alive

end

end VortexBackend
