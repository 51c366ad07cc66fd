/-
Module: VortexBackend.Proofs.OutboxWorker
Purpose: The contract of a relay worker, and the assertions that survive the others.
Main exports: singleEffect, RelayWp, Robust
-/
import VortexBackend.Proofs.OutboxSingleEffect

namespace VortexBackend

open RelayWorld

/-! ### The condition -/

/-- The answer to a submission tells the worker that it failed. -/
def submissionFailed : Except RelayError SendResponse → Bool
  | .ok .sent => false
  | _ => true

/-- The lookup threw. -/
def lookupFailed : Except RelayError TxStatus → Bool
  | .ok _ => false
  | .error _ => true

/-- Did request `p` claim an entry with this envelope on record? -/
def claimedHash (p : Nat) (hash : String) (history : List RelayEvent) : Bool :=
  history.any fun e => e.actor.pid == p && (claimedIn e).any (·.envelopeHash == some hash)

/-- The condition on one call: an envelope is built only if the lease of the claim covers its time bound;
    a submission that fails did not reach the network; the poll gives up only on an envelope that was not
    applied; the lookup of the envelope on record throws only if that envelope was not applied. -/
def reliable (v : RelayView) (e : RelayEvent) (w' : RelayWorld) : Bool :=
  match e with
  | ⟨a, .build (some row) _, _⟩ =>
    (claimOf a.pid row v.history).all fun x =>
      x.lockedUntil.any fun lease => decide (v.world.now + INVOKE_TX_TIMEOUT_MS ≤ lease)
  | ⟨_, .submit hash, answer⟩ => !submissionFailed answer || decide (hash ∉ w'.network.accepted)
  | ⟨_, .waiting hash _, goesOn⟩ =>
    goesOn || !(v.world.network.envelopes.get hash).any (·.row.isSome) ||
      !v.world.network.applied hash
  | ⟨a, .getTransaction hash, answer⟩ =>
    !lookupFailed answer || !claimedHash a.pid hash v.history || !v.world.network.applied hash
  | _ => true

/-- Runs of any number of workers from an empty outbox and a chain that has seen none of its calls. -/
def relayRuns (meets : RelayView → RelayEvent → RelayWorld → Bool) :
    Setting RelayReply RelayWorld RelayRequest where
  initial := fun w => w.outbox = .empty ∧ w.network.envelopes = .empty ∧ w.network.accepted = [] ∧
    w.network.ledger = []
  admits := fun request => ∃ worker, request = .tick worker
  meets := meets

/-- The contract of a worker: the single-effect invariant, ownership of the rows it updates, and a live
    envelope is submitted only by the holder of its row. -/
def singleEffect : Contract RelayReply RelayWorld RelayRequest where
  inv := fun v => Exclusive v.world
  promise := fun v e => RelayPromise v e ∧ ∀ hash, e.call = .submit hash →
    ∀ id, v.world.network.carries id hash = true → Alive v.world hash →
      holder id v.history = some e.actor.pid

/-! ### How the world evolves -/

/-- Calls that touch neither the store nor the chain. -/
def Plain : RelayCall → Prop
  | .outbox _ | .build .. | .submit _ => False
  | _ => True

/-- What only grows: the clock, the envelopes, and the envelopes that are spent. -/
structure Later (w w' : RelayWorld) : Prop where
  time : w.now ≤ w'.now
  envelopes : ∀ hash envelope, w.network.envelopes.get hash = some envelope →
    w'.network.envelopes.get hash = some envelope
  spent : ∀ hash, Spent w hash → Spent w' hash

variable {w w' : RelayWorld}

theorem Later.of_same_network (time : w.now ≤ w'.now) (same : w'.network = w.network) : Later w w' := by
  refine ⟨time, fun hash envelope h => same ▸ h, ?_⟩
  intro hash spent
  unfold Spent at spent ⊢
  rw [same]
  refine ⟨spent.1, spent.2.imp_right ?_⟩
  rintro ⟨envelope, present, late⟩
  exact ⟨envelope, present, late.trans_le time⟩

theorem Later.of_same_ledger (time : w'.now = w.now)
    (envelopes : ∀ hash envelope, w.network.envelopes.get hash = some envelope →
      w'.network.envelopes.get hash = some envelope) (ledger : w'.network.ledger = w.network.ledger) : Later w w' := by
  refine ⟨time.ge, envelopes, ?_⟩
  intro hash spent
  unfold Spent Network.applied Network.included at spent ⊢
  rw [ledger, time]
  refine ⟨spent.1, spent.2.imp_right ?_⟩
  rintro ⟨envelope, present, late⟩
  exact ⟨envelope, envelopes hash envelope present, late⟩

theorem Later.of_close {hash applied} (h : w.network.close w.now hash applied = some w'.network)
    (time : w'.now = w.now) :
    Later w w' := by
  obtain ⟨envelope, present, _, out, inTime, sameEnvelopes, _, ledger⟩ := Network.close_cases h
  refine ⟨time.ge, fun hash' envelope' h' => sameEnvelopes ▸ h', ?_⟩
  intro hash' spent
  -- What is spent is in the ledger already or out of time, so another envelope was included.
  have other : (hash == hash') = false := by
    rw [beq_eq_false_iff_ne]
    rintro rfl
    rcases spent.2 with included | ⟨envelope', present', late⟩
    · rw [out] at included
      cases included
    · rw [present] at present'
      cases present'
      omega
  unfold Spent Network.applied Network.included at spent ⊢
  rw [ledger, sameEnvelopes, time]
  simpa [other] using spent

section Calls

variable {settings : OutboxSettings} {E : Setting RelayReply RelayWorld RelayRequest}
  {v v' : RelayView} {e : RelayEvent}

theorem Answered.plain (answered : Answered (relayService settings) E v e v') (plain : Plain e.call) :
    v'.world.outbox = v.world.outbox ∧ v'.world.network = v.world.network := by
  obtain ⟨choice, w, performed, rfl⟩ := answered.performed
  obtain ⟨actor, call, reply⟩ := e
  change perform call choice v.world = some (reply, w) at performed
  rw [View.after_world]
  cases call with
  | outbox | build | submit => exact plain.elim
  | beginTick | sleepUntil | nextSequence =>
    simp only [perform] at performed
    split at performed <;> cases performed <;> exact ⟨rfl, rfl⟩
  | _ =>
    cases performed
    exact ⟨rfl, rfl⟩

theorem Answered.outbox {call} (answered : Answered (relayService settings) E v e v')
    (isOutbox : e.call = .outbox call) :
    v'.world.network = v.world.network := by
  obtain ⟨choice, w, performed, rfl⟩ := answered.performed
  obtain ⟨actor, call', reply⟩ := e
  cases isOutbox
  cases performed
  rfl

variable {hash : String} {d : RelayWorld.Drift} {w w' : RelayWorld} {actor : Actor RelayRequest}

theorem Answered.build {row account}
    (answered : Answered (relayService settings) E v ⟨actor, .build row account, hash⟩ v') :
    v.world.network.envelopes.get hash = none ∧
      v'.world.network.envelopes =
        v.world.network.envelopes.set hash ⟨hash, row, account + 1, v.world.now⟩ ∧
      v'.world.network.accepted = v.world.network.accepted ∧
      v'.world.network.ledger = v.world.network.ledger ∧ v'.world.outbox = v.world.outbox := by
  obtain ⟨choice, w, performed, rfl⟩ := answered.performed
  change perform (.build row account) choice v.world = some (hash, w) at performed
  simp only [perform] at performed
  split at performed
  · cases performed
  · rename_i fresh
    cases performed
    simp only [Bool.or_eq_true, not_or, Bool.not_eq_true, Option.isSome_eq_false_iff,
      Option.isNone_iff_eq_none] at fresh
    exact ⟨fresh.2, rfl, rfl, rfl, rfl⟩

theorem Answered.submit {answer}
    (answered : Answered (relayService settings) E v ⟨actor, .submit hash, answer⟩ v') :
    v'.world.outbox = v.world.outbox ∧
      (v'.world.network = v.world.network ∨
        v'.world.network = { v.world.network with accepted := hash :: v.world.network.accepted }) := by
  obtain ⟨choice, w, performed, rfl⟩ := answered.performed
  change perform (.submit hash) choice v.world = some (answer, w) at performed
  cases performed
  cases choice.reaches
  · exact ⟨rfl, .inl rfl⟩
  · exact ⟨rfl, .inr rfl⟩

theorem Answered.later (answered : Answered (relayService settings) E v e v') : Later v.world v'.world := by
  have time := answered.now_eq
  obtain ⟨actor, call, reply⟩ := e
  cases call with
  | outbox call => exact .of_same_network time.ge (answered.outbox rfl)
  | build row account =>
    obtain ⟨fresh, envelopes, _, ledger, _⟩ := answered.build
    refine .of_same_ledger time ?_ ledger
    intro hash envelope present
    have old : hash ≠ reply := by
      rintro rfl
      rw [fresh] at present
      cases present
    rw [envelopes]
    exact (JsMap.get_set_of_ne _ _ old).trans present
  | submit hash =>
    rcases answered.submit.2 with same | same
    · exact .of_same_network time.ge same
    · exact .of_same_ledger time (fun _ _ h => same ▸ h) (by rw [same])
  | _ => exact .of_same_network time.ge (answered.plain trivial).2

theorem later_drift (drifted : drift d w = some w') : Later w w' := by
  cases d with
  | tick ms =>
    cases drifted
    exact .of_same_network (Nat.le_add_right _ _) rfl
  | close hash applied =>
    simp only [drift] at drifted
    split at drifted
    · rename_i network closed
      cases drifted
      exact .of_close closed rfl
    · cases drifted
  | bumpSequence =>
    cases drifted
    exact .of_same_ledger rfl (fun _ _ h => h) rfl
  | setKillSwitch | enqueue =>
    cases drifted
    exact .of_same_network le_rfl rfl

theorem Answered.effective (answered : Answered (relayService settings) E v e v') (exclusive : Exclusive v.world) {id}
    (effective : Effective v'.world id hash) :
    Effective v.world id hash ∨
      (e.call = .submit hash ∧ v.world.network.carries id hash = true ∧ Alive v.world hash) := by
  have time := answered.now_eq
  obtain ⟨actor, call, reply⟩ := e
  cases call with
  | outbox call =>
    exact .inl (effective.of_same_network (answered.outbox rfl) time.ge)
  | build row account =>
    obtain ⟨fresh, envelopes, accepted, ledger, _⟩ := answered.build
    exact .inl (Effective.of_build ledger exclusive fresh envelopes accepted time effective)
  | submit hash' =>
    rcases answered.submit.2 with same | same
    · exact .inl (effective.of_same_network same time.ge)
    · rcases Effective.of_submit (by rw [same]) (by rw [same]) (by rw [same]) time effective with
        before | ⟨rfl, carries, alive⟩
      · exact .inl before
      · exact .inr ⟨rfl, carries, alive⟩
  | _ =>
    exact .inl (effective.of_same_network (answered.plain trivial).2 time.ge)

theorem effective_drift (drifted : drift d w = some w') {id} (effective : Effective w' id hash) :
    Effective w id hash := by
  cases d with
  | tick ms =>
    cases drifted
    exact effective.of_same_network rfl (Nat.le_add_right _ _)
  | close hash applied =>
    simp only [drift] at drifted
    split at drifted
    · rename_i network closed
      cases drifted
      exact Effective.of_close closed (by rfl) effective
    · cases drifted
  | bumpSequence | setKillSwitch | enqueue =>
    cases drifted
    exact effective

theorem exclusive_drift (exclusive : Exclusive w) (drifted : drift d w = some w') : Exclusive w' := by
  cases d with
  | tick ms =>
    cases drifted
    exact exclusive.of_same rfl rfl (Nat.le_add_right _ _)
  | close hash applied =>
    simp only [drift] at drifted
    split at drifted
    · rename_i network closed
      cases drifted
      exact exclusive.close closed rfl rfl
    · cases drifted
  | enqueue entry =>
    cases drifted
    exact exclusive.enqueue rfl rfl rfl
  | setKillSwitch k =>
    cases drifted
    exact exclusive.of_same rfl rfl le_rfl
  | bumpSequence =>
    cases drifted
    exact { exclusive with rows := fun id row h => (exclusive.rows id row h).mono (fun _ _ h => h) le_rfl fun _ h => h }

end Calls

/-! ### What a worker relies on -/

section Worker

variable {settings : OutboxSettings} {a : Actor RelayRequest}

/-- A call made within the contract, in a run that meets the condition. -/
abbrev RelayKept (settings : OutboxSettings) (v : RelayView) (e : RelayEvent) (v' : RelayView) : Prop :=
  Kept (relayService settings) (relayRuns reliable) singleEffect v e v'

/-- A function of worker `a` keeps the contract. -/
abbrev RelayWp (settings : OutboxSettings) (a : Actor RelayRequest) {α : Type} (x : Relay α)
    (Q : Except RelayError α → RelayView → Prop) (v : RelayView) : Prop :=
  wp (relayService settings) (relayRuns reliable) singleEffect a x Q v

/-- A call that claims nothing, carries no entry, requeues nothing and submits no row's call. -/
structure Quiet (v : RelayView) (e : RelayEvent) : Prop where
  noClaim : ∀ now limit leaseUntil, e.call ≠ .outbox (.claimDue now limit leaseUntil)
  noRequeue : ∀ id, e.call ≠ .outbox (.requeueDead id)
  noEntry : carried e.call = none
  noCall : ∀ hash, e.call = .submit hash → ∀ id, v.world.network.carries id hash = false

variable {v : RelayView} {p : Nat} {x : OutboxEntry}

theorem Quiet.claimedIn {e} (quiet : Quiet v e) : claimedIn e = [] :=
  claimedIn_eq_nil quiet.noClaim

theorem Quiet.promise {e} (quiet : Quiet v e) : singleEffect.promise v e := by
  refine ⟨⟨?_, fun now limit leaseUntil call => absurd call (quiet.noClaim _ _ _), quiet.noRequeue⟩, ?_⟩
  · intro y carries
    rw [quiet.noEntry] at carries
    cases carries
  · intro hash submits id carries
    rw [quiet.noCall hash submits id] at carries
    cases carries

/-- An assertion that survives the others, the environment and the worker's own quiet calls. -/
structure Robust (settings : OutboxSettings) (a : Actor RelayRequest) (P : RelayView → Prop) :
    Prop where
  step : ∀ v e v', RelayKept settings v e v' → (e.actor.pid ≠ a.pid ∨ Quiet v e) → P v → P v'
  drift : ∀ v d w, drift d v.world = some w → P v → P { v with world := w }

namespace Robust

variable {P P' : RelayView → Prop}

theorem stable (robust : Robust settings a P) : Stable (relayService settings) (relayRuns reliable) singleEffect a P :=
  .of_moves (fun v e v' other kept => robust.step v e v' kept (.inl other))
    fun v d w drifted _ _ => robust.drift v d w drifted

theorem and (first : Robust settings a P) (second : Robust settings a P') : Robust settings a fun v => P v ∧ P' v :=
  ⟨fun v e v' kept apart h => ⟨first.step v e v' kept apart h.1, second.step v e v' kept apart h.2⟩,
    fun v d w drifted h => ⟨first.drift v d w drifted h.1, second.drift v d w drifted h.2⟩⟩

theorem of_exists {ι : Type} {P : ι → RelayView → Prop} (each : ∀ i, Robust settings a (P i)) :
    Robust settings a fun v => ∃ i, P i v :=
  ⟨fun v e v' kept apart ⟨i, h⟩ => ⟨i, (each i).step v e v' kept apart h⟩,
    fun v d w drifted ⟨i, h⟩ => ⟨i, (each i).drift v d w drifted h⟩⟩

theorem const (p : Prop) : Robust settings a fun _ => p :=
  ⟨fun _ _ _ _ _ h => h, fun _ _ _ _ h => h⟩

theorem of_later {p : RelayWorld → Prop} (mono : ∀ w w', Later w w' → p w → p w') :
    Robust settings a fun v => p v.world :=
  ⟨fun _ _ _ kept _ h => mono _ _ kept.toAnswered.later h,
    fun _ _ _ drifted h => mono _ _ (later_drift drifted) h⟩

theorem now_le (time : Nat) : Robust settings a fun v => time ≤ v.world.now :=
  of_later (p := fun w => time ≤ w.now) fun _ _ later h => Nat.le_trans h later.time

theorem exclusive : Robust settings a fun v => Exclusive v.world :=
  ⟨fun _ _ _ kept _ _ => kept.after, fun _ _ _ drifted h => exclusive_drift h drifted⟩

theorem claim (x : OutboxEntry) (envelopeHash : Option String) : Robust settings a (Claim a.pid x envelopeHash) where
  step := by
    intro v e v' kept apart h
    refine h.step kept.toAnswered kept.promise.1 (apart.imp_right fun quiet => ⟨quiet.claimedIn, ?_⟩)
    intro y carries
    rw [quiet.noEntry] at carries
    cases carries
  drift := fun _ _ _ drifted h => h.drift drifted

end Robust

/-- The worker claimed `x` and, if it holds it still, no envelope of the row has taken effect or can. -/
structure ReadyAt (p : Nat) (x : OutboxEntry) (envelopeHash : Option String) (v : RelayView) : Prop where
  mine : claimOf p x.id v.history = some x
  owned : Lost x v.world ∨
    (Held p x envelopeHash v ∧ ∀ hash, ¬Effective v.world x.id hash)

variable {envelopeHash : Option String}

theorem ReadyAt.claim (ready : ReadyAt p x envelopeHash v) : Claim p x envelopeHash v :=
  ⟨ready.mine, ready.owned.elim .inr fun h => .inl h.1⟩

theorem Claim.ready (claim : Claim p x envelopeHash v) (exclusive : Exclusive v.world)
    (spent : ∀ hash, envelopeHash = some hash → Spent v.world hash) : ReadyAt p x envelopeHash v := by
  refine ⟨claim.mine, ?_⟩
  rcases claim.owned with held | lost
  · right
    refine ⟨held, fun hash effective => ?_⟩
    obtain ⟨row, present, processing, _, _, onRecord⟩ := held.row
    have recorded := (exclusive.rows x.id row present).recorded (.inr processing) hash effective
    rw [onRecord] at recorded
    exact (spent hash recorded).not_effective x.id effective
  · exact .inl lost

theorem Robust.ready (x : OutboxEntry) (envelopeHash : Option String) :
    Robust settings a (ReadyAt a.pid x envelopeHash) where
  step := by
    intro v e v' kept apart h
    have answered := kept.toAnswered
    refine ⟨claimOf_step answered h.mine (apart.imp_right Quiet.claimedIn), ?_⟩
    rcases h.owned with lost | ⟨held, noEffect⟩
    · exact .inl (lost.step answered kept.promise.1)
    · have away : e.actor.pid ≠ a.pid ∨
          (claimedIn e = [] ∧ ∀ y, carried e.call = some y → y.id ≠ x.id) := by
        refine apart.imp_right fun quiet => ⟨quiet.claimedIn, fun y carries => ?_⟩
        rw [quiet.noEntry] at carries
        cases carries
      rcases held.step answered kept.promise.1 away with held' | lost
      · refine .inr ⟨held', fun hash effective => ?_⟩
        rcases answered.effective kept.before effective with before | ⟨submits, carries, alive⟩
        · exact noEffect hash before
        · -- Whoever submits a live envelope of the row holds the row.
          rcases apart with other | quiet
          · have byHolder := kept.promise.2 hash submits x.id carries alive
            rw [held.latest] at byHolder
            exact other (Option.some.inj byHolder).symm
          · rw [quiet.noCall hash submits x.id] at carries
            cases carries
      · exact .inl lost
  drift := by
    intro v d w drifted h
    refine ⟨h.mine, ?_⟩
    rcases h.owned with lost | ⟨held, noEffect⟩
    · exact .inl (lost.drift drifted)
    · exact .inr ⟨held.drift drifted, fun hash effective => noEffect hash (effective_drift drifted effective)⟩

/-- The worker claimed `x` and may send a new envelope for it. -/
def Ready (p : Nat) (x : OutboxEntry) (v : RelayView) : Prop := ∃ envelopeHash, ReadyAt p x envelopeHash v

theorem Robust.ready' (x : OutboxEntry) : Robust settings a (Ready a.pid x) :=
  Robust.of_exists fun envelopeHash => Robust.ready x envelopeHash

theorem Ready.claim (ready : Ready p x v) : ∃ envelopeHash, Claim p x envelopeHash v :=
  ready.imp fun _ h => h.claim

/-- The envelope was built for `x` at time `built`, within the lease of its claim. -/
def BuiltFor (x : OutboxEntry) (hash : String) (built : Nat) (w : RelayWorld) : Prop :=
  built ≤ w.now ∧ ∃ envelope lease, w.network.envelopes.get hash = some envelope ∧
    envelope.row = some x.id ∧ envelope.builtAt = built ∧ x.lockedUntil = some lease ∧
    built + INVOKE_TX_TIMEOUT_MS ≤ lease

theorem Robust.builtFor (x : OutboxEntry) (hash : String) (built : Nat) :
    Robust settings a fun v => BuiltFor x hash built v.world := by
  apply Robust.of_later
  rintro w w' later ⟨past, envelope, lease, present, rest⟩
  exact ⟨past.trans later.time, envelope, lease, later.envelopes hash envelope present, rest⟩

variable {row : OutboxEntry}

theorem Lost.not_current {w} (lost : Lost x w) (present : w.outbox.get x.id = some row)
    (processing : row.status = .processing) (token : row.attempts = x.attempts) : False := by
  obtain ⟨row', present', past⟩ := lost.row
  rw [present] at present'
  cases present'
  rcases past with less | ⟨_, pending⟩
  · omega
  · rw [processing] at pending
    cases pending

/-- While a ready row is processed under the worker's token, none of its envelopes is effective. -/
theorem Ready.not_effective (ready : Ready p x v) (present : v.world.outbox.get x.id = some row)
    (processing : row.status = .processing) (token : row.attempts = x.attempts) (hash : String) :
    ¬Effective v.world x.id hash := by
  rcases ready with ⟨_, ready⟩
  rcases ready.owned with lost | ⟨_, noEffect⟩
  · exact (lost.not_current present processing token).elim
  · exact noEffect hash

end Worker

end VortexBackend
