/-
Module: VortexBackend.Proofs.OutboxAtMostOnce
Purpose: A contract call is sent at most once, if the node hides nothing and no envelope outlives its lease.
Main exports: outbox_call_takes_effect_at_most_once
-/
import VortexBackend.Proofs.OutboxWorker

namespace VortexBackend

open Relay Async Robust Network
open Async (onOk onOk_ok onOk_error)

section Functions

variable {settings : OutboxSettings} {a : Actor RelayRequest} {v : RelayView} {P : RelayView → Prop}

/-! ### Single calls -/

variable {c : RelayCall} {«from» : List OutboxStatus} {patch : OutboxPatch} {hash method : String}
  {v : RelayView} {deadline sequence built worker id now : Nat} {w : RelayWorld} {row y : OutboxEntry}
  {β : Type} {Q : Except RelayError RelayTickResult → RelayView → Prop} {result : RelayTickResult}

theorem wp_quiet {Q : Except RelayError (RelayReply c) → RelayView → Prop} (robust : Robust settings a P)
    (holds : P v) (quiet : ∀ v₁ reply v₂, P v₁ → Exclusive v₁.world →
      Answered (relayService settings) (relayRuns reliable) v₁ ⟨a, c, reply⟩ v₂ →
      Quiet v₁ ⟨a, c, reply⟩ ∧ Exclusive v₂.world)
    (next : ∀ v₁ reply v₂, RelayKept settings v₁ ⟨a, c, reply⟩ v₂ → P v₁ → P v₂ →
      Q (.ok reply) v₂) :
    RelayWp settings a (call c) Q v := by
  refine wp_call robust.stable holds fun v₁ reply v₂ inv h answered => ?_
  obtain ⟨isQuiet, after⟩ := quiet v₁ reply v₂ h inv answered
  have kept : RelayKept settings v₁ ⟨a, c, reply⟩ v₂ := ⟨answered, inv, isQuiet.promise, after⟩
  exact ⟨isQuiet.promise, after, next v₁ reply v₂ kept h (robust.step _ _ _ kept (.inr isQuiet) h)⟩

theorem Plain.quiet {e} (plain : Plain e.call) (v : RelayView) : Quiet v e := by
  obtain ⟨actor, call, reply⟩ := e
  cases call with
  | outbox | build | submit => exact plain.elim
  | _ => exact ⟨by simp, by simp, rfl, by simp⟩

theorem wp_plain {Q : Except RelayError (RelayReply c) → RelayView → Prop} (plain : Plain c)
    (robust : Robust settings a P) (holds : P v)
    (next : ∀ v₁ reply v₂, RelayKept settings v₁ ⟨a, c, reply⟩ v₂ → P v₁ → P v₂ →
      Q (.ok reply) v₂) :
    RelayWp settings a (call c) Q v := by
  refine wp_quiet robust holds (fun v₁ reply v₂ _ inv answered => ?_) next
  obtain ⟨sameRows, same⟩ := answered.plain plain
  exact ⟨Plain.quiet plain v₁, inv.of_same sameRows same answered.now_eq.ge⟩

/-- A fenced operation of the worker on the row it claimed: refused if the row is lost, and otherwise
    made on the row as the worker knows it. -/
theorem wp_fenced {Q : Except RelayError (RelayReply c) → RelayView → Prop} {x}
    (writes : fencedWrite c = some (x, «from», patch)) (robust : Robust settings a P) (holds : P v)
    (claimed : ∀ v, P v → ∃ envelopeHash, Claim a.pid x envelopeHash v)
    (safe : ∀ v₁ row, P v₁ → Exclusive v₁.world → v₁.world.outbox.get x.id = some row →
      row.status = .processing → row.attempts = x.attempts → row.lockedUntil = x.lockedUntil →
      RowSafe v₁.world x.id (row.assign patch v₁.world.now))
    (next : ∀ v₁ reply v₂, RelayKept settings v₁ ⟨a, c, reply⟩ v₂ → P v₁ →
      (succeeded ⟨a, c, reply⟩ = false ∧ Lost x v₁.world) ∨
        (succeeded ⟨a, c, reply⟩ = true ∧ (∃ envelopeHash, Held a.pid x envelopeHash v₁) ∧
          v₂.world.outbox = v₁.world.outbox.assign x.id patch v₁.world.now) → Q (.ok reply) v₂) :
    RelayWp settings a (call c) Q v := by
  refine wp_call robust.stable holds fun v₁ reply v₂ inv h answered => ?_
  have isFenced := carried_of_fencedWrite writes
  have sameTime := answered.now_eq
  obtain ⟨outboxCall, isOutbox⟩ : ∃ call, c = .outbox call := by
    cases c with
    | outbox call => exact ⟨call, rfl⟩
    | _ => cases writes
  have same : v₂.world.network = v₁.world.network := answered.outbox isOutbox
  cases storeChange answered with
  | fenced x' from' patch' writes' update =>
    rw [show fencedWrite c = _ from writes'] at writes
    cases writes
    obtain ⟨envelopeHash, claim⟩ := claimed v₁ h
    have notRequeue : ∀ id, c ≠ .outbox (.requeueDead id) := by
      rintro id rfl
      cases writes'
    have notClaim : ∀ now limit leaseUntil, c ≠ .outbox (.claimDue now limit leaseUntil) := by
      rintro now limit leaseUntil rfl
      cases writes'
    have notSubmit : ∀ hash, c ≠ .submit hash := by
      rintro hash rfl
      cases writes'
    -- The promise is about the holder, so it only has to be shown where the update went through.
    have promised (owned : succeeded ⟨a, c, reply⟩ = true → holder x.id v₁.history = some a.pid) :
        singleEffect.promise v₁ ⟨a, c, reply⟩ := by
      refine ⟨⟨?_, fun _ _ _ call => absurd call (notClaim _ _ _), notRequeue⟩,
        fun hash submits => absurd submits (notSubmit hash)⟩
      intro y carries done
      rw [show carried c = _ from isFenced] at carries
      cases carries
      exact owned done
    rcases claim.owned with held | lost
    · obtain ⟨row, present, processing, token, locked, _⟩ := held.row
      rw [OutboxStore.fenced_of_current present token (processing ▸ (from_of_fencedWrite writes').2)] at update
      obtain ⟨done, updated⟩ := Prod.mk.inj update
      have promise := promised fun _ => held.latest
      have after : Exclusive v₂.world :=
        inv.assign same sameTime updated.symm present (safe v₁ row h inv present processing token locked)
      exact ⟨promise, after, next v₁ reply v₂ ⟨answered, inv, promise, after⟩ h
        (.inr ⟨done.symm, ⟨envelopeHash, held⟩, updated.symm⟩)⟩
    · rcases OutboxStore.fenced_cases update with ⟨refused, sameRows⟩ | ⟨_, _, row, present, token, status⟩
      · have promise := promised fun done => by
          rw [refused] at done
          cases done
        have after : Exclusive v₂.world := inv.of_same sameRows same sameTime.ge
        exact ⟨promise, after,
          next v₁ reply v₂ ⟨answered, inv, promise, after⟩ h (.inl ⟨refused, lost⟩)⟩
      · obtain ⟨row', present', past⟩ := lost.row
        rw [present] at present'
        cases present'
        rcases past with less | ⟨_, pending⟩
        · omega
        · rw [pending] at status
          exact absurd status (from_of_fencedWrite writes').1
  | claim _ _ _ call | requeue _ call | enqueue _ call => cases (show c = _ from call); cases writes
  | read _ noEntry => rw [show carried c = _ from isFenced] at noEntry; cases noEntry

/-! ### Confirmation -/

section Replies

variable {E : Setting RelayReply RelayWorld RelayRequest} {v v' : RelayView} {actor : Actor RelayRequest}

theorem Answered.clock {time} (answered : Answered (relayService settings) E v ⟨actor, .now, time⟩ v') :
    time = v.world.now := by
  obtain ⟨choice, w, performed, _⟩ := answered.performed
  cases performed
  rfl

theorem Answered.woken {time} (answered : Answered (relayService settings) E v ⟨actor, .sleepUntil time, ()⟩ v') :
    time ≤ v.world.now := by
  obtain ⟨choice, w, performed, _⟩ := answered.performed
  change RelayWorld.perform (.sleepUntil time) choice v.world = some ((), w) at performed
  exact (Option.ite_none_right_eq_some.mp performed).1

theorem Answered.waits {hash deadline goesOn}
    (answered : Answered (relayService settings) E v ⟨actor, .waiting hash deadline, goesOn⟩ v') :
    goesOn = decide (v.world.now < deadline) ∧ v'.world = v.world := by
  obtain ⟨choice, w, performed, rfl⟩ := answered.performed
  cases performed
  exact ⟨rfl, rfl⟩

theorem Answered.status {hash status}
    (answered : Answered (relayService settings) E v ⟨actor, .getTransaction hash, .ok status⟩ v') :
    v'.world = v.world ∧ ∃ code, status = v.world.network.status hash code := by
  obtain ⟨choice, w, performed, rfl⟩ := answered.performed
  change some (RelayWorld.answer choice (v.world.network.status hash choice.code), v.world) =
    some (.ok status, w) at performed
  unfold RelayWorld.answer at performed
  cases thrown : choice.throws with
  | some message =>
    rw [thrown] at performed
    cases performed
  | none =>
    rw [thrown] at performed
    cases performed
    exact ⟨rfl, choice.code, rfl⟩

end Replies

theorem wp_sleep (robust : Robust settings a P) (holds : P v) {time ms} (late : time ≤ v.world.now)
    {Q : Except RelayError Unit → RelayView → Prop}
    (next : ∀ v', P v' → time + ms ≤ v'.world.now → Q (.ok ()) v') :
    RelayWp settings a (sleep ms) Q v := by
  unfold sleep
  rw [RelayWp, wp_bind]
  refine wp_plain trivial (robust.and (.now_le time)) ⟨holds, late⟩ fun v₁ (start : Nat) v₂ kept h₁ h₂ => ?_
  have started : start = v₁.world.now := kept.toAnswered.clock
  refine wp_plain trivial robust h₂.1 fun v₃ _ v₄ kept' _ h₄ => next v₄ h₄ ?_
  have woken : start + ms ≤ v₃.world.now := kept'.toAnswered.woken
  have sameTime := kept'.toAnswered.now_eq
  have before := h₁.2
  omega

/-- What the end of the poll says about the chain. -/
def Polled (hash : String) (deadline : Nat) (w : RelayWorld) : Relay.ConfirmationResult → Prop
  | .success => True
  | .failed _ => w.network.included hash = true ∧ w.network.applied hash = false
  | .timeout => deadline ≤ w.now ∧
    ((w.network.envelopes.get hash).any (·.row.isSome) = true → w.network.applied hash = false)

theorem Network.status_failed {network : Network} {code code' : String} (h : network.status hash code = .failed code') :
    network.included hash = true ∧ network.applied hash = false := by
  unfold status at h
  split at h
  · cases h
  · rename_i notApplied
    split at h
    · rename_i included
      exact ⟨included, by simpa using notApplied⟩
    · cases h

theorem Network.status_notFound {network : Network} {code : String} (h : network.status hash code = .notFound) :
    network.applied hash = false := by
  unfold status at h
  split at h
  · cases h
  · rename_i notApplied
    simpa using notApplied

/-- The poll gives up: the deadline has passed and, by the condition, the envelope was not applied. -/
theorem polled_timeout {v'} (kept : RelayKept settings v ⟨a, .waiting hash deadline, false⟩ v') :
    Polled hash deadline v'.world .timeout := by
  obtain ⟨answer, same⟩ := kept.toAnswered.waits
  have met : reliable v ⟨a, .waiting hash deadline, false⟩ v'.world = true := kept.met
  simp only [reliable, Bool.false_or, Bool.or_eq_true, Bool.not_eq_true'] at met
  rw [same]
  refine ⟨by simpa using answer, fun carries => met.resolve_left ?_⟩
  rw [carries]
  simp

/-- The poll ends within its rounds, because each round that goes on sleeps for a whole interval. -/
theorem wp_pollLoop (robust : Robust settings a P)
    {Q : Except RelayError Relay.ConfirmationResult → RelayView → Prop}
    (next : ∀ result v', P v' → Polled hash deadline v'.world result → Q (.ok result) v') :
    ∀ {rounds : Nat} {v : RelayView}, P v →
      deadline ≤ v.world.now + Relay.DEFAULT_POLL_INTERVAL_MS * rounds →
      RelayWp settings a (pollLoop hash deadline (rounds + 1)) Q v := by
  intro rounds
  induction rounds with
  | zero =>
    intro v holds bound
    unfold pollLoop
    rw [RelayWp, wp_bind]
    refine wp_plain trivial (robust.and (.now_le deadline)) ⟨holds, bound⟩
      fun v₁ (goesOn : Bool) v₂ kept h₁ h₂ => ?_
    obtain ⟨answer, _⟩ := kept.toAnswered.waits
    have timedOut : goesOn = false := by simpa [answer] using h₁.2
    subst timedOut
    exact next .timeout v₂ h₂.1 (polled_timeout kept)
  | succ rounds ih =>
    intro v holds bound
    unfold pollLoop
    rw [RelayWp, wp_bind]
    have late : deadline - Relay.DEFAULT_POLL_INTERVAL_MS * (rounds + 1) ≤ v.world.now := by omega
    refine wp_plain trivial (robust.and (.now_le _)) ⟨holds, late⟩
      fun v₁ (goesOn : Bool) v₂ kept h₁ h₂ => ?_
    cases goesOn with
    | false => exact next .timeout v₂ h₂.1 (polled_timeout kept)
    | true =>
      change RelayWp settings a (getTransaction hash >>= _) Q v₂
      rw [RelayWp, wp_bind]
      refine wp_plain trivial (robust.and (.now_le _)) h₂
        fun v₃ (answer : Except RelayError TxStatus) v₄ kept' h₃ h₄ => ?_
      have again : ∀ v₅, P v₅ → deadline - Relay.DEFAULT_POLL_INTERVAL_MS * (rounds + 1) +
          Relay.DEFAULT_POLL_INTERVAL_MS ≤ v₅.world.now →
          RelayWp settings a (pollLoop hash deadline (rounds + 1)) Q v₅ := by
        intro v₅ h₅ later
        refine ih h₅ ?_
        rw [Nat.mul_add] at later
        omega
      rw [onOk_ok]
      rcases answer with e | (_ | code | _)
      · rw [wp_bind]
        exact wp_sleep robust h₄.1 h₄.2 again
      · exact next .success v₄ h₄.1 trivial
      · obtain ⟨same, code', status⟩ := kept'.toAnswered.status
        refine next (.failed code) v₄ h₄.1 ?_
        rw [same]
        exact status_failed status.symm
      · rw [wp_bind]
        exact wp_sleep robust h₄.1 h₄.2 again

theorem wp_waitForConfirmation (robust : Robust settings a P) (holds : P v)
    {Q : Except RelayError Relay.ConfirmationResult → RelayView → Prop}
    (next : ∀ result deadline v', P v' → v.world.now + Relay.DEFAULT_TIMEOUT_MS ≤ deadline →
      Polled hash deadline v'.world result → Q (.ok result) v') :
    RelayWp settings a (waitForConfirmation hash) Q v := by
  unfold waitForConfirmation
  rw [RelayWp, wp_bind]
  refine wp_plain trivial (robust.and (.now_le v.world.now)) ⟨holds, le_rfl⟩
    fun v₁ (start : Nat) v₂ kept h₁ h₂ => ?_
  have started : start = v₁.world.now := kept.toAnswered.clock
  have sameTime := kept.toAnswered.now_eq
  have before := h₁.2
  refine wp_pollLoop robust (fun result v' h polled => next result _ v' h ?_ polled) h₂.1 ?_
  · omega
  · have rounds : Relay.DEFAULT_POLL_INTERVAL_MS * (Relay.DEFAULT_TIMEOUT_MS / Relay.DEFAULT_POLL_INTERVAL_MS) =
        Relay.DEFAULT_TIMEOUT_MS := by decide
    omega

/-! ### RestoreFootprint -/

/-- An envelope that carries no row's call. -/
def NoRow (hash : String) (w : RelayWorld) : Prop :=
  ∃ envelope, w.network.envelopes.get hash = some envelope ∧ envelope.row = none

theorem Robust.noRow (hash : String) : Robust settings a fun v => NoRow hash v.world := by
  apply of_later
  rintro w w' later ⟨envelope, present, row⟩
  exact ⟨envelope, later.envelopes hash envelope present, row⟩

theorem NoRow.not_carries (noRow : NoRow hash w) (id : Nat) : w.network.carries id hash = false := by
  obtain ⟨envelope, present, row⟩ := noRow
  simp [carries, present, row]

section

variable (robust : Robust settings a P)
include robust

theorem wp_buildRestore (holds : P v) {account} {Q : Except RelayError String → RelayView → Prop}
    (next : ∀ hash v', P v' → NoRow hash v'.world → Q (.ok hash) v') :
    RelayWp settings a (build none account) Q v := by
  refine wp_quiet robust holds (fun v₁ (hash : String) v₂ h inv answered => ?_)
    fun v₁ (hash : String) v₂ kept h₁ h₂ => next hash v₂ h₂ ?_
  · rcases answered.build with ⟨fresh, envelopes, accepted, ledger, sameRows⟩
    refine ⟨⟨by simp, by simp, rfl, by simp⟩, ?_⟩
    exact inv.build ledger fresh envelopes accepted answered.now_eq sameRows (by simp)
  · rcases kept.toAnswered.build with ⟨_, envelopes, _⟩
    refine ⟨⟨hash, none, account + 1, v₁.world.now⟩, ?_, rfl⟩
    rw [envelopes]
    exact JsMap.get_set_self _ _ _

theorem wp_submitRestore (holds : P v ∧ NoRow hash v.world)
    {Q : Except RelayError (Except RelayError SendResponse) → RelayView → Prop}
    (next : ∀ answer v', P v' → Q (.ok answer) v') : RelayWp settings a (submit hash) Q v := by
  refine wp_quiet (robust.and (.noRow hash)) holds (fun v₁ answer v₂ h inv answered => ?_)
    fun v₁ answer v₂ _ _ h₂ => next answer v₂ h₂.1
  have silent : ∀ id, v₁.world.network.carries id hash = false := h.2.not_carries
  constructor
  · refine ⟨by simp, by simp, rfl, ?_⟩
    intro hash' submits
    cases submits
    exact silent
  · rcases answered.submit with ⟨sameRows, same | same⟩
    · exact inv.of_same sameRows same answered.now_eq.ge
    · apply inv.submit (by rw [same]) hash (by rw [same]) (by rw [same]) answered.now_eq sameRows
      · exact h.2.imp fun _ present => present.1
      · intro id carries
        rw [silent id] at carries
        cases carries

theorem wp_submitRestoreFootprint (holds : P v) {account} {Q : Except RelayError Unit → RelayView → Prop}
    (next : ∀ outcome v', P v' → Q outcome v') : RelayWp settings a (submitRestoreFootprint account) Q v := by
  unfold submitRestoreFootprint
  rw [RelayWp, wp_bind]
  refine wp_buildRestore robust holds fun hash v₁ h₁ noRow => ?_
  refine wp_attempt_bind (wp_plain trivial (robust.and (.noRow hash)) ⟨h₁, noRow⟩ fun
    | _, .error _, v₂, _, _, h₂ => next _ v₂ h₂.1
    | _, .ok _, v₂, _, _, h₂ => ?_)
  refine wp_attempt_bind (wp_submitRestore robust h₂ fun
    | .error _, v₃, h₃ | .ok (.error _), v₃, h₃ => next _ v₃ h₃
    | .ok .sent, v₃, h₃ => ?_)
  apply (wp_bind _ _).mpr
  refine wp_waitForConfirmation robust h₃ fun result deadline v₄ h₄ _ _ => ?_
  rw [onOk_ok, wp_throwWhen]
  exact ⟨fun _ => next _ v₄ h₄, fun _ => next _ v₄ h₄⟩

theorem wp_simulateRestored (holds : P v) {tx} {Q : Except RelayError Simulation → RelayView → Prop}
    (next : ∀ outcome v', P v' → Q outcome v') : RelayWp settings a (simulateRestored tx sequence method) Q v := by
  refine wp_attempt_bind (wp_plain trivial robust holds fun
    | _, .error _, v₁, _, _, h₁ => next _ v₁ h₁
    | _, .ok simulation, v₁, _, _, h₁ => ?_)
  rw [onOk_ok, onOk_ok]
  split
  · rw [wp_bind]
    refine wp_submitRestoreFootprint robust h₁ fun outcome v₂ h₂ => ?_
    cases outcome with
    | error e => exact next _ v₂ h₂
    | ok _ =>
      refine wp_attempt_bind (wp_plain trivial robust h₂ fun
        | _, .error _, v₃, _, _, h₃ => next _ v₃ h₃
        | _, .ok again, v₃, _, _, h₃ => ?_)
      rw [onOk_ok, onOk_ok, wp_bind, wp_throwWhen]
      exact ⟨fun _ => next _ v₃ h₃, fun _ => next _ v₃ h₃⟩
  · exact next _ v₁ h₁

end

/-! ### Sending one envelope -/

variable {x : OutboxEntry}

theorem wp_buildFor (holds : Ready a.pid x v) {Q : Except RelayError String → RelayView → Prop}
    (next : ∀ hash built v', Ready a.pid x v' → BuiltFor x hash built v'.world → Q (.ok hash) v') :
    RelayWp settings a (build (some x.id) sequence) Q v := by
  refine wp_quiet (.ready' x) holds (fun v₁ (hash : String) v₂ h inv answered => ?_)
    fun v₁ (hash : String) v₂ kept h₁ h₂ => next hash v₁.world.now v₂ h₂ ?_
  · rcases answered.build with ⟨fresh, envelopes, accepted, ledger, sameRows⟩
    refine ⟨⟨by simp, by simp, rfl, by simp⟩, ?_⟩
    apply inv.build ledger fresh envelopes accepted answered.now_eq sameRows
    intro row same
    cases same
    rcases h with ⟨_, ready⟩
    rcases ready.owned with lost | ⟨held, _⟩
    · exact lost.row.imp fun _ present => present.1
    · exact held.row.imp fun _ present => present.1
  · rcases kept.toAnswered.build with ⟨_, envelopes, _⟩
    rcases h₁ with ⟨_, ready⟩
    have met : reliable v₁ ⟨a, .build (some x.id) sequence, hash⟩ v₂.world = true := kept.met
    simp only [reliable, ready.mine, Option.all_some, Option.any_eq_true, decide_eq_true_eq] at met
    rcases met with ⟨lease, locked, bound⟩
    refine ⟨kept.toAnswered.now_eq.ge,
      ⟨hash, some x.id, sequence + 1, v₁.world.now⟩, lease, ?_, rfl, rfl, locked, bound⟩
    rw [envelopes]
    exact JsMap.get_set_self _ _ _

theorem held_of_alive {envelopeHash} (ready : ReadyAt a.pid x envelopeHash v) (for_ : BuiltFor x hash built v.world)
    (alive : Alive v.world hash) : Held a.pid x envelopeHash v := by
  rcases ready.owned with lost | ⟨held, _⟩
  · rcases for_ with ⟨_, envelope, lease, present, _, builtAt, locked, bound⟩
    rcases alive with ⟨envelope', present', inTime⟩
    rcases lost.expired with ⟨lease', locked', expired⟩
    rw [present] at present'
    rw [locked] at locked'
    cases present'
    cases locked'
    omega
  · exact held

/-- Submitting the recorded envelope. If the worker is told that it failed, nothing has changed. -/
theorem wp_submitFor (holds : ReadyAt a.pid x (some hash) v ∧ BuiltFor x hash built v.world)
    {Q : Except RelayError (Except RelayError SendResponse) → RelayView → Prop}
    (sent : ∀ v', Claim a.pid x (some hash) v' → BuiltFor x hash built v'.world → Exclusive v'.world →
      Q (.ok (.ok .sent)) v')
    (failed : ∀ answer v', ReadyAt a.pid x (some hash) v' → submissionFailed answer = true → Q (.ok answer) v') :
    RelayWp settings a (submit hash) Q v := by
  refine wp_call ((ready x (some hash)).and (.builtFor x hash built)).stable holds
    fun v₁ (answer : Except RelayError SendResponse) v₂ inv h answered => ?_
  rcases h with ⟨ready, for_⟩
  rcases for_ with ⟨past, envelope, lease, present, row, rest⟩
  have onlyRow : ∀ id, v₁.world.network.carries id hash = true → id = x.id := by
    intro id carries
    rw [carries_of_get present, row] at carries
    exact (Option.some.inj carries).symm
  have heldIfAlive : Alive v₁.world hash → Held a.pid x (some hash) v₁ :=
    held_of_alive ready ⟨past, envelope, lease, present, row, rest⟩
  have relayPromise : RelayPromise v₁ ⟨a, .submit hash, answer⟩ := by
    refine ⟨fun y carries => ?_, by simp, by simp⟩
    cases carries
  have promise : singleEffect.promise v₁ ⟨a, .submit hash, answer⟩ := by
    refine ⟨relayPromise, ?_⟩
    intro hash' submits id carries alive
    cases submits
    rw [onlyRow id carries]
    exact (heldIfAlive alive).latest
  have after : Exclusive v₂.world := by
    rcases answered.submit with ⟨sameRows, same | same⟩
    · exact inv.of_same sameRows same answered.now_eq.ge
    · apply inv.submit (by rw [same]) hash (by rw [same]) (by rw [same]) answered.now_eq sameRows
      · exact ⟨envelope, present⟩
      · intro id carries alive
        rw [onlyRow id carries]
        rcases (heldIfAlive alive).row with ⟨stored, hstored, processing, _, _, onRecord⟩
        exact ⟨stored, hstored, processing, onRecord⟩
  have apart : claimedIn (⟨a, .submit hash, answer⟩ : RelayEvent) = [] ∧
      ∀ y, carried (.submit hash) = some y → y.id ≠ x.id := ⟨rfl, fun y carries => nomatch carries⟩
  refine ⟨promise, after, ?_⟩
  cases told : submissionFailed answer with
  | false =>
    have isSent : answer = .ok .sent := by
      unfold submissionFailed at told
      split at told
      · rfl
      · cases told
    subst isSent
    refine sent v₂ (ready.claim.step answered relayPromise (.inr apart)) ?_ after
    exact ⟨past.trans answered.later.time, envelope, lease, answered.later.envelopes _ _ present, row, rest⟩
  | true =>
    apply failed answer v₂ _ told
    have met : reliable v₁ ⟨a, .submit hash, answer⟩ v₂.world = true := answered.met
    simp only [reliable, told, Bool.not_true, Bool.false_or, decide_eq_true_eq] at met
    have same : v₂.world.network = v₁.world.network := by
      rcases answered.submit.2 with same | same
      · exact same
      · rw [same] at met
        exact absurd (List.mem_cons_self ..) met
    refine ⟨claimOf_step answered ready.mine (.inr rfl), ?_⟩
    rcases ready.owned with lost | ⟨held, noEffect⟩
    · exact .inl (lost.step answered relayPromise)
    · rcases held.step answered relayPromise (.inr apart) with held' | lost
      · refine .inr ⟨held', fun hash' effective => noEffect hash' ?_⟩
        exact effective.of_same_network same answered.now_eq.ge
      · exact .inl lost

theorem wp_beforeSubmit (holds : Ready a.pid x v ∧ BuiltFor x hash built v.world)
    {Q : Except RelayError Unit → RelayView → Prop}
    (recorded : ∀ v', ReadyAt a.pid x (some hash) v' → BuiltFor x hash built v'.world → Q (.ok ()) v')
    (fails : ∀ e v', Ready a.pid x v' → Q (.error e) v') : RelayWp settings a (beforeSubmit x hash) Q v := by
  unfold beforeSubmit
  rw [RelayWp, wp_bind]
  apply wp_fenced rfl ((ready' x).and (.builtFor x hash built)) holds
  · exact fun v₁ h => h.1.claim
  · intro v₁ row h inv present processing token locked
    rcases h.2 with ⟨_, envelope, lease, hget, _, builtAt, hlease, bound⟩
    have status : (row.assign { envelopeHash := some (some hash) } v₁.world.now).status = .processing :=
      processing
    constructor
    · simp [status]
    · simp [status]
    · intro _
      refine ⟨lease, locked.trans hlease, ?_⟩
      intro hash' same
      cases same
      exact ⟨envelope, hget, .inl (builtAt ▸ bound)⟩
    · exact fun _ hash' effective => absurd effective (h.1.not_effective present processing token hash')
  · intro v₁ (done : Bool) v₂ kept h outcome
    have answered := kept.toAnswered
    have for_ : BuiltFor x hash built v₂.world := by
      rcases h.2 with ⟨past, envelope, lease, present, rest⟩
      exact ⟨past.trans answered.later.time, envelope, lease, answered.later.envelopes _ _ present, rest⟩
    rcases h.1 with ⟨envelopeHash, ready⟩
    have mine := claimOf_step answered ready.mine (.inr rfl)
    rw [onOk_ok, wp_throwWhen]
    rcases outcome with ⟨refused, lost⟩ | ⟨succeeded, ⟨_, held⟩, update⟩
    · cases (show done = false from refused)
      refine ⟨fun _ => ?_, nofun⟩
      exact fails _ v₂ ⟨none, mine, .inl (lost.step answered kept.promise.1)⟩
    · cases (show done = true from succeeded)
      refine ⟨(nofun), fun _ => recorded v₂ ⟨mine, .inr ⟨?_, ?_⟩⟩ for_⟩
      · rcases held.row with ⟨row, present, processing, token, locked, _⟩
        refine ⟨?_, row.assign { envelopeHash := some (some hash) } v₁.world.now, ?_, processing, token,
          locked, rfl⟩
        · rcases answered.performed with ⟨_, _, _, rfl⟩
          exact held.latest
        · rw [update, OutboxStore.get_assign, if_pos rfl, present]
          rfl
      · intro hash' effective
        rcases held.row with ⟨row, present, processing, token, _⟩
        have same : v₂.world.network = v₁.world.network := answered.outbox rfl
        apply h.1.not_effective present processing token hash'
        exact effective.of_same_network same answered.now_eq.ge

theorem spent_of_polled {result} (for_ : BuiltFor x hash built w) (late : built + Relay.DEFAULT_TIMEOUT_MS ≤ deadline)
    (polled : Polled hash deadline w result) (unconfirmed : result ≠ .success) : Spent w hash := by
  rcases for_ with ⟨_, envelope, lease, present, row, builtAt, _⟩
  cases result with
  | success => exact absurd rfl unconfirmed
  | failed code => exact ⟨polled.2, .inl polled.1⟩
  | timeout =>
    rcases polled with ⟨past, notApplied⟩
    refine ⟨notApplied (by simp [present, row]), .inr ⟨envelope, present, ?_⟩⟩
    have margin : INVOKE_TX_TIMEOUT_MS < Relay.DEFAULT_TIMEOUT_MS := by decide
    omega

theorem wp_submitInvocation (holds : Ready a.pid x v)
    {Q : Except RelayError Relay.InvokeContractResult → RelayView → Prop}
    (confirmed : ∀ hash v', (∃ envelopeHash, Claim a.pid x envelopeHash v') →
      Q (.ok { hash, status := .success, dryRun := false }) v')
        (fails : ∀ e v', Ready a.pid x v' → Q (.error e) v') :
    RelayWp settings a (submitInvocation x.id method (beforeSubmit x) sequence) Q v := by
  unfold submitInvocation
  rw [RelayWp, wp_bind]
  apply wp_buildFor holds
  intro tx built v₁ ready for_
  have robust : Robust settings a fun v => Ready a.pid x v ∧ BuiltFor x tx built v.world :=
    (ready' x).and (.builtFor x tx built)
  rw [onOk_ok, wp_bind]
  apply wp_simulateRestored robust ⟨ready, for_⟩
  intro simulated v₂ h₂
  cases simulated with
  | error e => exact fails e v₂ h₂.1
  | ok simulation =>
    cases simulation with
    | error message => exact fails _ v₂ h₂.1
    | success | restorePreamble =>
      refine wp_attempt_bind (wp_plain trivial robust h₂ fun
        | _, .error e, v₃, _, _, h₃ => fails e v₃ h₃.1
        | _, .ok _, v₃, _, _, h₃ => ?_)
      refine wp_attempt_bind (wp_plain trivial robust h₃ fun
        | _, .error e, v₄, _, _, h₄ => fails e v₄ h₄.1
        | _, .ok _, v₄, _, _, h₄ => ?_)
      rw [onOk_ok, onOk_ok, wp_bind]
      apply wp_beforeSubmit h₄ _ fails
      intro v₅ ready₅ for₅
      rw [onOk_ok, wp_bind, wp_attempt]
      apply wp_submitFor ⟨ready₅, for₅⟩
      · intro v₆ claim₆ for₆ inv₆
        rw [onOk_ok, onOk_ok, wp_bind]
        have late := for₆.1
        apply wp_waitForConfirmation
          (((claim x (some tx)).and (.builtFor x tx built)).and .exclusive)
          ⟨⟨claim₆, for₆⟩, inv₆⟩
        intro result deadline v₇ h₇ hdeadline polled
        rw [onOk_ok, wp_bind, wp_throwWhen]
        constructor
        · intro unconfirmed
          have spent := spent_of_polled h₇.1.2 (by omega) polled (by simpa using unconfirmed)
          refine fails _ v₇ ⟨some tx, h₇.1.1.ready h₇.2 ?_⟩
          intro hash same
          cases same
          exact spent
        · exact fun _ => confirmed tx v₇ ⟨some tx, h₇.1.1⟩
      · intro answer v₆ ready₆ told
        rw [onOk_ok]
        rcases answer with e | (_ | resultXdr)
        · exact fails e v₆ ⟨_, ready₆⟩
        · cases told
        · exact fails _ v₆ ⟨_, ready₆⟩

theorem wp_invokeContract (holds : Ready a.pid x v)
    {Q : Except RelayError Relay.InvokeContractResult → RelayView → Prop}
    (sent : ∀ result v', (∃ envelopeHash, Claim a.pid x envelopeHash v') →
      (result.dryRun = false → result.status = .success) → Q (.ok result) v')
    (fails : ∀ e v', Ready a.pid x v' → Q (.error e) v') :
    RelayWp settings a (invokeContract worker x.id method (beforeSubmit x)) Q v := by
  unfold invokeContract assertOnChainWriteAllowed
  rw [RelayWp, wp_bind, wp_bind]
  refine wp_plain trivial (.ready' x) holds ?_
  intro _ (k : KillSwitch) v₁ _ _ h₁
  rw [onOk_ok]
  split
  · rw [wp_pure, onOk_ok, wp_bind]
    refine wp_plain trivial (.ready' x) h₁ ?_
    intro _ (dry : Bool) v₂ _ _ h₂
    rw [onOk_ok]
    cases dry with
    | true => exact sent _ v₂ h₂.claim nofun
    | false =>
      rw [if_neg Bool.false_ne_true, withNextSequence, wp_tryCatch]
      have reset : ∀ e v', Ready a.pid x v' →
          RelayWp settings a (do resetSequence worker; throw e) Q v' := by
        intro e v' h'
        rw [RelayWp, wp_bind]
        refine wp_plain trivial (.ready' x) h' ?_
        intro _ _ v₃ _ _ h₃
        exact fails e v₃ h₃
      refine wp_attempt_bind (wp_plain trivial (.ready' x) h₂ fun
        | _, .error e, v₃, _, _, h₃ => reset e v₃ h₃
        | _, .ok sequence, v₃, _, _, h₃ => ?_)
      apply wp_submitInvocation h₃
      · exact fun hash v₄ claim => sent _ v₄ claim fun _ => rfl
      · exact reset
  · exact fails _ v₁ h₁

/-! ### One claimed row -/

theorem RowSafe.of_settled
    (settled : row.status ≠ .pending ∧ row.status ≠ .processing ∧ row.status ≠ .submitted) :
    RowSafe w id row :=
  ⟨settled.2.2, fun h => absurd h settled.1, fun h => absurd h settled.2.1,
    fun h => (h.elim settled.1 settled.2.1).elim⟩

theorem RowSafe.of_cleared (pending : row.status = .pending) (cleared : row.envelopeHash = none)
    (noEffect : ∀ hash, ¬Effective w id hash) : RowSafe w id row := by
  constructor
  · simp [pending]
  · exact fun _ => cleared
  · simp [pending]
  · exact fun _ hash effective => absurd effective (noEffect hash)

section

variable {k : RelayReply c → Relay β} {Q : Except RelayError β → RelayView → Prop}
  (writes : fencedWrite c = some (x, «from», patch)) (rest : ∀ reply v', RelayWp settings a (k reply) Q v')
include writes rest

theorem wp_last (robust : Robust settings a P) (holds : P v)
    (claimed : ∀ v, P v → ∃ envelopeHash, Claim a.pid x envelopeHash v)
    (safe : ∀ v₁ row, P v₁ → v₁.world.outbox.get x.id = some row → row.status = .processing →
      row.attempts = x.attempts → RowSafe v₁.world x.id (row.assign patch v₁.world.now)) :
    RelayWp settings a (call c >>= k) Q v := by
  rw [RelayWp, wp_bind]
  apply wp_fenced writes robust holds claimed
  · exact fun v₁ row h _ present processing token _ => safe v₁ row h present processing token
  · exact fun _ reply v₂ _ _ _ => rest reply v₂

theorem wp_settle (status : OutboxStatus) (sets : patch.status = some status)
    (settled : status ≠ .pending ∧ status ≠ .processing ∧ status ≠ .submitted)
    (holds : ∃ envelopeHash, Claim a.pid x envelopeHash v) : RelayWp settings a (call c >>= k) Q v := by
  apply wp_last writes rest (of_exists fun envelopeHash => .claim x envelopeHash) holds
  · exact fun _ h => h
  · intro v₁ row _ _ _ _
    apply RowSafe.of_settled
    simpa [OutboxEntry.assign, sets] using settled

theorem wp_giveBack (pending : patch.status = some .pending) (cleared : patch.envelopeHash = some none)
    (holds : Ready a.pid x v) : RelayWp settings a (call c >>= k) Q v := by
  apply wp_last writes rest (.ready' x) holds
  · exact fun _ h => h.claim
  · intro v₁ row ready present processing token
    apply RowSafe.of_cleared
    · simp [OutboxEntry.assign, pending]
    · simp [OutboxEntry.assign, cleared]
    · exact ready.not_effective present processing token

end

theorem wp_counted (done : ∀ result v', Q (.ok result) v') {r r'} (reply : Bool) (v' : RelayView) :
    RelayWp settings a (if reply then pure r else pure r') Q v' := by
  cases reply <;> exact done _ v'

theorem wp_fail (holds : Ready a.pid x v) {message} (done : ∀ result v', Q (.ok result) v') :
    RelayWp settings a (fail settings x message now result) Q v := by
  unfold fail
  split
  · exact wp_settle rfl (wp_counted done) .dead rfl (by decide) holds.claim
  · exact wp_giveBack rfl (wp_counted done) rfl rfl holds

theorem wp_send (holds : Ready a.pid x v) (done : ∀ result v', Q (.ok result) v')
    (fails : ∀ e v', Ready a.pid x v' → Q (.error e) v') :
    RelayWp settings a (send settings worker x result) Q v := by
  unfold send
  rw [RelayWp, wp_bind, wp_throwWhen]
  refine ⟨fun _ => fails _ v holds, fun _ => ?_⟩
  refine wp_attempt_bind (wp_plain trivial (.ready' x) holds fun
    | _, .error e, v₁, _, _, h₁ => fails e v₁ h₁
    | _, .ok _, v₁, _, _, h₁ => ?_)
  rw [onOk_ok, onOk_ok, wp_bind]
  apply wp_invokeContract h₁ _ fails
  intro sent v₂ claim live
  rw [onOk_ok]
  cases dry : sent.dryRun with
  | true => exact wp_settle rfl (wp_counted done) .simulated rfl (by decide) claim
  | false =>
    rw [live dry]
    exact wp_settle rfl (wp_counted done) .confirmed rfl (by decide) claim

/-- What a worker knows of a row right after its claim: the envelope on record is out of time. -/
def Claimed (p : Nat) (x : OutboxEntry) (v : RelayView) : Prop :=
  Claim p x x.envelopeHash v ∧ ∀ hash, x.envelopeHash = some hash →
    ∃ envelope, v.world.network.envelopes.get hash = some envelope ∧
      envelope.builtAt + INVOKE_TX_TIMEOUT_MS < v.world.now

theorem Robust.claimed (x : OutboxEntry) : Robust settings a (Claimed a.pid x) := by
  apply and (.claim x _)
  apply of_later (p := fun w => ∀ hash, x.envelopeHash = some hash →
    ∃ envelope, w.network.envelopes.get hash = some envelope ∧
      envelope.builtAt + INVOKE_TX_TIMEOUT_MS < w.now)
  intro w w' later h hash same
  rcases h hash same with ⟨envelope, present, late⟩
  exact ⟨envelope, later.envelopes hash envelope present, late.trans_le later.time⟩

theorem claimedHash_of_claimOf {p history} (mine : claimOf p id history = some y)
    (onRecord : y.envelopeHash = some hash) : claimedHash p hash history = true := by
  induction history with
  | nil => cases mine
  | cons e older ih =>
    rw [claimedHash, List.any_cons]
    unfold claimOf at mine
    split at mine
    · rename_i claims
      have member := List.mem_of_find?_eq_some mine
      have here : (claimedIn e).any (·.envelopeHash == some hash) = true := by
        rw [List.any_eq_true]
        exact ⟨y, member, by simp [onRecord]⟩
      simp [claims.1, here]
    · rw [← claimedHash, ih mine, Bool.or_true]

section

variable (holds : Claimed a.pid x v) (inv : Exclusive v.world) (done : ∀ result v', Q (.ok result) v')
include holds inv done

theorem wp_processBody (fails : ∀ e v', Ready a.pid x v' → Q (.error e) v') :
    RelayWp settings a (processBody settings worker x result) Q v := by
  unfold processBody
  cases onRecord : x.envelopeHash with
  | none =>
    refine wp_send ⟨_, holds.1.ready inv ?_⟩ done fails
    simp [onRecord]
  | some hash =>
    rw [RelayWp, wp_bind, check, wp_attempt]
    refine wp_plain trivial (.claimed x) holds ?_
    intro v₁ (answer : Except RelayError TxStatus) v₂ kept h₁ h₂
    have same := (kept.toAnswered.plain trivial).2
    rcases h₂.2 hash onRecord with ⟨envelope, present, late⟩
    -- Whatever the answer, an envelope that was not applied is spent.
    have again (notApplied : v₁.world.network.applied hash = false) : Ready a.pid x v₂ := by
      refine ⟨_, h₂.1.ready kept.after ?_⟩
      intro hash' onRecord'
      rw [onRecord] at onRecord'
      cases onRecord'
      exact ⟨same ▸ notApplied, .inr ⟨envelope, present, late⟩⟩
    rw [onOk_ok]
    cases answer with
    | error e =>
      refine fails e v₂ (again ?_)
      have met : reliable v₁ ⟨a, .getTransaction hash, .error e⟩ v₂.world = true := kept.met
      simpa [reliable, lookupFailed, claimedHash_of_claimOf h₁.1.mine onRecord] using met
    | ok status =>
      rcases kept.toAnswered.status with ⟨_, code, isStatus⟩
      rw [onOk_ok]
      cases status with
      | success => exact wp_settle rfl (wp_counted done) .confirmed rfl (by decide) ⟨_, h₂.1⟩
      | failed code' => exact fails _ v₂ (again (status_failed isStatus.symm).2)
      | notFound => exact wp_send (again (status_notFound isStatus.symm)) done fails

theorem wp_process : RelayWp settings a (process settings worker now result x) Q v := by
  unfold process
  rw [RelayWp, wp_tryCatch]
  apply wp_processBody holds inv
  · exact done
  · intro e v₁ ready
    rw [onOk_error]
    cases e with
    | killSwitchActive active => exact wp_giveBack rfl (wp_counted done) rfl rfl ready
    | ttlExtensionOverBudget | error => exact wp_fail ready done

end

/-! ### The calls made for one row -/

/-- Processing `x` claims nothing and updates no other row. -/
def OnlyFor (x : OutboxEntry) (c : RelayCall) : Prop :=
  (∀ now limit leaseUntil, c ≠ .outbox (.claimDue now limit leaseUntil)) ∧
    ∀ y, carried c = some y → y = x

theorem onlyFor_of_plain (plain : Plain c) : OnlyFor x c := by
  cases c with
  | outbox | build | submit => exact plain.elim
  | _ => exact ⟨by simp, by simp [carried, fencedWrite]⟩

/-- A row is dead-lettered only by a worker whose claim used the last attempt up. -/
def WithinBudget (settings : OutboxSettings) : RelayCall → Prop
  | .outbox (.markDead entry _) => settings.maxAttempts ≤ entry.attempts
  | _ => True

theorem withinBudget_of_plain (plain : Plain c) : WithinBudget settings c := by
  cases c with
  | outbox | build | submit => exact plain.elim
  | _ => trivial

/-- The calls that a worker makes for one claimed row. -/
def HandlesRow (settings : OutboxSettings) (x : OutboxEntry) (c : RelayCall) : Prop :=
  OnlyFor x c ∧ WithinBudget settings c

theorem calls_plain (plain : Plain c) : (call c : Relay (RelayReply c)).Calls (HandlesRow settings x) :=
  (calls_call c).mpr ⟨onlyFor_of_plain plain, withinBudget_of_plain plain⟩

theorem calls_update (fenced : (fencedWrite c).any (·.1 == x) = true) (budget : WithinBudget settings c) :
    (call c : Relay (RelayReply c)).Calls (HandlesRow settings x) := by
  rw [calls_call]
  refine ⟨⟨?_, ?_⟩, budget⟩
  · rintro now limit leaseUntil rfl
    cases fenced
  · intro y carries
    rcases Option.map_eq_some_iff.mp carries with ⟨write, writes, rfl⟩
    rw [writes] at fenced
    simpa using fenced

theorem calls_counted {k : RelayReply c → Relay RelayTickResult} (fenced : (fencedWrite c).any (·.1 == x) = true)
    (budget : WithinBudget settings c) (rest : ∀ reply, (k reply).Calls (HandlesRow settings x)) :
    (call c >>= k).Calls (HandlesRow settings x) :=
  calls_bind (calls_update fenced budget) rest

theorem calls_result {r r'} (reply : Bool) :
    (if reply then pure r else pure r' : Relay RelayTickResult).Calls (HandlesRow settings x) := by
  cases reply <;> exact calls_pure _

theorem calls_build (row : Option Nat) (account : Nat) : (build row account).Calls (HandlesRow settings x) :=
  (calls_call _).mpr ⟨⟨by simp, by simp [carried, fencedWrite]⟩, trivial⟩

theorem calls_submit (hash : String) : (attempt (submit hash)).Calls (HandlesRow settings x) :=
  calls_attempt ((calls_call _).mpr ⟨⟨by simp, by simp [carried, fencedWrite]⟩, trivial⟩)

theorem calls_pollLoop (hash : String) (deadline rounds : Nat) :
    (pollLoop hash deadline rounds).Calls (HandlesRow settings x) := by
  induction rounds with
  | zero => exact calls_pure _
  | succ rounds ih =>
    refine calls_bind (calls_plain trivial) ?_
    intro goesOn
    have sleeps : Async.Calls (HandlesRow settings x) (do
        sleep Relay.DEFAULT_POLL_INTERVAL_MS
        pollLoop hash deadline rounds) :=
      calls_bind (calls_bind (calls_plain trivial) fun _ => calls_plain trivial) fun _ => ih
    split
    · refine calls_bind (calls_plain trivial) ?_
      intro answer
      rcases answer with e | (_ | code | _)
      · exact sleeps
      · exact calls_pure _
      · exact calls_pure _
      · exact sleeps
    · exact calls_pure _

theorem calls_waitForConfirmation (hash : String) : (waitForConfirmation hash).Calls (HandlesRow settings x) :=
  calls_bind (calls_plain trivial) fun _ => calls_pollLoop _ _ _

theorem calls_simulateRestored (tx method : String) (sequence : Nat) :
    (simulateRestored tx sequence method).Calls (HandlesRow settings x) := by
  refine calls_bind (calls_attempt (calls_plain trivial)) ?_
  intro simulation
  split
  · apply calls_bind
    · apply calls_bind (calls_build _ _)
      intro restore
      refine calls_bind (calls_attempt (calls_plain trivial)) ?_
      intro _
      apply calls_bind (calls_submit _)
      intro answer
      cases answer with
      | error resultXdr => exact calls_throw _
      | sent => exact calls_bind (calls_waitForConfirmation _) fun _ => calls_throwWhen _ _
    · intro _
      refine calls_bind (calls_attempt (calls_plain trivial)) ?_
      exact fun _ => calls_bind (calls_throwWhen _ _) fun _ => calls_pure _
  · exact calls_pure _

theorem calls_submitInvocation (method : String) (sequence : Nat) :
    (submitInvocation x.id method (beforeSubmit x) sequence).Calls (HandlesRow settings x) := by
  apply calls_bind (calls_build _ _)
  intro tx
  apply calls_bind (calls_simulateRestored _ _ _)
  have records : (beforeSubmit x tx).Calls (HandlesRow settings x) :=
    calls_bind (calls_update (by simp [fencedWrite]) trivial) fun _ => calls_throwWhen _ _
  intro simulation
  cases simulation with
  | error message => exact calls_throw _
  | success | restorePreamble =>
    refine calls_bind (calls_attempt (calls_plain trivial)) fun _ => ?_
    refine calls_bind (calls_attempt (calls_plain trivial)) fun _ => ?_
    refine calls_bind records fun _ => ?_
    apply calls_bind (calls_submit _)
    intro answer
    cases answer with
    | error resultXdr => exact calls_throw _
    | sent =>
      apply calls_bind (calls_waitForConfirmation _)
      exact fun _ => calls_bind (calls_throwWhen _ _) fun _ => calls_pure _

theorem calls_invokeContract (worker : Nat) (method : String) :
    (invokeContract worker x.id method (beforeSubmit x)).Calls (HandlesRow settings x) := by
  apply calls_bind
  · refine calls_bind (calls_plain trivial) ?_
    intro k
    split
    · exact calls_pure _
    · exact calls_throw _
  · intro _
    refine calls_bind (calls_plain trivial) ?_
    intro dry
    split
    · exact calls_pure _
    · apply calls_tryCatch
      · exact calls_bind (calls_attempt (calls_plain trivial)) fun _ => calls_submitInvocation _ _
      · exact fun _ => calls_bind (calls_plain trivial) fun _ => calls_throw _

theorem calls_fail (message : String) (now : Nat) (result : RelayTickResult) :
    (fail settings x message now result).Calls (HandlesRow settings x) := by
  unfold fail
  split
  · rename_i used
    exact calls_counted (by simp [fencedWrite]) used calls_result
  · exact calls_counted (by simp [fencedWrite]) trivial calls_result

theorem calls_send (worker : Nat) (result : RelayTickResult) :
    (send settings worker x result).Calls (HandlesRow settings x) := by
  refine calls_bind (calls_throwWhen _ _) fun _ => ?_
  refine calls_bind (calls_attempt (calls_plain trivial)) fun _ => ?_
  apply calls_bind (calls_invokeContract _ _)
  intro sent
  split
  · exact calls_counted (by simp [fencedWrite]) trivial calls_result
  · split
    · exact calls_counted (by simp [fencedWrite]) trivial calls_result
    · exact calls_counted (by simp [fencedWrite]) trivial calls_result

theorem calls_process (worker now : Nat) (result : RelayTickResult) :
    (process settings worker now result x).Calls (HandlesRow settings x) := by
  apply calls_tryCatch
  · unfold processBody
    split
    · exact calls_send _ _
    · refine calls_bind (calls_attempt (calls_plain trivial)) ?_
      intro status
      cases status with
      | success =>
        exact calls_counted (by simp [fencedWrite]) trivial calls_result
      | failed code => exact calls_throw _
      | notFound => exact calls_send _ _
  · intro e
    cases e with
    | killSwitchActive active =>
      exact calls_counted (by simp [fencedWrite]) trivial calls_result
    | ttlExtensionOverBudget | error => exact calls_fail _ _ _

/-! ### The tick -/

theorem find_of_nodup {entries : List OutboxEntry} (nodup : (entries.map (·.id)).Nodup) (hy : y ∈ entries) :
    entries.find? (·.id == y.id) = some y := by
  rw [List.find?_eq_some_iff_append]
  rcases List.append_of_mem hy with ⟨earlier, later, rfl⟩
  refine ⟨by simp, earlier, later, rfl, ?_⟩
  intro z hz
  rw [List.map_append, List.nodup_append] at nodup
  have distinct := nodup.2.2 z.id (List.mem_map_of_mem hz) y.id (by simp)
  simpa using distinct

theorem RowSafe.due (safe : RowSafe w id row) (isDue : OutboxStore.due row now = true) (dated : now ≤ w.now)
    (onRecord : row.envelopeHash = some hash) :
    ∃ envelope, w.network.envelopes.get hash = some envelope ∧ envelope.builtAt + INVOKE_TX_TIMEOUT_MS < w.now := by
  simp only [OutboxStore.due, Bool.or_eq_true, Bool.and_eq_true, beq_iff_eq, decide_eq_true_eq,
    Option.any_eq_true] at isDue
  rcases isDue with ⟨pending, _⟩ | ⟨processing, lease, locked, expired⟩
  · rw [safe.cleared pending] at onRecord
    cases onRecord
  · rcases safe.leased processing with ⟨lease', locked', recorded⟩
    rw [locked] at locked'
    cases locked'
    rcases recorded hash onRecord with ⟨envelope, present, bound⟩
    exact ⟨envelope, present, by omega⟩

theorem wp_claimDue {start limit leaseUntil : Nat} (dated : start ≤ v.world.now)
    {Q : Except RelayError (List OutboxEntry) → RelayView → Prop}
    (next : ∀ entries v', (entries.map (·.id)).Nodup → (∀ y ∈ entries, Claimed a.pid y v') →
      Exclusive v'.world → Q (.ok entries) v') : RelayWp settings a (claimDue start limit leaseUntil) Q v := by
  apply wp_call (now_le start).stable dated
  intro v₁ (entries : List OutboxEntry) v₂ inv dated answered
  have sameTime := answered.now_eq
  have same : v₂.world.network = v₁.world.network := answered.outbox rfl
  have claims : OutboxStore.Claims start leaseUntil v₁.world.outbox entries v₂.world.outbox := by
    cases storeChange answered with
    | claim now limit leaseUntil call claims =>
      cases call
      exact claims
    | fenced _ _ _ writes => cases writes
    | requeue _ call => cases call
    | enqueue _ call => cases call
    | read noClaim _ _ sameRows =>
      cases (show entries = [] from noClaim)
      exact ⟨by simp, fun id _ => by rw [sameRows], .nil⟩
  have after := Exclusive.claim inv same sameTime claims dated
  refine ⟨⟨⟨?_, ?_, by simp⟩, by simp⟩, after, next entries v₂ claims.nodup ?_ after⟩
  · intro y carries
    cases carries
  · intro now limit' leaseUntil' call
    cases call
    exact dated
  · intro y hy
    rcases claims.claim y hy with ⟨row, present, isDue, isClaim, stored⟩
    have claimsIt : claimsRow y.id ⟨a, .outbox (.claimDue start limit leaseUntil), entries⟩ = true :=
      List.any_eq_true.mpr ⟨y, hy, by simp⟩
    have history : v₂.history = ⟨a, .outbox (.claimDue start limit leaseUntil), entries⟩ :: v₁.history := by
      rcases answered.performed with ⟨_, _, _, rfl⟩
      rfl
    refine ⟨⟨?_, .inl ⟨?_, y, stored, ?_, rfl, rfl, rfl⟩⟩, ?_⟩
    · rw [history, claimOf, if_pos ⟨rfl, claimsIt⟩]
      exact find_of_nodup claims.nodup hy
    · rw [history, holder, if_pos claimsIt]
    · rw [isClaim]
      rfl
    · intro hash onRecord
      rw [same, sameTime]
      apply RowSafe.due (inv.rows y.id row present) isDue dated
      rw [isClaim] at onRecord
      exact onRecord

/-- While one row of the batch is processed, the rest of the batch stays claimed. -/
theorem Claimed.step {v' e} (claimed : Claimed a.pid y v) (kept : RelayKept settings v e v')
    (onlyFor : OnlyFor x e.call) (other : x.id ≠ y.id) : Claimed a.pid y v' := by
  constructor
  · refine claimed.1.step kept.toAnswered kept.promise.1 (.inr ⟨claimedIn_eq_nil onlyFor.1, ?_⟩)
    intro z carries
    rw [onlyFor.2 z carries]
    exact other
  · intro hash onRecord
    rcases claimed.2 hash onRecord with ⟨envelope, present, late⟩
    have later := kept.toAnswered.later
    exact ⟨envelope, later.envelopes hash envelope present, late.trans_le later.time⟩

theorem wp_relayDue {start} (dated : start ≤ v.world.now) (done : ∀ result v', Q (.ok result) v') :
    RelayWp settings a (relayDue settings worker start result) Q v := by
  unfold relayDue
  rw [RelayWp, wp_bind]
  apply wp_claimDue dated
  intro entries v₁ nodup claimed inv
  rw [onOk_ok]
  apply wp_onEachWith (P := fun rest v => (∀ y ∈ rest, Claimed a.pid y v) ∧ Exclusive v.world)
  · rintro acc x rest ⟨earlier, rfl⟩ v₂ ⟨claimed, inv⟩
    have apart : ∀ y ∈ rest, x.id ≠ y.id := by
      intro y hy
      rw [List.map_append, List.map_cons, List.nodup_append, List.nodup_cons] at nodup
      rintro same
      exact nodup.2.1.1 (same ▸ List.mem_map_of_mem hy)
    have processed : RelayWp settings a (process settings worker start acc x)
        (onOk (fun _ _ => False) fun _ _ => True) v₂ :=
      wp_process (claimed x (.head _)) inv fun _ _ => trivial
    have stable : Stable (relayService settings) (relayRuns reliable) singleEffect a fun v =>
        (∀ y ∈ rest, Claimed a.pid y v) ∧ Exclusive v.world :=
      .and (fun v v' move h y hy => (Robust.claimed y).stable v v' move (h y hy)) Robust.exclusive.stable
    have framed := wp_frame stable
      (fun v e v' _ onlyFor kept h => ⟨fun y hy => (h.1 y hy).step kept onlyFor (apart y hy), kept.after⟩)
      ((calls_process worker start acc).mono fun _ handles => handles.1) processed
        ⟨fun y hy => claimed y (.tail _ hy), inv⟩
    refine wp_mono ?_ framed
    intro outcome v' h
    cases outcome with
    | error e => exact h.1.elim
    | ok _ => exact h.2
  · exact fun acc v₂ _ => done acc v₂
  · exact ⟨claimed, inv⟩

/-- No row waits on confirmation, since every submission is confirmed by the worker that made it. -/
theorem findSubmitted_eq_nil (exclusive : Exclusive w) (limit : Nat) : w.outbox.findSubmitted limit = [] := by
  have none : w.outbox.ordered.filter (·.status == .submitted) = [] := by
    rw [List.filter_eq_nil_iff]
    intro row hrow
    simpa using (exclusive.rows row.id row (OutboxStore.mem_ordered.mp hrow)).unsubmitted
  rw [OutboxStore.findSubmitted, none, List.take_nil]

theorem wp_read {call} {Q : Except RelayError (RelayReply (.outbox call)) → RelayView → Prop}
    (reads : call = .countByStatus ∨ ∃ limit, call = .findSubmitted limit)
    (robust : Robust settings a P) (holds : P v)
    (next : ∀ v₁ reply v₂, RelayKept settings v₁ ⟨a, .outbox call, reply⟩ v₂ → P v₂ →
      Q (.ok reply) v₂) :
    RelayWp settings a (Async.call (RelayCall.outbox call)) Q v := by
  refine wp_quiet robust holds ?_ fun v₁ reply v₂ kept _ h => next v₁ reply v₂ kept h
  intro v₁ reply v₂ _ inv answered
  have sameRows : v₂.world.outbox = v₁.world.outbox := by
    rcases answered.performed with ⟨_, _, performed, rfl⟩
    rcases reads with rfl | ⟨limit, rfl⟩ <;> cases performed <;> rfl
  refine ⟨?_, inv.of_same sameRows (answered.outbox rfl) answered.now_eq.ge⟩
  rcases reads with rfl | ⟨limit, rfl⟩ <;> exact ⟨by simp, by simp, rfl, by simp⟩

theorem wp_confirmSubmitted (robust : Robust settings a P) (holds : P v)
    (next : ∀ result v', P v' → Q (.ok result) v') :
    RelayWp settings a (confirmSubmitted settings now result) Q v := by
  unfold confirmSubmitted
  rw [RelayWp, wp_bind]
  refine wp_read (.inr ⟨_, rfl⟩) robust holds ?_
  intro v₁ (submitted : List OutboxEntry) v₂ kept h
  have none : submitted = [] := by
    rcases kept.performed with ⟨_, _, performed, _⟩
    change some (v₁.world.outbox.findSubmitted settings.batchSize, _) = some (submitted, _) at performed
    rw [findSubmitted_eq_nil kept.before] at performed
    cases performed
    rfl
  rw [onOk_ok, none]
  exact next result v₂ h

theorem wp_tick (worker : Nat) : RelayWp settings a (tick settings worker) (fun _ _ => True) v := by
  unfold tick
  rw [RelayWp, wp_bind]
  refine wp_plain trivial (.const True) trivial ?_
  intro v₁ (start : Nat) v₂ kept _ _
  have dated : start ≤ v₂.world.now :=
    Nat.le_of_eq (kept.toAnswered.clock.trans kept.toAnswered.now_eq.symm)
  rw [onOk_ok, wp_bind]
  refine wp_plain trivial (.now_le start) dated ?_
  intro _ (began : Bool) v₃ _ _ dated
  rw [onOk_ok]
  cases began with
  | false => exact trivial
  | true =>
    rw [if_pos rfl, wp_tryFinally]
    have ends : ∀ outcome v', RelayWp settings a (endTick worker)
        (onOk (fun _ _ => True) fun (_ : Unit) _ => (fun _ _ => True : Except RelayError RelayTickResult →
          RelayView → Prop) outcome v') v' :=
      fun _ v' => wp_plain trivial (.const True) trivial fun _ _ _ _ _ _ => trivial
    rw [wp_bind]
    apply wp_confirmSubmitted (.now_le start) dated
    intro result v₄ dated
    rw [onOk_ok, wp_bind]
    apply wp_relayDue dated
    intro result v₅
    rw [onOk_ok, wp_bind]
    refine wp_read (.inl rfl) (.const True) trivial ?_
    exact fun _ _ v₆ _ _ => ends (.ok result) v₆

end Functions

theorem singleEffect_holds (settings : OutboxSettings) :
    singleEffect.Holds (relayService settings) (relayRuns reliable) where
  initial := by
    rintro w ⟨rows, envelopes, accepted, ledger⟩
    have noEffect : ∀ id hash, ¬Effective w id hash := by
      rintro id hash ⟨carries, _⟩
      simp [Network.carries, envelopes] at carries
    constructor
    · simp [accepted]
    · simp [ledger]
    · simp [ledger]
    · simp [envelopes]
    · simp [rows, OutboxStore.get, OutboxStore.empty]
    · exact fun id hash₁ _ effective => absurd effective (noEffect id hash₁)
  drift := fun _ _ _ inv drifted => exclusive_drift inv drifted
  start := by
    rintro pid request v ⟨worker, rfl⟩ inv _
    exact (wp_bind _ _).mpr (wp_mono (fun outcome _ _ => by cases outcome <;> trivial) (wp_tick worker))

/-- In every run that meets the condition, the contract call of every row takes effect at most once. -/
theorem outbox_call_takes_effect_at_most_once {settings : OutboxSettings}
    {ts : List (Transition RelayReply RelayWorld RelayChoice RelayWorld.Drift RelayRequest (Except RelayError Unit))}
    {c : Config RelayReply RelayWorld RelayRequest (Except RelayError Unit)}
    (run : Run (relayService settings) (relayRuns reliable) ts c) (row : Nat) : c.world.network.effects row ≤ 1 :=
  (run.keeps_inv (singleEffect_holds settings)).effects_le_one row

/-- A tick of request `pid` up to the submission of the envelope that it builds for one claimed row. -/
private def tickToSubmission (pid : Nat) (envelope : String) (submission : RelayChoice) : List RelayMove :=
  (.arrive (.tick 0) :: List.replicate 8 (.act pid {}) : List RelayMove) ++
    (.act pid { hash := envelope } :: List.replicate 4 (.act pid {}) : List RelayMove) ++
    ([.act pid submission] : List RelayMove)

/-- The account catches up and the chain includes the envelope. -/
private def inclusion (envelope : String) : List RelayMove :=
  [.drift .bumpSequence, .drift (.close envelope true)]

/-- A tick whose submission is answered sends the call once and confirms the row. -/
theorem answered_call_takes_effect_once :
    ∃ ts c, Run (relayService {}) (relayRuns reliable) ts c ∧ c.world.network.effects 1 = 1 ∧
      c.world.outbox.countByStatus = OUTBOX_STATUSES.map (fun s => (s, if s = .confirmed then 1 else 0)) ∧
      ∀ row, c.world.network.effects row ≤ 1 := by
  obtain ⟨ts, c, run, sent⟩ := Run.exists_of_trace (relayService {}) (relayRuns reliable) {}
    (List.flatten [.drift (.enqueue ⟨"intent-1", .createIntent, []⟩) :: tickToSubmission 0 "E1" {},
      inclusion "E1", List.replicate 6 (.act 0 {})])
    (fun _ c => decide (c.world.network.effects 1 = 1 ∧
      c.world.outbox.countByStatus = OUTBOX_STATUSES.map fun s => (s, if s = .confirmed then 1 else 0)))
    ⟨rfl, rfl, rfl, rfl⟩ (by simp [tickToSubmission, inclusion, relayRuns]) (by decide)
  have sent := of_decide_eq_true sent
  exact ⟨ts, c, run, sent.1, sent.2, outbox_call_takes_effect_at_most_once run⟩

/-- Without the condition the call is sent twice: the submission throws after the network accepted the
    envelope, the retry forgets the recorded hash, and the next tick builds and sends another envelope. -/
theorem lost_reply_sends_twice :
    ∃ ts c, Run (relayService {}) (relayRuns fun _ _ _ => true) ts c ∧ c.world.network.effects 1 = 2 := by
  obtain ⟨ts, c, run, sent⟩ := Run.exists_of_trace (relayService {}) (relayRuns fun _ _ _ => true) {}
    (List.flatten [.drift (.enqueue ⟨"intent-1", .createIntent, []⟩) ::
      tickToSubmission 0 "E1" { throws := some "socket hang up" }, List.replicate 4 (.act 0 {}),
      inclusion "E1", .drift (.tick 1000) :: tickToSubmission 1 "E2" {}, inclusion "E2"])
    (fun _ c => decide (c.world.network.effects 1 = 2)) ⟨rfl, rfl, rfl, rfl⟩
    (by simp [tickToSubmission, inclusion, relayRuns]) (by decide)
  exact ⟨ts, c, run, of_decide_eq_true sent⟩

end VortexBackend
