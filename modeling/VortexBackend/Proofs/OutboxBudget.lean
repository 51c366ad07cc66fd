/-
Module: VortexBackend.Proofs.OutboxBudget
Purpose: The attempts of a row are its claims that no kill-switch release gave back.
Main exports: pauses_never_dead_letter
-/
import VortexBackend.Async.Discipline
import VortexBackend.Proofs.OutboxAtMostOnce

namespace VortexBackend

open Async OutboxStore

/-! ### Counting claims -/

/-- The claims of a row since it was enqueued or last requeued: how many have ended otherwise than by a release, and
    whether the last one stands. -/
structure ClaimTally where
  spent : Nat := 0
  standing : Bool := false
deriving Repr, DecidableEq

namespace ClaimTally

/-- All claims that were not given back. -/
def total (t : ClaimTally) : Nat := t.spent + t.standing.toNat

/-- The claim that stands has ended. -/
def spend (t : ClaimTally) : ClaimTally := ⟨t.total, false⟩

/-- What an event means for the claims of a row. A new claim ends one that stands: its lease has expired. -/
def observe (id : Nat) (t : ClaimTally) (e : RelayEvent) : ClaimTally :=
  if claimsRow id e then ⟨t.total, true⟩
  else if !succeeded e then t
  else
    match e.call with
    | .outbox (.release entry _ _) => if entry.id = id then { t with standing := false } else t
    | .outbox (.scheduleRetry entry _ _) | .outbox (.markDead entry _) => if entry.id = id then t.spend else t
    | .outbox (.requeueDead id') => if id' = id then {} else t
    | _ => t

end ClaimTally

/-- The claims of a row in a history, newest event first. -/
def claimTally (id : Nat) : List RelayEvent → ClaimTally
  | [] => {}
  | e :: earlier => (claimTally id earlier).observe id e

/-! ### Runs -/

/-- An outbox that starts empty, with workers, rows enqueued at any time, and operators who requeue dead rows. -/
def budgetRuns : Setting RelayReply RelayWorld RelayRequest where
  initial w := w.outbox = .empty
  admits
    | .tick _ => True
    | .client (.enqueue _) _ | .client (.requeueDead _) _ => True
    | .client _ _ => False

/-- Rows are dead-lettered only when their attempts are used up. -/
def budgetDiscipline (settings : OutboxSettings) : Discipline RelayReply RelayRequest (Except RelayError Unit) where
  allows _ _ call := WithinBudget settings call

/-- The tally of a row agrees with what is stored. -/
structure RowTallied (settings : OutboxSettings) (row : OutboxEntry) (t : ClaimTally) : Prop where
  attempts : row.attempts = t.total
  pending : row.status = .pending → t.standing = false
  claimed : row.status = .processing ∨ row.status = .submitted → t.standing = true
  dead : row.status = .dead → t.standing = false ∧ settings.maxAttempts ≤ t.spent

/-- Every row is tallied, and nothing has happened to rows that are not there. -/
structure Tallied (settings : OutboxSettings) (v : RelayView) : Prop where
  rows : ∀ id row, v.world.outbox.get id = some row → RowTallied settings row (claimTally id v.history)
  absent : ∀ id, v.world.outbox.get id = none → claimTally id v.history = {}

/-! ### One call -/

variable {«from» : List OutboxStatus} {patch : OutboxPatch}

section Observe

variable {e : RelayEvent} {id : Nat} {t : ClaimTally}

theorem claimsRow_of_unclaimed (none : claimedIn e = []) : claimsRow id e = false := by
  rw [claimsRow, none]
  rfl

variable {entry : OutboxEntry}

theorem unclaimed_of_fencedWrite (writes : fencedWrite e.call = some (entry, «from», patch)) : claimedIn e = [] := by
  obtain ⟨actor, call, reply⟩ := e
  cases call with
  | outbox c =>
    cases c with
    | claimDue => cases writes
    | _ => rfl
  | _ => rfl

theorem ClaimTally.observe_refused (unclaimed : claimsRow id e = false) (refused : succeeded e = false) :
    t.observe id e = t := by
  simp [observe, unclaimed, refused]

theorem ClaimTally.observe_other (carries : carried e.call = some entry) (other : entry.id ≠ id)
    (unclaimed : claimsRow id e = false) : t.observe id e = t := by
  obtain ⟨actor, call, reply⟩ := e
  rw [observe, unclaimed, if_neg Bool.false_ne_true]
  split
  · rfl
  · cases call with
    | outbox c => cases c <;> cases carries <;> first | rfl | exact if_neg other
    | _ => cases carries

end Observe

section Step

variable {settings : OutboxSettings} {v v' : RelayView} {e : RelayEvent}

theorem RowTallied.fenced {row entry t} (tallied : RowTallied settings row t)
    (writes : fencedWrite e.call = some (entry, «from», patch)) (budget : WithinBudget settings e.call)
    (done : succeeded e = true) (token : row.attempts = entry.attempts) (status : row.status ∈ «from») (now : Nat) :
    RowTallied settings (row.assign patch now) (t.observe entry.id e) := by
  have unclaimed : claimsRow entry.id e = false := claimsRow_of_unclaimed (unclaimed_of_fencedWrite writes)
  obtain ⟨attempts, _, claimed, _⟩ := tallied
  obtain ⟨actor, call, reply⟩ := e
  rw [ClaimTally.observe, unclaimed, done, if_neg Bool.false_ne_true, Bool.not_true, if_neg Bool.false_ne_true]
  cases call with
  | outbox c =>
    cases c with
    | recordEnvelope =>
      cases writes
      have isClaimed : row.status = .processing := List.mem_singleton.mp status
      refine ⟨attempts, ?_, fun _ => claimed (.inl isClaimed), ?_⟩
      · intro isPending
        cases isClaimed.symm.trans isPending
      · intro isDead
        cases isClaimed.symm.trans isDead
    | markSubmitted =>
      cases writes
      have isClaimed : row.status = .processing := List.mem_singleton.mp status
      exact ⟨attempts, nofun, fun _ => claimed (.inl isClaimed), nofun⟩
    | markConfirmed | markSimulated =>
      cases writes
      exact ⟨attempts, nofun, fun h => by cases h <;> contradiction, nofun⟩
    | scheduleRetry x error next =>
      cases writes
      dsimp only
      rw [if_pos rfl]
      exact ⟨attempts, fun _ => rfl, fun h => by cases h <;> contradiction, nofun⟩
    | markDead x error =>
      cases writes
      dsimp only
      rw [if_pos rfl]
      refine ⟨attempts, nofun, fun h => by cases h <;> contradiction, fun _ => ⟨rfl, ?_⟩⟩
      rw [ClaimTally.spend, ← attempts, token]
      exact budget
    | release x note next =>
      cases writes
      have isClaimed : row.status = .processing := List.mem_singleton.mp status
      have stands := claimed (.inl isClaimed)
      dsimp only
      rw [if_pos rfl]
      refine ⟨?_, fun _ => rfl, fun h => by cases h <;> contradiction, nofun⟩
      rw [← token, attempts, ClaimTally.total, ClaimTally.total, stands]
      rfl
    | _ => cases writes
  | _ => cases writes

variable {row : OutboxEntry}

theorem RowTallied.claim {t} (tallied : RowTallied settings row t) (now leaseUntil : Nat) :
    RowTallied settings (row.assign (claimPatch row leaseUntil) now) ⟨t.total, true⟩ where
  attempts := congrArg (· + 1) tallied.attempts
  pending := nofun
  claimed := fun _ => rfl
  dead := nofun

theorem RowTallied.fresh (attempts : row.attempts = 0) (waits : row.status = .pending) :
    RowTallied settings row {} where
  attempts := attempts
  pending := fun _ => rfl
  claimed := by
    rw [waits]
    intro claimed
    rcases claimed with processing | submitted
    · cases processing
    · cases submitted
  dead := by
    rw [waits]
    intro dead
    cases dead

section

variable (tallied : Tallied settings v)
include tallied

variable {w : RelayWorld}

theorem Tallied.same
    (kept :
      ∀ id, (w.outbox.get id = v.world.outbox.get id ∧ claimTally id (e :: v.history) = claimTally id v.history) ∨
      ∃ row, w.outbox.get id = some row ∧ RowTallied settings row (claimTally id (e :: v.history))) :
    Tallied settings (v.after e w) where
  rows := by
    intro id row present
    rcases kept id with ⟨same, sameTally⟩ | ⟨row', present', tallied'⟩
    · rw [View.after_history, sameTally]
      exact tallied.rows id row (same ▸ present)
    · cases present'.symm.trans present
      exact tallied'
  absent := by
    intro id missing
    rcases kept id with ⟨same, sameTally⟩ | ⟨row', present', _⟩
    · rw [View.after_history, sameTally]
      exact tallied.absent id (same ▸ missing)
    · cases present'.symm.trans missing

theorem Tallied.enqueue (entry : NewOutboxEntry) {history}
    (same : ∀ id, claimTally id history = claimTally id v.history)
    (append : w.outbox = (v.world.outbox.enqueue entry v.world.now).2) : Tallied settings ⟨w, history⟩ := by
  have stored (id : Nat) : w.outbox.get id = if id = v.world.outbox.sequence + 1 then
      some (v.world.outbox.enqueue entry v.world.now).1 else v.world.outbox.get id := by
    rw [append]
    exact JsMap.get_set _ _ _ _
  have unused : v.world.outbox.get (v.world.outbox.sequence + 1) = none := by
    rw [Option.eq_none_iff_forall_not_mem]
    intro row present
    exact absurd (v.world.outbox.numbered _ row present) (Nat.not_succ_le_self _)
  constructor
  · intro id row present
    rw [stored] at present
    split at present
    · rename_i isNew
      cases present
      rw [same, isNew, tallied.absent _ unused]
      exact .fresh rfl rfl
    · rw [same]
      exact tallied.rows id row present
  · intro id missing
    rw [stored] at missing
    split at missing
    · cases missing
    · rw [same]
      exact tallied.absent id missing

theorem Tallied.claim {now limit leaseUntil} (isCall : e.call = .outbox (.claimDue now limit leaseUntil))
    (claims : Claims now leaseUntil v.world.outbox (claimedIn e) w.outbox) : Tallied settings (v.after e w) := by
  apply tallied.same
  intro id
  cases claimed : claimsRow id e with
  | true =>
    obtain ⟨entry, member, isId⟩ := List.any_eq_true.mp claimed
    cases beq_iff_eq.mp isId
    obtain ⟨row, present, _, isEntry, stored⟩ := claims.claim entry member
    refine .inr ⟨entry, stored, ?_⟩
    have taken := (tallied.rows entry.id row present).claim now leaseUntil
    rw [← isEntry] at taken
    rw [claimTally, ClaimTally.observe, if_pos claimed]
    exact taken
  | false =>
    refine .inl ⟨claims.others id ?_, ?_⟩
    · intro entry member isId
      have found : claimsRow id e = true := List.any_eq_true.mpr ⟨entry, member, beq_iff_eq.mpr isId⟩
      rw [claimed] at found
      cases found
    · apply ClaimTally.observe_refused claimed
      obtain ⟨actor, call, reply⟩ := e
      cases isCall
      rfl

theorem Tallied.fenced {entry} (budget : WithinBudget settings e.call)
    (writes : fencedWrite e.call = some (entry, «from», patch))
    (update : v.world.outbox.fenced entry «from» patch v.world.now = (succeeded e, w.outbox)) :
    Tallied settings (v.after e w) := by
  have unclaimed (id : Nat) : claimsRow id e = false := claimsRow_of_unclaimed (unclaimed_of_fencedWrite writes)
  apply tallied.same
  intro id
  rcases fenced_cases update with ⟨refused, same⟩ | ⟨done, stored, row, present, token, status⟩
  · rw [same]
    exact .inl ⟨rfl, ClaimTally.observe_refused (unclaimed id) refused⟩
  · rw [stored, get_assign]
    by_cases isId : id = entry.id
    · rw [if_pos isId, present, isId]
      exact .inr ⟨_, rfl, (tallied.rows entry.id row present).fenced writes budget done token status _⟩
    · rw [if_neg isId]
      exact .inl ⟨rfl, ClaimTally.observe_other (carried_of_fencedWrite writes) (Ne.symm isId) (unclaimed id)⟩

theorem Tallied.requeue {id} (isCall : e.call = .outbox (.requeueDead id))
    (update : v.world.outbox.requeueDead id v.world.now = (succeeded e, w.outbox)) :
    Tallied settings (v.after e w) := by
  obtain ⟨actor, call, reply⟩ := e
  cases isCall
  apply tallied.same
  intro id'
  rcases requeueDead_cases update with ⟨refused, same⟩ | ⟨done, patch, row, stored, _, _⟩
  · rw [same]
    exact .inl ⟨rfl, ClaimTally.observe_refused rfl refused⟩
  · have observed : claimTally id' (⟨actor, .outbox (.requeueDead id), reply⟩ :: v.history) =
        if id = id' then {} else claimTally id' v.history := by
      rw [show reply = true from done]
      rfl
    rw [observed]
    by_cases isId : id = id'
    · rw [done] at update
      obtain ⟨row', present', attempts, waits⟩ := requeueDead_done update
      rw [if_pos isId, ← isId]
      exact .inr ⟨row', present', .fresh attempts waits⟩
    · rw [if_neg isId, stored, get_assign, if_neg (Ne.symm isId)]
      exact .inl ⟨rfl, rfl⟩

theorem Tallied.call {E} (answered : Answered (relayService settings) E v e v')
    (budget : WithinBudget settings e.call) :
    Tallied settings v' := by
  have change := storeChange answered
  obtain ⟨choice, w, _, rfl⟩ := answered.performed
  rw [View.after_world] at change
  cases change with
  | claim now limit leaseUntil isCall claims => exact tallied.claim isCall claims
  | fenced entry «from» patch writes update => exact tallied.fenced budget writes update
  | requeue id isCall update => exact tallied.requeue isCall update
  | enqueue entry isCall append =>
    apply tallied.enqueue entry _ append
    intro id
    obtain ⟨actor, call, reply⟩ := e
    cases isCall
    exact ClaimTally.observe_refused rfl rfl
  | read noClaim noEntry noRequeue same =>
    apply tallied.same
    intro id
    rw [same]
    refine .inl ⟨rfl, ?_⟩
    have unclaimed : claimsRow id e = false := claimsRow_of_unclaimed noClaim
    obtain ⟨actor, call, reply⟩ := e
    apply ClaimTally.observe_refused unclaimed
    cases call with
    | outbox c =>
      cases c with
      | requeueDead id' => exact absurd rfl (noRequeue id')
      | enqueue | claimDue | findSubmitted | countByStatus => rfl
      | _ => cases noEntry
    | _ => rfl

theorem Tallied.drift {d} (drifted : RelayWorld.drift d v.world = some w) : Tallied settings { v with world := w } := by
  cases d with
  | enqueue entry =>
    cases drifted
    exact tallied.enqueue entry (fun _ => rfl) rfl
  | close hash applied =>
    simp only [RelayWorld.drift] at drifted
    split at drifted
    · cases drifted
      exact ⟨tallied.rows, tallied.absent⟩
    · cases drifted
  | tick | setKillSwitch | bumpSequence =>
    cases drifted
    exact ⟨tallied.rows, tallied.absent⟩

end

end Step

/-! ### The requests follow the discipline -/

section Following

variable {settings : OutboxSettings}

theorem calls_confirmOne (now : Nat) (result : RelayTickResult) (entry : OutboxEntry) :
    (Relay.confirmOne settings now result entry).Calls (WithinBudget settings) := by
  have fails (message : String) : (Relay.fail settings entry message now result).Calls (WithinBudget settings) :=
    (calls_fail message now result).mono fun _ handles => handles.2
  unfold Relay.confirmOne
  split
  · exact calls_pure _
  · apply calls_bind ((calls_call _).mpr trivial)
    intro status
    split
    · exact calls_pure _
    · apply calls_bind ((calls_call _).mpr trivial)
      intro marked
      split <;> exact calls_pure _
    · exact fails _
    · split
      · exact fails _
      · exact calls_pure _

theorem calls_tick (worker : Nat) : (Relay.tick settings worker).Calls (WithinBudget settings) := by
  apply calls_bind ((calls_call _).mpr trivial)
  intro start
  apply calls_bind ((calls_call _).mpr trivial)
  intro begun
  split
  · apply calls_tryFinally
    · apply calls_bind
      · apply calls_bind ((calls_call _).mpr trivial)
        intro submitted
        exact calls_onEachWith fun result entry _ => calls_confirmOne start result entry
      · intro result
        apply calls_bind
        · apply calls_bind ((calls_call _).mpr trivial)
          intro claimed
          apply calls_onEachWith
          intro result entry _
          exact (calls_process worker start result).mono fun _ handles => handles.2
        · intro result
          exact calls_bind ((calls_call _).mpr trivial) fun _ => calls_pure _
    · exact (calls_call _).mpr trivial
  · exact calls_pure _

theorem budget_followed : (budgetDiscipline settings).Followed (relayService settings) budgetRuns := by
  intro request admitted
  have free {x : Relay Unit} (calls : x.Calls (WithinBudget settings)) :
      x.Follows (fun _ call => WithinBudget settings call) (fun _ _ => True) [] :=
    follows_of_calls calls (fun _ _ _ allowed => allowed) fun _ _ _ => trivial
  cases request with
  | tick worker => exact free (calls_bind (calls_tick worker) fun _ => calls_pure _)
  | client call claimedBy =>
    cases call with
    | enqueue | requeueDead =>
      exact free (calls_bind ((calls_call _).mpr trivial) fun _ => calls_pure _)
    | _ => cases admitted

end Following

/-- A pause never dead-letters a row: in every run of any number of workers, with pauses, failures and leases that
    expire, a row is dead only after as many claims as the budget, since it was enqueued or last requeued, have ended
    otherwise than by a kill-switch release. -/
theorem pauses_never_dead_letter {settings : OutboxSettings}
    {ts : List (Transition RelayReply RelayWorld RelayChoice RelayWorld.Drift RelayRequest (Except RelayError Unit))}
    {c : Config RelayReply RelayWorld RelayRequest (Except RelayError Unit)}
    (run : Run (relayService settings) budgetRuns ts c) {id : Nat} {row : OutboxEntry}
    (present : c.world.outbox.get id = some row) (dead : row.status = .dead) :
    settings.maxAttempts ≤ (claimTally id c.history).spent := by
  have tallied : Tallied settings c.view := by
    refine (Run.invariant (I := Tallied settings) budget_followed ?_ ?_ ?_ run).1
    · intro w initial
      constructor
      · intro id row present
        rw [initial] at present
        cases present
      · exact fun _ _ => rfl
    · exact fun _ _ _ tallied drifted => tallied.drift drifted
    · exact fun _ _ _ tallied allowed => tallied.call allowed.toAnswered allowed.allowed
  exact ((tallied.rows id row present).dead dead).2

/-- A row whose arguments cannot be encoded, with a budget of two: it is claimed and given back during a pause, and
    dead after two more claims. -/
theorem dead_after_two_claims :
    ∃ ts c row, Run (relayService { maxAttempts := 2 }) budgetRuns ts c ∧ c.world.outbox.get 1 = some row ∧
      row.status = .dead ∧ 2 ≤ (claimTally 1 c.history).spent := by
  obtain ⟨ts, c, run, ended⟩ := Run.exists_of_trace (relayService { maxAttempts := 2 }) budgetRuns {}
    (List.flatten [[.drift (.enqueue ⟨"intent-1", .createIntent, []⟩), .drift (.setKillSwitch { ready := false }),
        .arrive (.tick 0)],
      List.replicate 9 (.act 0 {}),
      [.drift (.setKillSwitch {}), .drift (.tick 30000), .arrive (.tick 0)],
      List.replicate 8 (.act 1 { throws := some "no such method" }), [.drift (.tick 1000), .arrive (.tick 0)],
      List.replicate 8 (.act 2 { throws := some "no such method" })])
    (fun _ c => (c.world.outbox.get 1).any (·.status == .dead)) rfl (by simp [budgetRuns]) (by decide +kernel)
  obtain ⟨row, present, dead⟩ := Option.any_eq_true _ _ |>.mp ended
  have dead := beq_iff_eq.mp dead
  exact ⟨ts, c, row, run, present, dead, pauses_never_dead_letter run present dead⟩

end VortexBackend
