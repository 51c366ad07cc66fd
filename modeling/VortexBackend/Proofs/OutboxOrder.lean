/-
Module: VortexBackend.Proofs.OutboxOrder
Purpose: A row of an intent that was ever claimed has only finished rows before it.
Main exports: outbox_rows_in_order
-/
import VortexBackend.Async.Discipline
import VortexBackend.Proofs.OutboxFencing

namespace VortexBackend

open OutboxStore

variable (store : OutboxStore)

/-- Every row of the intent that was enqueued before the entry is finished. -/
def Head (entry : OutboxEntry) : Prop :=
  ∀ row, store.get row.id = some row → row.intentId = entry.intentId → row.id < entry.id →
    row.status ∈ OUTBOX_DONE_STATUSES

variable {now limit leaseUntil : Nat}

namespace OutboxStore

theorem ordered_sorted : store.ordered.Pairwise fun a b => a.id ≤ b.id :=
  List.pairwise_insertionSort _ _

/-- The claiming loop, after it has passed the rows of `seen`. -/
theorem claimLoop_head {store} :
    ∀ (rows seen : List OutboxEntry) (headSeen : List String) (claimed : List OutboxEntry)
      (store' : OutboxStore), seen ++ rows = store.ordered →
      (∀ row ∈ seen, row.status ∈ OUTBOX_DONE_STATUSES ∨ row.intentId ∈ headSeen) →
      (∀ entry ∈ claimed, Head store entry) →
      ∀ entry ∈ (claimLoop now limit leaseUntil rows headSeen claimed store').1, Head store entry := by
  intro rows
  induction rows with
  | nil => exact fun _ _ _ _ _ _ heads => heads
  | cons row rest ih =>
    intro seen headSeen claimed store' whole passed heads
    have whole' : (seen ++ [row]) ++ rest = store.ordered := by rw [← whole, List.append_assoc]; rfl
    have skip (isPassed : row.status ∈ OUTBOX_DONE_STATUSES ∨ row.intentId ∈ headSeen) :=
      ih (seen ++ [row]) headSeen claimed store' whole'
        (List.forall_mem_append.mpr ⟨passed, by simpa using isPassed⟩) heads
    unfold claimLoop
    split
    · exact heads
    · split
      · rename_i finished
        exact skip (.inl finished)
      · split
        · rename_i waits
          exact skip (.inr waits)
        · rename_i isHead
          -- The row opens its intent: everything before it is finished or of another intent.
          have head : Head store row := by
            intro r stored sameIntent before
            have member : r ∈ seen ++ row :: rest := whole ▸ mem_ordered.mpr stored
            rcases List.mem_append.mp member with old | later
            · rcases passed r old with finished | inSeen
              · exact finished
              · exact absurd (sameIntent ▸ inSeen) isHead
            · have sorted := whole ▸ store.ordered_sorted
              have tail := (List.pairwise_append.mp sorted).2.1
              rcases List.mem_cons.mp later with rfl | after
              · omega
              · have := (List.pairwise_cons.mp tail).1 r after
                omega
          have passed' : ∀ r ∈ seen ++ [row], r.status ∈ OUTBOX_DONE_STATUSES ∨
              r.intentId ∈ row.intentId :: headSeen := by
            intro r member
            rcases List.mem_append.mp member with old | new
            · exact (passed r old).imp_right fun inSeen => .tail _ inSeen
            · rw [List.mem_singleton.mp new]
              exact .inr (.head _)
          split
          · exact ih (seen ++ [row]) _ claimed store' whole' passed' heads
          · apply ih (seen ++ [row]) _ _ _ whole' passed'
            intro entry member
            rcases List.mem_append.mp member with old | new
            · exact heads entry old
            · rw [List.mem_singleton.mp new]
              exact head

theorem claimDue_head (now limit leaseUntil : Nat) :
    ∀ entry ∈ (store.claimDue now limit leaseUntil).1, Head store entry :=
  claimLoop_head store.ordered [] [] [] store rfl (by simp) (by simp)

end OutboxStore

/-! ### The invariant -/

/-- The row was claimed at some time, counts a claim, or has left the initial status. -/
def Started (claimed : Nat → Prop) (row : OutboxEntry) : Prop :=
  claimed row.id ∨ 0 < row.attempts ∨ row.status ≠ .pending

/-- Claimed rows are stored, and a row that was started has only finished rows of its intent before it. -/
structure InOrder (claimed : Nat → Prop) (store : OutboxStore) : Prop where
  stored : ∀ id, claimed id → ∃ row, store.get id = some row
  head : ∀ row, store.get row.id = some row → Started claimed row → Head store row

namespace InOrder

variable {claimed : Nat → Prop} {store store' : OutboxStore}

theorem assign (inOrder : InOrder claimed store) {id current} (present : store.get id = some current)
    (started : current.status ≠ .pending) (unfinished : current.status ∉ OUTBOX_DONE_STATUSES) (patch : OutboxPatch)
    (now : Nat) : InOrder claimed (store.assign id patch now) where
  stored := by
    intro id' wasClaimed
    obtain ⟨row, found⟩ := inOrder.stored id' wasClaimed
    rw [get_assign]
    split
    · exact ⟨_, by rw [present, Option.map_some]⟩
    · exact ⟨row, found⟩
  head := by
    have isId : current.id = id := get_id present
    -- Before the patch, the patched row was started, and it blocks whatever comes after it.
    have before : Head store current := inOrder.head current (isId ▸ present) (.inr (.inr started))
    intro row found isStarted earlier found' sameIntent isBefore
    rw [get_assign] at found found'
    split at found' <;> rename_i isEarlier
    · exfalso
      have isLater : row.id ≠ id := by omega
      rw [if_neg isLater] at found
      rw [present, Option.map_some, Option.some.injEq] at found'
      have intent : current.intentId = row.intentId := by rw [← sameIntent, ← found']; rfl
      have order : current.id < row.id := by omega
      exact unfinished (inOrder.head row found isStarted current (isId ▸ present) intent order)
    · split at found <;> rename_i isLater
      · rw [present, Option.map_some, Option.some.injEq] at found
        have intent : earlier.intentId = current.intentId := by rw [sameIntent, ← found]; rfl
        exact before earlier found' intent (by omega)
      · exact inOrder.head row found isStarted earlier found' sameIntent isBefore

theorem enqueue (inOrder : InOrder claimed store) (entry : NewOutboxEntry) (now : Nat) :
    InOrder claimed (store.enqueue entry now).2 where
  stored := by
    intro id wasClaimed
    obtain ⟨row, found⟩ := inOrder.stored id wasClaimed
    exact ⟨row, store.get_enqueue entry now found⟩
  head := by
    intro row found isStarted earlier found' sameIntent isBefore
    have lookup (id : Nat) : (store.enqueue entry now).2.get id =
        if id = store.sequence + 1 then some (store.enqueue entry now).1 else store.get id :=
      JsMap.get_set _ _ _ _
    rw [lookup] at found found'
    split at found <;> rename_i isNew
    · -- The new row is pending, has no claim on its count, and its id was never claimed.
      exfalso
      rw [Option.some.injEq] at found
      rcases isStarted with wasClaimed | counted | moved
      · obtain ⟨old, present⟩ := inOrder.stored row.id wasClaimed
        have bound := store.numbered row.id old present
        omega
      · rw [← found] at counted
        exact absurd counted (Nat.lt_irrefl 0)
      · rw [← found] at moved
        exact moved rfl
    · have bound := store.numbered row.id row found
      rw [if_neg (by omega)] at found'
      exact inOrder.head row found isStarted earlier found' sameIntent isBefore

theorem claim (inOrder : InOrder claimed store) (taken : List OutboxEntry)
    (isTaken : taken = (store.claimDue now limit leaseUntil).1)
    (claims : OutboxStore.Claims now leaseUntil store taken store') :
    InOrder (fun id => (∃ entry ∈ taken, entry.id = id) ∨ claimed id) store' where
  stored := by
    rintro id (⟨entry, member, rfl⟩ | wasClaimed)
    · obtain ⟨_, _, _, _, present⟩ := claims.claim entry member
      exact ⟨entry, present⟩
    · by_cases isTaken' : ∃ entry ∈ taken, entry.id = id
      · obtain ⟨entry, member, rfl⟩ := isTaken'
        obtain ⟨_, _, _, _, present⟩ := claims.claim entry member
        exact ⟨entry, present⟩
      · obtain ⟨row, found⟩ := inOrder.stored id wasClaimed
        push Not at isTaken'
        exact ⟨row, (claims.others id isTaken').trans found⟩
  head := by
    -- A finished row is never claimed, so it stays as it is.
    have kept (earlier : OutboxEntry) (present : store.get earlier.id = some earlier)
        (finished : earlier.status ∈ OUTBOX_DONE_STATUSES) : store'.get earlier.id = some earlier := by
      rw [claims.others]
      · exact present
      · intro entry member same
        obtain ⟨old, found, isDue, _⟩ := claims.claim entry member
        rw [same, present] at found
        cases found
        simp only [OUTBOX_DONE_STATUSES, List.mem_cons, List.not_mem_nil, or_false] at finished
        rcases finished with isState | isState <;> simp [due, isState] at isDue
    -- Whatever is stored after the claim was stored before it, for the same intent.
    have origin (row : OutboxEntry) (found : store'.get row.id = some row) :
        ∃ old, store.get row.id = some old ∧ old.intentId = row.intentId ∧ old.id = row.id ∧
          ((∀ entry ∈ taken, entry.id ≠ row.id) → old = row) := by
      by_cases isTaken' : ∃ entry ∈ taken, entry.id = row.id
      · obtain ⟨entry, member, same⟩ := isTaken'
        obtain ⟨old, present, _, isEntry, stored⟩ := claims.claim entry member
        rw [same, found] at stored
        cases stored
        exact ⟨old, present, by rw [isEntry]; rfl, get_id present,
          fun none => absurd rfl (none row member)⟩
      · push Not at isTaken'
        rw [claims.others row.id isTaken'] at found
        exact ⟨row, found, rfl, rfl, fun _ => rfl⟩
    intro row found isStarted earlier found' sameIntent isBefore
    obtain ⟨old, present, intent, isId, same⟩ := origin row found
    obtain ⟨oldEarlier, present', intent', isId', _⟩ := origin earlier found'
    have head : Head store old := by
      by_cases isTaken' : ∃ entry ∈ taken, entry.id = row.id
      · obtain ⟨entry, member, sameId⟩ := isTaken'
        have isHead := store.claimDue_head now limit leaseUntil entry (isTaken ▸ member)
        obtain ⟨_, _, _, _, stored⟩ := claims.claim entry member
        rw [sameId, found] at stored
        cases stored
        intro r stored' ofIntent order
        exact isHead r stored' (ofIntent.trans intent) (by omega)
      · push Not at isTaken'
        obtain rfl := same isTaken'
        apply inOrder.head old present
        rcases isStarted with (⟨entry, member, sameId⟩ | wasClaimed) | moved
        · exact absurd sameId (isTaken' entry member)
        · exact .inl wasClaimed
        · exact .inr moved
    have finished := head oldEarlier (isId'.symm ▸ present') (by rw [intent', sameIntent, intent])
      (by omega)
    have stays := kept oldEarlier (isId'.symm ▸ present') finished
    rw [isId', found'] at stays
    cases stays
    exact finished

end InOrder

/-! ### Runs -/

/-- A store that starts empty, under any clients and workers. -/
def outboxRuns : Setting RelayReply RelayWorld RelayRequest where
  initial := fun w => w.outbox = .empty
  admits := fun _ => True

/-- Was the row ever claimed? -/
def everClaimed (history : List RelayEvent) (id : Nat) : Prop := history.any (claimsRow id) = true

theorem everClaimed_cons (e : RelayEvent) (history : List RelayEvent) (id : Nat) :
    everClaimed (e :: history) id ↔ (∃ entry ∈ claimedIn e, entry.id = id) ∨ everClaimed history id := by
  simp [everClaimed, claimsRow]

theorem working_of_fencedWrite {call entry «from» patch} (writes : fencedWrite call = some (entry, «from», patch))
    {status} (member : status ∈ «from») : status ≠ .pending ∧ status ∉ OUTBOX_DONE_STATUSES := by
  have allowed : ∀ status ∈ «from», status ≠ .pending ∧ status ∉ OUTBOX_DONE_STATUSES := by
    unfold fencedWrite at writes
    split at writes <;> cases writes <;> decide
  exact allowed status member

section Step

variable {settings : OutboxSettings} {E : Setting RelayReply RelayWorld RelayRequest} {v v' : RelayView}
  {e : RelayEvent}

/-- What a claim returns is what the store's `claimDue` computes. -/
theorem claimedIn_eq (answered : Answered (relayService settings) E v e v')
    (call : e.call = .outbox (.claimDue now limit leaseUntil)) :
    claimedIn e = (v.world.outbox.claimDue now limit leaseUntil).1 := by
  obtain ⟨_, _, performed, _⟩ := answered.performed
  obtain ⟨actor, _, reply⟩ := e
  cases call
  cases performed
  rfl

theorem everClaimed_eq (noClaim : claimedIn e = []) : everClaimed (e :: v.history) = everClaimed v.history := by
  funext id
  simp [everClaimed_cons, noClaim]

theorem claimedIn_of_fencedWrite {write} (writes : fencedWrite e.call = some write) : claimedIn e = [] := by
  unfold claimedIn
  split
  · cases writes
  · rfl

section

variable (inOrder : InOrder (everClaimed v.history) v.world.outbox)
include inOrder

theorem InOrder.step (answered : Answered (relayService settings) E v e v') :
    InOrder (everClaimed v'.history) v'.world.outbox := by
  have change := storeChange answered
  have isHistory : v'.history = e :: v.history := by
    obtain ⟨_, w, _, rfl⟩ := answered.performed
    rfl
  rw [isHistory]
  cases change with
  | claim now limit leaseUntil call claims =>
    rw [funext fun id => propext (everClaimed_cons e v.history id)]
    exact inOrder.claim _ (claimedIn_eq answered call) claims
  | fenced entry «from» patch writes update =>
    rw [everClaimed_eq (claimedIn_of_fencedWrite writes)]
    rcases fenced_cases update with ⟨_, same⟩ | ⟨_, assigned, row, present, _, status⟩
    · rw [same]
      exact inOrder
    · obtain ⟨started, unfinished⟩ := working_of_fencedWrite writes status
      rw [assigned]
      exact inOrder.assign present started unfinished patch _
  | requeue id call update =>
    have noClaim : claimedIn e = [] := by
      obtain ⟨actor, _, reply⟩ := e
      cases call
      rfl
    rw [everClaimed_eq noClaim]
    rcases requeueDead_cases update with ⟨_, same⟩ | ⟨_, patch, row, assigned, present, dead⟩
    · rw [same]
      exact inOrder
    · rw [assigned]
      exact inOrder.assign present (by rw [dead]; decide) (by rw [dead]; decide) patch _
  | enqueue entry call append =>
    have noClaim : claimedIn e = [] := by
      obtain ⟨actor, _, reply⟩ := e
      cases call
      rfl
    rw [everClaimed_eq noClaim, append]
    exact inOrder.enqueue entry _
  | read noClaim _ _ same =>
    rw [everClaimed_eq noClaim, same]
    exact inOrder

theorem InOrder.drift {d w} (drifted : RelayWorld.drift d v.world = some w) :
    InOrder (everClaimed v.history) w.outbox := by
  cases d with
  | enqueue entry =>
    cases drifted
    exact inOrder.enqueue entry _
  | close hash applied =>
    simp only [RelayWorld.drift] at drifted
    split at drifted
    · cases drifted
      exact inOrder
    · cases drifted
  | _ =>
    cases drifted
    exact inOrder

/-- A row is claimed, or moved on under a claim, only once all rows before it are finished. -/
theorem InOrder.head_of_answered (answered : Answered (relayService settings) E v e v') {row}
    (present : v.world.outbox.get row.id = some row)
    (works : claimsRow row.id e = true ∨ succeeded e = true ∧ ∃ entry, carried e.call = some entry ∧
      entry.id = row.id) :
    Head v.world.outbox row := by
  cases storeChange answered with
  | claim now limit leaseUntil call claims =>
    have claimed : claimsRow row.id e = true := by
      rcases works with claimed | ⟨_, entry, carries, _⟩
      · exact claimed
      · rw [call] at carries
        cases carries
    obtain ⟨entry, member, sameId⟩ := List.any_eq_true.mp claimed
    obtain ⟨old, found, _, isEntry, _⟩ := claims.claim entry member
    rw [beq_iff_eq] at sameId
    rw [sameId, present] at found
    cases found
    have head := v.world.outbox.claimDue_head now limit leaseUntil entry (claimedIn_eq answered call ▸ member)
    intro r stored sameIntent before
    exact head r stored (by rw [sameIntent, isEntry]; rfl) (by omega)
  | fenced entry «from» patch writes update =>
    rcases works with claimed | ⟨done, entry', carries, sameId⟩
    · rw [claimsRow, claimedIn_of_fencedWrite writes] at claimed
      cases claimed
    · rw [carried_of_fencedWrite writes, Option.some.injEq] at carries
      rcases fenced_cases update with ⟨refused, _⟩ | ⟨_, _, current, found, _, status⟩
      · rw [done] at refused
        cases refused
      · rw [carries, sameId, present] at found
        cases found
        exact inOrder.head row present (.inr (.inr (working_of_fencedWrite writes status).1))
  | requeue id call _ | enqueue entry call _ =>
    obtain ⟨actor, _, reply⟩ := e
    cases call
    rcases works with claimed | ⟨_, _, carries, _⟩
    · cases claimed
    · cases carries
  | read noClaim noEntry _ _ =>
    rcases works with claimed | ⟨_, _, carries, _⟩
    · rw [claimsRow, noClaim] at claimed
      cases claimed
    · rw [noEntry] at carries
      cases carries

end

end Step

/-- In every state that the store reaches, a row that was ever claimed or is not pending has only confirmed
    or simulated rows of its intent before it; and at every step of the run, a row is claimed, or moved on
    under a claim (before an envelope is sent, its hash is recorded so), only in such a state. -/
theorem outbox_rows_in_order {settings : OutboxSettings} {ts} {c} (run : Run (relayService settings) outboxRuns ts c) :
    (∀ earlier later, c.world.outbox.get earlier.id = some earlier →
      c.world.outbox.get later.id = some later → earlier.intentId = later.intentId →
      earlier.id < later.id →
      (everClaimed c.history later.id ∨ 0 < later.attempts ∨ later.status ≠ .pending) →
      earlier.status = .confirmed ∨ earlier.status = .simulated) ∧
    ∀ t ∈ ts, ∀ e, t.event = some e → ∀ row, t.before.world.outbox.get row.id = some row →
      (claimsRow row.id e = true ∨
        succeeded e = true ∧ ∃ entry, carried e.call = some entry ∧ entry.id = row.id) →
      Head t.before.world.outbox row := by
  obtain ⟨inOrder, along⟩ := run.invariant (I := fun v => InOrder (everClaimed v.history) v.world.outbox)
    (Discipline.free_followed _ _)
    (by
      intro w empty
      rw [show w.outbox = .empty from empty]
      constructor
      · intro id wasClaimed
        cases wasClaimed
      · intro row stored
        cases stored)
    (fun v d w inOrder drifted => inOrder.drift drifted)
    (fun v e v' inOrder allowed => inOrder.step allowed.toAnswered)
  constructor
  · intro earlier later stored stored' sameIntent before started
    simpa [OUTBOX_DONE_STATUSES] using inOrder.head later stored' started earlier stored sameIntent before
  · intro t ht e he row present works
    obtain ⟨before, _, allowed⟩ := along t ht
    exact before.head_of_answered (allowed e he).toAnswered present works

/-- Two operations of one intent. -/
private def rowOf (operation : OutboxOperation) : NewOutboxEntry := ⟨"intent-1", operation, []⟩

/-- A client makes one call, right after it arrives. -/
private def callMoves (pid : Nat) (call : OutboxCall) : List RelayMove :=
  [.arrive (.client call pid), .act pid {}]

/-- The second operation of an intent is claimed once the first is confirmed. -/
theorem second_row_claimed_after_first :
    ∃ ts c earlier later, Run (relayService {}) outboxRuns ts c ∧
      c.world.outbox.get 1 = some earlier ∧ c.world.outbox.get 2 = some later ∧
      later.status = .processing ∧ (earlier.status = .confirmed ∨ earlier.status = .simulated) := by
  obtain ⟨ts, c, run, rows⟩ := Run.exists_of_trace (relayService {}) outboxRuns {}
    (List.flatten [.drift (.enqueue (rowOf .createIntent)) :: .drift (.enqueue (rowOf .acceptIntent)) ::
      callMoves 0 (.claimDue 0 10 120000),
      callMoves 1 (.markConfirmed { rowOf .createIntent with
        id := 1, status := .processing, attempts := 1, nextAttemptAt := 0, lockedUntil := some 120000
        createdAt := 0, updatedAt := 0 } "h"),
      callMoves 2 (.claimDue 0 10 120000)])
    (fun _ c => (c.world.outbox.get 1).any (fun earlier => earlier.intentId == "intent-1" && earlier.id == 1) &&
      (c.world.outbox.get 2).any fun later =>
        later.status == .processing && later.intentId == "intent-1" && later.id == 2)
    rfl (by simp [outboxRuns]) (by decide)
  rw [Bool.and_eq_true, Option.any_eq_true, Option.any_eq_true] at rows
  obtain ⟨⟨earlier, first, isFirst⟩, later, second, isSecond⟩ := rows
  simp only [Bool.and_eq_true, beq_iff_eq] at isFirst isSecond
  obtain ⟨intent, id⟩ := isFirst
  obtain ⟨⟨processing, intent'⟩, id'⟩ := isSecond
  refine ⟨ts, c, earlier, later, run, first, second, processing, ?_⟩
  exact (outbox_rows_in_order run).1 earlier later (id ▸ first) (id' ▸ second) (intent.trans intent'.symm)
    (by omega) (.inr (.inr (by rw [processing]; decide)))

end VortexBackend
