/-
Module: VortexBackend.Proofs.OutboxFencing
Purpose: Once a row is claimed again, nothing that carries the old entry succeeds. A requeue defeats this.
Main exports: stale_entry_refused
-/
import VortexBackend.Proofs.OutboxSteps

namespace VortexBackend

open OutboxStore

/-- The request whose claim returned the entry that an event carries. A worker claims for itself. -/
def ticket (e : RelayEvent) : Nat :=
  match e.actor.request with
  | .client _ claimedBy => claimedBy
  | .tick _ => e.actor.pid

/-- Did request `p` get the entry `x` from this event? -/
def returned (p : Nat) (x : OutboxEntry) (e : RelayEvent) : Bool :=
  e.actor.pid == p && decide (x ∈ claimedIn e)

/-- Did this event claim the row? -/
def claimsRow (id : Nat) (e : RelayEvent) : Bool := (claimedIn e).any (·.id == id)

/-- What happened since request `p` last got the entry `x` from a claim, newest first. -/
def sinceClaim (p : Nat) (x : OutboxEntry) : List RelayEvent → Option (List RelayEvent)
  | [] => none
  | e :: older => if returned p x e then some [] else (sinceClaim p x older).map (e :: ·)

/-- The events that take the claim of request `p` on a row away: its own release, and a requeue. -/
def forfeits (p id : Nat) (e : RelayEvent) : Bool :=
  match e.call with
  | .outbox (.requeueDead id') => succeeded e && id' == id
  | .outbox (.release entry _ _) => succeeded e && entry.id == id && ticket e == p
  | _ => false

/-- A fenced operation is made only while the claim that returned its entry has not been forfeited, and a
    release only with an entry that a claim returned. -/
def keepsFence (v : RelayView) (e : RelayEvent) (_ : RelayWorld) : Bool :=
  match carried e.call with
  | none => true
  | some x =>
    match sinceClaim (ticket e) x v.history with
    | some newer => !newer.any (forfeits (ticket e) x.id)
    | none => !isRelease e.call

/-- The row of an entry has moved past the entry's token, or still has it; if it was claimed again in
    between, then only while it is pending. -/
def Guarded (x : OutboxEntry) (reclaimed : Bool) (store : OutboxStore) : Prop :=
  ∃ row, store.get x.id = some row ∧
    (x.attempts < row.attempts ∨
      x.attempts = row.attempts ∧ (reclaimed = true → row.status = .pending))

/-- Every entry whose claim has not been forfeited is guarded. -/
def Fenced (v : RelayView) : Prop :=
  ∀ p x newer, sinceClaim p x v.history = some newer → newer.any (forfeits p x.id) = false →
    Guarded x (newer.any (claimsRow x.id)) v.world.outbox

/-! ### One entry over one change of the store -/

variable {«from» : List OutboxStatus} {y : OutboxEntry}

namespace Guarded

variable {x : OutboxEntry} {reclaimed : Bool} {store store' : OutboxStore}

theorem of_get_eq (guarded : Guarded x reclaimed store) (same : store'.get x.id = store.get x.id) :
    Guarded x reclaimed store' := by
  obtain ⟨row, present, token⟩ := guarded
  exact ⟨row, same.trans present, token⟩

theorem claim (guarded : Guarded x reclaimed store) {now leaseUntil claimed}
    (claims : OutboxStore.Claims now leaseUntil store claimed store') (claimedRow : y ∈ claimed)
    (sameRow : y.id = x.id) :
    Guarded x true store' := by
  obtain ⟨row, present, token⟩ := guarded
  obtain ⟨old, stored, _, rfl, left⟩ := claims.claim y claimedRow
  rw [sameRow, present] at stored
  cases stored
  refine ⟨_, sameRow ▸ left, .inl ?_⟩
  have : x.attempts ≤ row.attempts := by
    rcases token with past | ⟨equal, _⟩ <;> omega
  simpa [OutboxEntry.assign, claimPatch] using Nat.lt_succ_of_le this

variable {patch : OutboxPatch}

/-- An update that keeps the token keeps the guard: it cannot touch a row that is pending. -/
theorem update (guarded : Guarded x reclaimed store) {row} (present : store.get x.id = some row)
    (notPending : row.status ≠ .pending) (keepsToken : patch.attempts = none) (now : Nat) :
    Guarded x reclaimed (store.assign x.id patch now) := by
  obtain ⟨row', present', token⟩ := guarded
  rw [present] at present'
  cases present'
  refine ⟨row.assign patch now, by simp [get_assign, present], ?_⟩
  rcases token with past | ⟨equal, waits⟩
  · left
    simpa [OutboxEntry.assign, keepsToken] using past
  · right
    refine ⟨by simpa [OutboxEntry.assign, keepsToken] using equal, ?_⟩
    exact fun again => absurd (waits again) notPending

/-- A release by the holder of a later claim leaves the row pending, with a token no smaller. -/
theorem release (present : ∃ row, store.get x.id = some row ∧ x.attempts < row.attempts) {attempts}
    (token : patch.attempts = some (attempts - 1)) (waits : patch.status = some .pending)
    (current : ∀ row, store.get x.id = some row → row.attempts = attempts) (now : Nat) :
    Guarded x reclaimed (store.assign x.id patch now) := by
  obtain ⟨row, stored, past⟩ := present
  have attemptsEq := current row stored
  refine ⟨row.assign patch now, by simp [get_assign, stored], ?_⟩
  have written : (row.assign patch now).attempts = attempts - 1 := by
    simp [OutboxEntry.assign, token]
  have pending : (row.assign patch now).status = .pending := by
    simp [OutboxEntry.assign, waits]
  rcases Nat.lt_or_ge x.attempts (attempts - 1) with less | more
  · exact .inl (written ▸ less)
  · exact .inr ⟨by omega, fun _ => pending⟩

theorem refused (guarded : Guarded x true store) {now} (notPending : .pending ∉ «from») {done}
    (h : store.fenced x «from» patch now = (done, store')) : done = false := by
  rcases fenced_cases h with ⟨refused, _⟩ | ⟨_, _, row, present, token, status⟩
  · exact refused
  · obtain ⟨row', present', past | ⟨_, waits⟩⟩ := guarded
    · rw [present] at present'
      cases present'
      omega
    · rw [present] at present'
      cases present'
      rw [waits rfl] at status
      exact absurd status notPending

end Guarded

/-! ### The history of a claim -/

theorem sinceClaim_cons (p : Nat) (x : OutboxEntry) (e : RelayEvent) (history : List RelayEvent) :
    sinceClaim p x (e :: history) = if returned p x e then some [] else (sinceClaim p x history).map (e :: ·) := rfl

variable {p : Nat} {x : OutboxEntry} {e : RelayEvent} {v : RelayView}

theorem claimsRow_of_returned (h : returned p x e = true) : claimsRow x.id e = true := by
  simp only [returned, Bool.and_eq_true, decide_eq_true_eq] at h
  simp only [claimsRow, List.any_eq_true, beq_iff_eq]
  exact ⟨x, h.2, rfl⟩

/-- Of two requests that claimed the same row, the later claim comes after the earlier one. -/
theorem claimed_again_of_two {q} (different : p ≠ q) (sameRow : x.id = y.id) :
    ∀ {history newerX newerY : List RelayEvent}, sinceClaim p x history = some newerX →
      sinceClaim q y history = some newerY →
      newerX.any (claimsRow x.id) = true ∨ newerY.any (claimsRow x.id) = true := by
  intro history
  induction history with
  | nil => exact nofun
  | cons e older ih =>
    intro newerX newerY hx hy
    rw [sinceClaim_cons] at hx hy
    by_cases gotX : returned p x e
    · have notY : returned q y e = false := by
        simp only [returned, Bool.and_eq_true, beq_iff_eq] at gotX
        simp only [returned, gotX.1, Bool.and_eq_false_iff, beq_eq_false_iff_ne]
        exact .inl different
      rw [notY, if_neg Bool.false_ne_true, Option.map_eq_some_iff] at hy
      obtain ⟨rest, _, rfl⟩ := hy
      right
      simp [claimsRow_of_returned gotX]
    · rw [if_neg gotX, Option.map_eq_some_iff] at hx
      obtain ⟨restX, sinceX, rfl⟩ := hx
      by_cases gotY : returned q y e
      · left
        simp [sameRow, claimsRow_of_returned gotY]
      · rw [if_neg gotY, Option.map_eq_some_iff] at hy
        obtain ⟨restY, sinceY, rfl⟩ := hy
        rcases ih sinceX sinceY with inX | inY
        · left
          simp [inX]
        · right
          simp [inY]

/-! ### The fence over one call, and over a run -/

theorem claimedIn_eq_nil (h : ∀ now limit leaseUntil, e.call ≠ .outbox (.claimDue now limit leaseUntil)) :
    claimedIn e = [] := by
  obtain ⟨actor, call, reply⟩ := e
  cases call with
  | outbox call =>
    cases call with
    | claimDue now limit leaseUntil => exact absurd rfl (h now limit leaseUntil)
    | _ => rfl
  | _ => rfl

theorem claimsRow_of_claimedIn_eq_nil (h : claimedIn e = []) (id : Nat) : claimsRow id e = false := by
  simp [claimsRow, h]

theorem claimedIn_of_carried (h : carried e.call = some x) : claimedIn e = [] := by
  refine claimedIn_eq_nil fun now limit leaseUntil hcall => ?_
  rw [hcall] at h
  cases h

theorem release_of_isRelease {call} (released : isRelease call = true) (carries : carried call = some x) :
    ∃ note next, call = .outbox (.release x note next) := by
  unfold isRelease at released
  split at released
  · simp only [carried, fencedWrite, Option.map_some, Option.some.injEq] at carries
    subst carries
    exact ⟨_, _, rfl⟩
  · cases released

theorem Guarded.over_fenced (fenced : Fenced v) {w'} (kept : keepsFence v e w' = true) {store' entry patch}
    (carries : carried e.call = some entry) (notPending : .pending ∉ «from») (token : TokenPatch e.call entry patch)
    (update : v.world.outbox.fenced entry «from» patch v.world.now = (succeeded e, store')) {newer}
    (since : sinceClaim p x v.history = some newer) (clean : newer.any (forfeits p x.id) = false)
    (notForfeit : forfeits p x.id e = false) : Guarded x (newer.any (claimsRow x.id)) store' := by
  have guarded := fenced p x newer since clean
  rcases fenced_cases update with ⟨_, rfl⟩ | ⟨done, rfl, row, present, tokenEq, status⟩
  · exact guarded
  · by_cases sameRow : x.id = entry.id
    · rw [← sameRow] at present ⊢
      have active : row.status ≠ .pending := fun h => notPending (h ▸ status)
      unfold TokenPatch at token
      split at token
      · rename_i released
        -- Whoever releases holds the row's current token, so no other unforfeited claim can hold it too.
        obtain ⟨writesToken, writesStatus⟩ := token
        unfold keepsFence at kept
        rw [carries] at kept
        simp only [released, Bool.not_true] at kept
        split at kept
        · rename_i newerEntry sinceEntry
          rw [Bool.not_eq_true'] at kept
          obtain ⟨row₂, present₂, held⟩ := fenced (ticket e) entry newerEntry sinceEntry kept
          rw [← sameRow, present] at present₂
          cases present₂
          have notAgain : newerEntry.any (claimsRow entry.id) = false := by
            rcases held with past | ⟨_, waits⟩
            · omega
            · exact Bool.eq_false_iff.mpr fun again => active (waits again)
          have different : p ≠ ticket e := by
            rintro rfl
            obtain ⟨note, next, call⟩ := release_of_isRelease released carries
            simp [forfeits, call, done, sameRow] at notForfeit
          obtain ⟨row₃, present₃, past | ⟨equal, waits⟩⟩ := guarded
          · refine Guarded.release ⟨row₃, present₃, past⟩ writesToken writesStatus ?_ _
            intro row' present'
            rw [present] at present'
            cases present'
            exact tokenEq
          · rw [present] at present₃
            cases present₃
            rcases claimed_again_of_two different sameRow since sinceEntry with againX | againEntry
            · exact absurd (waits againX) active
            · rw [sameRow, notAgain] at againEntry
              cases againEntry
        · cases kept
      · exact guarded.update present active token _
    · exact guarded.of_get_eq (by rw [get_assign, if_neg sameRow])

variable {E : Setting RelayReply RelayWorld RelayRequest} {settings : OutboxSettings}

/-- One call that keeps the fence leaves every unforfeited entry guarded. -/
theorem Fenced.step {v'} (fenced : Fenced v) (answered : Answered (relayService settings) E v e v')
    (kept : keepsFence v e v'.world = true) : Fenced v' := by
  intro p x newer' since' clean'
  have change := storeChange answered
  obtain ⟨_, w, _, rfl⟩ := answered.performed
  rw [View.after_history, sinceClaim_cons] at since'
  by_cases got : returned p x e
  · -- The entry is fresh: the row is exactly what the claim returned.
    rw [if_pos got, Option.some.injEq] at since'
    subst since'
    simp only [returned, Bool.and_eq_true, decide_eq_true_eq] at got
    cases change with
    | claim now limit leaseUntil call claims =>
      obtain ⟨_, _, _, _, stored⟩ := claims.claim x got.2
      exact ⟨x, stored, .inr ⟨rfl, nofun⟩⟩
    | fenced entry _ _ writes =>
      simp [claimedIn_of_carried (carried_of_fencedWrite writes)] at got
    | requeue id call | enqueue entry call => simp [claimedIn_eq_nil (e := e) (by simp [call])] at got
    | read noClaim => simp [noClaim] at got
  · rw [if_neg got, Option.map_eq_some_iff] at since'
    obtain ⟨newer, since, rfl⟩ := since'
    rw [List.any_cons, Bool.or_eq_false_iff] at clean'
    obtain ⟨notForfeit, clean⟩ := clean'
    have guarded := fenced p x newer since clean
    rw [List.any_cons]
    cases change with
    | claim now limit leaseUntil call claims =>
      cases again : claimsRow x.id e with
      | true =>
        simp only [claimsRow, List.any_eq_true, beq_iff_eq] at again
        obtain ⟨y, claimed, sameRow⟩ := again
        exact guarded.claim claims claimed sameRow
      | false =>
        refine guarded.of_get_eq (claims.others x.id ?_)
        simpa [claimsRow] using again
    | fenced entry «from» patch writes update =>
      have carries := carried_of_fencedWrite writes
      rw [claimsRow_of_claimedIn_eq_nil (claimedIn_of_carried carries)]
      exact Guarded.over_fenced fenced kept carries (from_of_fencedWrite writes).1
        (token_of_fencedWrite writes) update since clean notForfeit
    | requeue id call update =>
      rw [claimsRow_of_claimedIn_eq_nil (claimedIn_eq_nil (by simp [call])), Bool.false_or]
      rcases requeueDead_cases update with ⟨_, same⟩ | ⟨done, patch, row, same, _⟩
      · exact guarded.of_get_eq (by rw [same])
      · have different : x.id ≠ id := by
          rintro rfl
          simp [forfeits, call, done] at notForfeit
        exact guarded.of_get_eq (by rw [same, get_assign, if_neg different])
    | enqueue entry call append =>
      rw [claimsRow_of_claimedIn_eq_nil (claimedIn_eq_nil (by simp [call])), Bool.false_or]
      obtain ⟨row, present, token⟩ := guarded
      exact ⟨row, append ▸ get_enqueue _ entry _ present, token⟩
    | read noClaim _ _ same =>
      rw [claimsRow_of_claimedIn_eq_nil noClaim]
      exact guarded.of_get_eq (by rw [same])

theorem Fenced.drift (fenced : Fenced v) {d w} (drifted : RelayWorld.drift d v.world = some w) :
    Fenced { v with world := w } := by
  intro p x newer since clean
  have guarded := fenced p x newer since clean
  cases d with
  | enqueue entry =>
    cases drifted
    obtain ⟨row, present, token⟩ := guarded
    exact ⟨row, get_enqueue _ entry _ present, token⟩
  | close hash applied =>
    simp only [RelayWorld.drift] at drifted
    split at drifted <;> cases drifted
    exact guarded
  | tick | setKillSwitch | bumpSequence =>
    cases drifted
    exact guarded

/-- Runs of clients of the store: single methods, by requests that hold entries of earlier claims. -/
def clientRuns (meets : RelayView → RelayEvent → RelayWorld → Bool) :
    Setting RelayReply RelayWorld RelayRequest where
  initial := fun _ => True
  admits := fun request => ∃ call claimedBy, request = .client call claimedBy
  meets := meets

/-- Was the row claimed again since request `p` got the entry `x`? -/
def reclaimedSince (p : Nat) (x : OutboxEntry) (history : List RelayEvent) : Bool :=
  (sinceClaim p x history).any fun newer => newer.any (claimsRow x.id)

/-- The contract of the clients: the fence stands, and a stale entry is refused. -/
def fencing : Contract RelayReply RelayWorld RelayRequest where
  inv := Fenced
  promise := fun v e => ∀ x, carried e.call = some x →
    reclaimedSince (ticket e) x v.history = true → succeeded e = false

theorem refused_of_fenced {v'} (fenced : Fenced v) (answered : Answered (relayService settings) E v e v')
    (kept : keepsFence v e v'.world = true) : fencing.promise v e := by
  intro x carries again
  unfold reclaimedSince at again
  rw [Option.any_eq_true] at again
  obtain ⟨newer, since, reclaimed⟩ := again
  have clean : newer.any (forfeits (ticket e) x.id) = false := by
    simpa [keepsFence, carries, since] using kept
  have guarded := fenced (ticket e) x newer since clean
  rw [reclaimed] at guarded
  cases storeChange answered with
  | fenced entry «from» patch writes update =>
    rw [carried_of_fencedWrite writes] at carries
    cases carries
    exact guarded.refused (from_of_fencedWrite writes).1 update
  | claim _ _ _ call | requeue _ call | enqueue _ call => simp [call, carried, fencedWrite] at carries
  | read _ noEntry => simp [carries] at noEntry

theorem fencing_holds (settings : OutboxSettings) : fencing.Holds (relayService settings) (clientRuns keepsFence) where
  initial := by
    intro w _ p x newer since
    cases since
  drift := fun v d w fenced drifted => fenced.drift drifted
  start := by
    rintro pid request v ⟨call, claimedBy, rfl⟩ inv _
    change wp _ _ _ _ (Async.call (RelayCall.outbox call) >>= fun _ => pure ()) _ _
    rw [wp_bind]
    refine wp_call (Stable.const True) trivial fun v₁ reply v₂ fenced _ answered => ?_
    exact ⟨refused_of_fenced fenced answered answered.met, fenced.step answered answered.met, trivial⟩

/-- Once a row has been claimed again, no fenced operation that carries an entry of the earlier claim
    succeeds, in every run in which no operation uses a claim that was released or requeued. -/
theorem stale_entry_refused {settings : OutboxSettings} {ts} {c}
    (run : Run (relayService settings) (clientRuns keepsFence) ts c) {t} (ht : t ∈ ts) {e : RelayEvent}
    (he : t.event = some e) {x : OutboxEntry} (carries : carried e.call = some x)
    (again : reclaimedSince (ticket e) x t.before.history = true) : succeeded e = false :=
  (run.keeps (fencing_holds settings) ht he).promise x carries again

/-- A step whose fenced operation carries an entry of a claim that was claimed again since. -/
def usesStaleEntry {Choice Drift Outcome : Type}
    (t : Transition RelayReply RelayWorld Choice Drift RelayRequest Outcome) : Bool :=
  t.event.any fun e => (carried e.call).any fun x => reclaimedSince (ticket e) x t.before.history

/-- The first row of an intent. -/
private def firstRow : NewOutboxEntry := ⟨"intent-1", .createIntent, []⟩

/-- What the first claim of that row returns, under a lease of 120 s. -/
private def firstClaim : OutboxEntry :=
  { firstRow with
    id := 1, status := .processing, attempts := 1, nextAttemptAt := 0, lockedUntil := some 120000
    createdAt := 0, updatedAt := 0 }

/-- What a second claim returns once that lease has expired. -/
private def secondClaim : OutboxEntry :=
  { firstClaim with attempts := 2, lockedUntil := some 250000, updatedAt := 130000 }

/-- A client makes one call, right after it arrives. -/
private def clientMoves (pid : Nat) (call : OutboxCall) (claimedBy : Nat) : List RelayMove :=
  [.arrive (.client call claimedBy), .act pid {}]

/-- The worker of the first claim comes back after the row was claimed again and is refused. -/
theorem stale_entry_refused_after_reclaim :
    ∃ ts c, Run (relayService {}) (clientRuns keepsFence) ts c ∧
      ∃ t ∈ ts, ∃ e, t.event = some e ∧ usesStaleEntry t = true ∧ succeeded e = false := by
  obtain ⟨ts, c, run, stale⟩ := Run.exists_of_trace (relayService {}) (clientRuns keepsFence) {}
    (List.flatten [.drift (.enqueue firstRow) :: clientMoves 0 (.claimDue 0 10 120000) 0,
      .drift (.tick 130000) :: clientMoves 1 (.claimDue 130000 10 250000) 1,
      clientMoves 2 (.markConfirmed firstClaim "h") 0])
    (fun ts _ => ts.any usesStaleEntry) trivial (by simp [clientMoves, clientRuns]) (by decide)
  rw [List.any_eq_true] at stale
  obtain ⟨t, ht, uses⟩ := stale
  have found := uses
  rw [usesStaleEntry, Option.any_eq_true] at found
  obtain ⟨e, he, found⟩ := found
  rw [Option.any_eq_true] at found
  obtain ⟨x, carries, again⟩ := found
  exact ⟨ts, c, run, t, ht, e, he, uses, stale_entry_refused run ht he carries again⟩

/-- Without the condition the token is defeated: the row is claimed again, dead-lettered and requeued, and
    the third claim gets the token of the first. The worker of the first claim then confirms the row. -/
theorem requeue_defeats_fence :
    ∃ ts c, Run (relayService {}) (clientRuns fun _ _ _ => true) ts c ∧
      (ts.any fun t => usesStaleEntry t && t.event.any succeeded) = true :=
  Run.exists_of_trace (relayService {}) (clientRuns fun _ _ _ => true) {}
    (List.flatten [.drift (.enqueue firstRow) :: clientMoves 0 (.claimDue 0 10 120000) 0,
      .drift (.tick 130000) :: clientMoves 1 (.claimDue 130000 10 250000) 1,
      clientMoves 2 (.markDead secondClaim "boom") 1, clientMoves 3 (.requeueDead 1) 3,
      .drift (.tick 10000) :: clientMoves 4 (.claimDue 140000 10 260000) 4,
      clientMoves 5 (.markConfirmed firstClaim "h") 0])
    (fun ts _ => ts.any fun t => usesStaleEntry t && t.event.any succeeded) trivial
    (by simp [clientMoves, clientRuns]) (by decide)

end VortexBackend
