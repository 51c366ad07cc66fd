/-
Module: VortexBackend.Proofs.TrancheListing
Purpose: A list of tranches without reservations is the stored one as long as no tranche was added.
Main exports: Listed
-/
import VortexBackend.Proofs.HandlerCalls

namespace VortexBackend

open BackendWorld

/-- The stored rows, compared with the same rows as they were listed before: some were added behind them, and
    those that were not reserved are unchanged. -/
inductive Grown : List IntentFill → List IntentFill → Prop where
  | added (stored : List IntentFill) : Grown [] stored
  | kept {row now : IntentFill} {rows stored : List IntentFill} (same : row.status ≠ .reserved → now = row)
      (rest : Grown rows stored) : Grown (row :: rows) (now :: stored)

namespace Grown

theorem refl (rows : List IntentFill) : Grown rows rows := by
  induction rows with
  | nil => exact .added []
  | cons row rows ih => exact .kept (fun _ => rfl) ih

variable {rows stored : List IntentFill}

theorem insert (grown : Grown rows stored) (fill : IntentFill) : Grown rows (stored ++ [fill]) := by
  induction grown with
  | added stored => exact .added _
  | kept same rest ih => exact .kept same ih

theorem settle (grown : Grown rows stored) {current updated} (wasReserved : current.status = .reserved) :
    Grown rows (stored.map fun f => if f = current then updated else f) := by
  induction grown with
  | added stored => exact .added _
  | @kept row now rows stored same rest ih =>
    rw [List.map_cons]
    apply Grown.kept _ ih
    intro settled
    have isRow := same settled
    rw [if_neg, isRow]
    rintro rfl
    rw [isRow] at wasReserved
    exact settled wasReserved

theorem eq_of_unreserved (grown : Grown rows stored) (unreserved : ∀ row ∈ rows, row.status ≠ .reserved)
    (sameLength : stored.length = rows.length) : stored = rows := by
  induction grown with
  | added stored => exact List.length_eq_zero_iff.mp sameLength
  | kept same rest ih =>
    rw [List.forall_mem_cons] at unreserved
    rw [same unreserved.1, ih unreserved.2 (Nat.succ.inj sameLength)]

end Grown

/-! ### The invariant -/

/-- Every stored tranche holds a positive amount; the rows that a program listed last have only grown since; an
    intent that a program loaded is stored, with the same id and the same answer to partial fills; and what a
    program wrote has the id that the write named. -/
structure Listed (v : BackendView) : Prop where
  positive : ∀ id, Positive (v.world.fills.listByIntent id)
  grown : ∀ pid id rows, lastListing id (past pid v.history) = some rows →
    Positive rows ∧ Grown rows (v.world.fills.listByIntent id)
  loaded : ∀ pid id intent,
    (⟨.intents (.findById id), some intent⟩ : BackendExchange) ∈ past pid v.history →
    ∃ stored, v.world.intents.get id = some stored ∧ stored.intentId = intent.intentId ∧
      stored.allowPartialFill = intent.allowPartialFill
  written : ∀ pid c (reply : IntentCall.Reply c) updated,
    (⟨.intents c, reply⟩ : BackendExchange) ∈ past pid v.history → c.written reply = some updated →
    updated.intentId = c.target

variable {stored : Intent}

namespace Listed

variable {cfg : BackendSettings} {seen : List BackendExchange} {v : BackendView} {e : BackendEvent}
  {w : BackendWorld} {choice : BackendChoice}

theorem initial (isEmpty : w.fills = .empty) : Listed ⟨w, []⟩ where
  positive := by
    intro id fill member
    rw [isEmpty] at member
    cases member
  grown := by simp [lastListing]
  loaded := by simp
  written := by simp

theorem drift (listed : Listed v) {d} (drifted : drift d v.world = some w) : Listed { v with world := w } := by
  cases d <;> cases drifted <;> exact { listed with }

theorem reservation_positive {row} (known : Reservation cfg seen row) :
    ∃ amount : Nat, 0 < amount ∧ BigInt.parse row.reservedAmount = some (amount : Int) := by
  obtain ⟨key, intent, solver, amount, now, rows, after, _, _, _, _, planned, isRow⟩ := known
  obtain ⟨_, _, n, isAmount, rowAmount⟩ := newFillRow_some isRow
  obtain ⟨alloc, n', _, isAmount', amountPos, _, _⟩ := planReservation_ok planned
  cases isAmount.symm.trans isAmount'
  obtain ⟨amount', rfl⟩ := Int.eq_ofNat_of_zero_le (Int.le_of_lt amountPos)
  rw [rowAmount, BigInt.parse_toText]
  exact ⟨amount', Int.natCast_pos.mp amountPos, rfl⟩

theorem positive_step (listed : Listed v) (known : Knows cfg seen e.call)
    (performed : perform e.call choice v.world = some (e.reply, w)) (id : String) :
    Positive (w.fills.listByIntent id) := by
  have before := listed.positive id
  rcases perform_rows_cases performed id with same | ⟨row, fill, isCall, _, isFill, rows⟩ |
    ⟨c, current, updated, _, settles, member, rows⟩
  · rw [same]
    exact before
  · rw [isCall] at known
    rw [rows]
    intro f member
    rcases List.mem_append.mp member with old | new
    · exact before f old
    · obtain ⟨amount, isPos, parsed⟩ := reservation_positive known
      rw [List.mem_singleton.mp new, isFill]
      exact ⟨amount, isPos, parsed⟩
  · rw [rows]
    intro f member'
    obtain ⟨old, present, rfl⟩ := List.mem_map.mp member'
    split
    · obtain ⟨amount, isPos, parsed⟩ := before current member
      exact ⟨amount, isPos, settles.sameAmount ▸ parsed⟩
    · exact before old present

variable {rows : List IntentFill} {id : String} {pid : Nat} {alloc : Allocation}

section

variable (performed : perform e.call choice v.world = some (e.reply, w))
include performed

theorem grown_of_perform (grown : Grown rows (v.world.fills.listByIntent id)) :
    Grown rows (w.fills.listByIntent id) := by
  rcases perform_rows_cases performed id with same | ⟨row, fill, _, _, _, rows⟩ |
    ⟨c, current, updated, _, settles, _, rows⟩
  · rw [same]
    exact grown
  · rw [rows]
    exact grown.insert fill
  · rw [rows]
    exact grown.settle settles.wasReserved

omit performed in
theorem lastListing_cons {x earlier} (listing : lastListing id (x :: earlier) = some rows) :
    x = ⟨.fills (.listByIntent id), rows⟩ ∨ lastListing id earlier = some rows := by
  unfold lastListing at listing
  split at listing
  · rename_i isNil
    cases isNil
  · rename_i id' rows' earlier' isCons
    cases isCons
    split at listing
    · rename_i isId
      cases isId
      cases listing
      exact .inl rfl
    · exact .inr listing
  · rename_i isCons
    cases isCons
    exact .inr listing

theorem grown_step (listed : Listed v) (known : Knows cfg seen e.call) (pid : Nat) (id : String)
    (rows : List IntentFill) (listing : lastListing id (past pid (v.after e w).history) = some rows) :
    Positive rows ∧ Grown rows (w.fills.listByIntent id) := by
  by_cases own : e.actor.pid = pid
  · rw [past_own own] at listing
    rcases lastListing_cons listing with now | before
    · obtain ⟨actor, call, reply⟩ := e
      cases now
      cases performed
      exact ⟨listed.positive id, Grown.refl _⟩
    · obtain ⟨positive, grown⟩ := listed.grown pid id rows before
      exact ⟨positive, grown_of_perform performed grown⟩
  · rw [past_other own] at listing
    obtain ⟨positive, grown⟩ := listed.grown pid id rows listing
    exact ⟨positive, grown_of_perform performed grown⟩

theorem stored_kept (known : Knows cfg seen e.call) {before} (present : v.world.intents.get id = some before) :
    ∃ after, w.intents.get id = some after ∧ after.intentId = before.intentId ∧
      after.allowPartialFill = before.allowPartialFill := by
  rcases perform_intents_cases performed with
    ⟨_, same⟩ | ⟨key, isDelete, _⟩ | ⟨c, updated, isCall, _, stored, how⟩
  · rw [same]
    exact ⟨before, present, rfl, rfl⟩
  · rw [isDelete] at known
    cases known
  · rw [isCall] at known
    rw [stored, IntentStore.get_put]
    split
    · rename_i isId
      rcases how with rfl | ⟨existing, found, writes⟩
      · cases known
      · rw [← isId, present] at found
        cases found
        obtain ⟨sameId, samePartial, _⟩ := known.terms_kept writes
        exact ⟨updated, rfl, sameId, samePartial⟩
    · exact ⟨before, present, rfl, rfl⟩

end

section

variable (listed : Listed v) (known : Knows cfg seen e.call)
  (performed : perform e.call choice v.world = some (e.reply, w))
include listed known performed

theorem loaded_step (pid : Nat) (id : String) (intent : Intent)
    (read : (⟨.intents (.findById id), some intent⟩ : BackendExchange) ∈ past pid (v.after e w).history) :
    ∃ stored, w.intents.get id = some stored ∧ stored.intentId = intent.intentId ∧
      stored.allowPartialFill = intent.allowPartialFill := by
  rcases mem_past_cons.mp read with ⟨_, now⟩ | earlier
  · obtain ⟨actor, call, reply⟩ := e
    cases now
    simp only [perform, IntentStore.perform, Option.some.injEq, Prod.mk.injEq] at performed
    obtain ⟨found, rfl⟩ := performed
    exact ⟨intent, found, rfl, rfl⟩
  · obtain ⟨stored, present, sameId, sameTerms⟩ := listed.loaded pid id intent earlier
    obtain ⟨after, present', sameId', sameTerms'⟩ := stored_kept performed known present
    exact ⟨after, present', sameId'.trans sameId, sameTerms'.trans sameTerms⟩

theorem step : Listed (v.after e w) where
  positive := listed.positive_step known performed
  grown := listed.grown_step performed known
  loaded := listed.loaded_step known performed
  written := by
    intro pid c reply updated member wrote
    rcases mem_past_cons.mp member with ⟨_, now⟩ | earlier
    · obtain ⟨actor, call, reply'⟩ := e
      cases now
      exact (written_stored performed wrote).1
    · exact listed.written pid c reply updated earlier wrote

end

/-! ### What the handlers may conclude -/

section

variable (listed : Listed v) (known : Unreserved (past pid v.history) id rows alloc)
include listed known

theorem none_reserved : ∀ row ∈ rows, row.status ≠ .reserved := by
  obtain ⟨listing, ⟨key, intent, _, _, isAlloc⟩, unreserved⟩ := known
  have positive := (listed.grown pid id rows listing).1
  rw [(allocation_sums isAlloc positive.parses).1] at unreserved
  exact positive.none_in unreserved

theorem eq_listed (sameLength : (v.world.fills.listByIntent id).length = rows.length) :
    v.world.fills.listByIntent id = rows :=
  (listed.grown pid id rows known.listed).2.eq_of_unreserved (listed.none_reserved known) sameLength

theorem none_filled (unfilled : alloc.filled = 0) : ∀ row ∈ rows, row.status ≠ .filled := by
  obtain ⟨listing, ⟨key, intent, _, _, isAlloc⟩, _⟩ := known
  have positive := (listed.grown pid id rows listing).1
  rw [(allocation_sums isAlloc positive.parses).2] at unfilled
  exact positive.none_in (Int.le_of_eq unfilled)

end

theorem whole (listed : Listed v) (known : LoadedWhole (past pid v.history) id)
    (present : v.world.intents.get id = some stored) : stored.partialFills = false := by
  obtain ⟨intent, loaded, isWhole⟩ := known
  obtain ⟨stored', present', _, sameTerms⟩ := listed.loaded pid id intent loaded.mem
  cases present.symm.trans present'
  rw [Intent.partialFills, sameTerms]
  exact isWhole

end Listed

/-! ### The runs and their conditions -/

/-- The runs: no tranches yet, no partial-fill intent that is being settled or was, and the requests that touch
    the tranches of an intent, amend it, or expire it. -/
def trancheRuns : BackendSetting where
  initial w := w.fills = .empty ∧ ∀ id intent, w.intents.get id = some intent → intent.partialFills = true →
    intent.state ≠ .accepted ∧ intent.state ≠ .filled
  admits
    | .reserve .. | .fillTranche .. | .cancel .. | .amend .. | .slashExpiredReservations .. | .sweep
    | .expireJob _ => True
    | _ => False

theorem trancheRuns_handlers (request : BackendRequest) (admitted : trancheRuns.admits request) :
    request.isHandler = true := by
  cases request with
  | reserve | fillTranche | cancel | amend | slashExpiredReservations | sweep | expireJob => rfl
  | _ => cases admitted

/-- A tranche is added while its intent is open. -/
def reservesOpen (v : BackendView) (e : BackendEvent) : Bool :=
  match e.call with
  | .fills (.insert row) => (v.world.intents.get row.intentId).all (·.state == .open)
  | _ => true

/-- The tranches of the intent are as many as the program listed last. -/
def listingCurrent (v : BackendView) (pid : Nat) (id : String) : Bool :=
  (lastListing id (past pid v.history)).all fun rows => (v.world.fills.listByIntent id).length == rows.length

/-- The tranches of an intent that is not open do not change any more once none is reserved. -/
theorem rows_frozen {v e w choice} (reserves : reservesOpen v e = true)
    (performed : perform e.call choice v.world = some (e.reply, w)) {id}
    (present : v.world.intents.get id = some stored) (notOpen : stored.state ≠ .open)
    (unreserved : ∀ row ∈ v.world.fills.listByIntent id, row.status ≠ .reserved) :
    w.fills.listByIntent id = v.world.fills.listByIntent id := by
  rcases perform_rows_cases performed id with same | ⟨row, fill, isCall, isId, _, _⟩ |
    ⟨c, current, updated, _, settles, member, _⟩
  · exact same
  · simp only [reservesOpen, isCall, isId, present, Option.all_some, beq_iff_eq] at reserves
    exact absurd reserves notOpen
  · exact absurd settles.wasReserved (unreserved current member)

/-! ### Requests on fixed inputs -/

/-- A world with one open intent that allows partial fills. -/
def partialIntentWorld : BackendWorld where
  intents := IntentStore.empty.put { sampleIntent with allowPartialFill := some true, minFillAmount := some "1" }

/-- What the services outside answer: the solver is registered and bonded; a new tranche gets the given id. -/
def bondedSolver (fillId : String) : BackendChoice := { solver := some ⟨true, some "1"⟩, id := fillId }

/-- The request of a solver for half of the sample intent, and of the delivery of that half. -/
def reserveHalf (solver : String) : BackendRequest := .reserve "I" ⟨solver, "50", ""⟩
def deliverHalf (solver fillId : String) : BackendRequest := .fillTranche "I" fillId ⟨solver, "50", none, ""⟩

theorem partialIntentWorld_initial : trancheRuns.initial partialIntentWorld := by
  refine ⟨rfl, fun id intent present isPartial => ?_⟩
  have stored := present
  unfold partialIntentWorld at stored
  rw [IntentStore.get_put] at stored
  split at stored
  · cases stored
    exact ⟨nofun, nofun⟩
  · cases stored

end VortexBackend
