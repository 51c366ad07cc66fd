/-
Module: VortexBackend.Proofs.SettlementTotals
Purpose: The totals of a settled intent are the sums over its tranches, if none is added meanwhile.
Main exports: settlement_totals
-/
import VortexBackend.Proofs.TrancheListing

namespace VortexBackend

open BackendWorld

/-- A settlement accepts an intent whose tranches are those it listed. -/
def settlesListed (v : BackendView) (e : BackendEvent) : Bool :=
  match e.call with
  | .intents (.acceptIfOpen id ..) => listingCurrent v e.actor.pid id
  | _ => true

/-- The runs in which tranches are added only to open intents, and never between the listing of a settlement and
    its first write. -/
def settlementSetting : BackendSetting :=
  { trancheRuns with meets := fun v e _ => reservesOpen v e && settlesListed v e }

/-- The recorded amounts are the sums over the tranches that are filled. -/
def RecordsTotals (intent : Intent) (rows : List IntentFill) : Prop :=
  ∃ dstTotal feeTotal, FilledTotals rows dstTotal feeTotal ∧
    intent.fillAmount = some (BigInt.toText dstTotal) ∧ intent.feeAmount = some (BigInt.toText feeTotal)

/-- While a partial-fill intent is accepted, and once it is filled, nothing is reserved; a program that has just
    accepted an intent has listed its tranches as they are; and a filled intent records their totals. -/
structure Settled (v : BackendView) : Prop extends Listed v where
  accepted : ∀ id stored, v.world.intents.get id = some stored → stored.partialFills = true →
    stored.state = .accepted ∨ stored.state = .filled →
    ∀ row ∈ v.world.fills.listByIntent id, row.status ≠ .reserved
  settling : ∀ pid id rows, JustAccepted (past pid v.history) id →
    lastListing id (past pid v.history) = some rows → (∀ row ∈ rows, row.status ≠ .reserved) →
    v.world.fills.listByIntent id = rows ∧
      ∃ stored, v.world.intents.get id = some stored ∧ stored.state ≠ .open
  totals : ∀ id stored, v.world.intents.get id = some stored → stored.partialFills = true →
    stored.state = .filled → RecordsTotals stored (v.world.fills.listByIntent id)

namespace Settled

variable {cfg : BackendSettings} {v : BackendView} {e : BackendEvent} {w : BackendWorld} {choice : BackendChoice}

theorem initial (start : trancheRuns.initial w) : Settled ⟨w, []⟩ where
  toListed := Listed.initial start.1
  accepted := by
    intro id stored present isPartial state
    obtain ⟨notAccepted, notFilled⟩ := start.2 id stored present isPartial
    rcases state with isAccepted | isFilled
    · exact absurd isAccepted notAccepted
    · exact absurd isFilled notFilled
  settling := by
    intro pid id rows just
    obtain ⟨_, _, _, _, _, isCons⟩ := just
    cases isCons
  totals := by
    intro id stored present isPartial isFilled
    exact absurd isFilled (start.2 id stored present isPartial).2

theorem drift (settled : Settled v) {d} (drifted : drift d v.world = some w) : Settled { v with world := w } := by
  have listed := settled.toListed.drift drifted
  cases d <;> cases drifted <;> exact { settled with toListed := listed }

variable {id solver : String} {deadline now : Nat}

/-- A settlement that accepts an intent has listed its tranches as they are, and none is reserved. -/
theorem listed_at_accept (settled : Settled v) (isCall : e.call = .intents (.acceptIfOpen id solver deadline now))
    (settles : settlesListed v e = true) {rows} (listing : lastListing id (past e.actor.pid v.history) = some rows)
    (unreserved : ∀ row ∈ rows, row.status ≠ .reserved) : v.world.fills.listByIntent id = rows := by
  simp only [settlesListed, isCall, listingCurrent, listing, Option.all_some, beq_iff_eq] at settles
  exact (settled.grown _ id rows listing).2.eq_of_unreserved unreserved settles

theorem accepted_step (settled : Settled v) (known : Knows cfg (past e.actor.pid v.history) e.call)
    (reserves : reservesOpen v e = true) (settles : settlesListed v e = true)
    (performed : perform e.call choice v.world = some (e.reply, w)) (id : String) (stored : Intent)
    (present : w.intents.get id = some stored) (isPartial : stored.partialFills = true)
    (state : stored.state = .accepted ∨ stored.state = .filled) :
    ∀ row ∈ w.fills.listByIntent id, row.status ≠ .reserved := by
  rcases known.stored_after performed present with same | ⟨c, before, isCall, found, sameTerms, write⟩
  · have unreserved := settled.accepted id stored same isPartial state
    have notOpen : stored.state ≠ .open := by
      rcases state with isAccepted | isFilled
      · rw [isAccepted]
        exact nofun
      · rw [isFilled]
        exact nofun
    rw [rows_frozen reserves performed same notOpen unreserved]
    exact unreserved
  · rw [fills_of_intents performed isCall]
    rw [sameTerms] at isPartial
    cases write with
    | accepted isAccept known _ _ =>
      rw [IntentStore.intentId_of_get found] at isAccept known
      rcases known with whole | ⟨rows, alloc, unreserved⟩
      · cases isPartial.symm.trans (settled.whole whole found)
      · have free := settled.none_reserved unreserved
        rw [settled.listed_at_accept (isAccept ▸ isCall) settles unreserved.listed free]
        exact free
    | extended was _ | filled _ _ was _ => exact settled.accepted id before found isPartial (.inl was)
    | parked parks => exact absurd state (not_or.mpr parks.pending.2.2)
    | amended _ _ is | cancelled _ _ _ is | expired _ _ is | slashed _ _ is =>
      rw [is] at state
      rcases state with isAccepted | isFilled
      · cases isAccepted
      · cases isFilled

theorem accepted_now {updated}
    (performed :
      perform (.intents (.acceptIfOpen id solver deadline now)) choice v.world = some (.written updated, w)) :
    ∃ stored, w.intents.get id = some stored ∧ stored.state ≠ .open := by
  have present : w.intents.get id = some updated := (written_stored performed rfl).2
  refine ⟨updated, present, ?_⟩
  rcases (written_how performed rfl).2 with saved | ⟨existing, found, isId, _, _, rfl⟩
  · cases saved
  · exact nofun

section

variable (settled : Settled v) (known : Knows cfg (past e.actor.pid v.history) e.call)
  (reserves : reservesOpen v e = true)
include settled known reserves

section

variable (performed : perform e.call choice v.world = some (e.reply, w))
include performed

theorem settling_step (settles : settlesListed v e = true) (pid : Nat) (id : String) (rows : List IntentFill)
    (just : JustAccepted (past pid (v.after e w).history) id)
    (listing : lastListing id (past pid (v.after e w).history) = some rows)
    (unreserved : ∀ row ∈ rows, row.status ≠ .reserved) :
    w.fills.listByIntent id = rows ∧ ∃ stored, w.intents.get id = some stored ∧ stored.state ≠ .open := by
  by_cases own : e.actor.pid = pid
  · subst own
    rw [past_own rfl] at just listing
    obtain ⟨solver, deadline, now, updated, earlier, isCons⟩ := just
    obtain ⟨actor, call, reply⟩ := e
    cases isCons
    have sameRows := fills_of_intents performed rfl
    refine ⟨?_, accepted_now performed⟩
    rw [sameRows]
    exact settled.listed_at_accept rfl settles listing unreserved
  · rw [past_other own] at just listing
    obtain ⟨isListed, stored, present, notOpen⟩ := settled.settling pid id rows just listing unreserved
    constructor
    · rw [← isListed] at unreserved
      rw [rows_frozen reserves performed present notOpen unreserved]
      exact isListed
    · obtain ⟨after, present', _, _⟩ := Listed.stored_kept performed known present
      refine ⟨after, present', fun isOpen => ?_⟩
      rcases known.stored_after performed present' with same | ⟨c, before, _, found, _, write⟩
      · cases present.symm.trans same
        exact notOpen isOpen
      · cases present.symm.trans found
        exact notOpen (write.open_before isOpen).1

theorem totals_step (id : String) (stored : Intent) (present : w.intents.get id = some stored)
    (isPartial : stored.partialFills = true) (isFilled : stored.state = .filled) :
    RecordsTotals stored (w.fills.listByIntent id) := by
  rcases known.stored_after performed present with same | ⟨c, before, isCall, found, sameTerms, write⟩
  · have unreserved := settled.accepted id stored same isPartial (.inr isFilled)
    have notOpen : stored.state ≠ .open := by
      rw [isFilled]
      exact nofun
    rw [rows_frozen reserves performed same notOpen unreserved]
    exact settled.totals id stored same isPartial isFilled
  · rw [fills_of_intents performed isCall]
    rw [sameTerms] at isPartial
    cases write with
    | filled known amounts _ _ =>
      rw [IntentStore.intentId_of_get found] at known
      rcases known with report | ⟨rows, alloc, dstTotal, feeTotal, now, just, unreserved, totals, rfl⟩
      · cases isPartial.symm.trans (settled.whole report.whole found)
      · rw [(settled.settling _ id rows just unreserved.listed (settled.none_reserved unreserved)).1]
        exact ⟨dstTotal, feeTotal, totals, amounts.1, amounts.2⟩
    | parked parks => exact absurd isFilled parks.pending.2.2.2
    | amended _ _ is | extended _ is | accepted _ _ _ is | cancelled _ _ _ is | expired _ _ is | slashed _ _ is =>
      cases is.symm.trans isFilled

theorem step (settles : settlesListed v e = true) : Settled (v.after e w) where
  toListed := settled.toListed.step known performed
  accepted := settled.accepted_step known reserves settles performed
  settling := settled.settling_step known reserves performed settles
  totals := settled.totals_step known reserves performed

end

end

end Settled

/-- For any interleaving of reservations, tranche fills, cancels, amendments and slashes of expired reservations:
    wherever a partial-fill intent is filled, it records the sums of what its filled tranches delivered and of
    their fees, and none of its tranches is still reserved. -/
theorem settlement_totals {cfg : BackendSettings} {ts : List BackendTransition} {c : BackendConfig}
    (run : Run (backendService cfg) settlementSetting ts c) (id : String) (intent : Intent)
    (present : c.world.intents.get id = some intent) (isPartial : intent.partialFills = true)
    (isFilled : intent.state = .filled) :
    RecordsTotals intent (c.world.fills.listByIntent id) ∧
      ∀ row ∈ c.world.fills.listByIntent id, row.status ≠ .reserved := by
  have followed : (handlerDiscipline cfg).Followed (backendService cfg) settlementSetting :=
    handlers_followed cfg trancheRuns_handlers
  have settled : Settled c.view := by
    apply (Run.invariant (I := Settled) followed ?_ ?_ ?_ run).1
    · intro w start
      exact .initial start
    · intro v d w settled drifted
      exact settled.drift drifted
    · intro v e v' settled step
      obtain ⟨⟨⟨choice, w, performed, rfl⟩, met⟩, known, _⟩ := step
      obtain ⟨reserves, settles⟩ := Bool.and_eq_true_iff.mp met
      exact settled.step known reserves performed settles
  exact ⟨settled.totals id intent present isPartial isFilled,
    settled.accepted id intent present isPartial (.inr isFilled)⟩

/-- Two solvers deliver one half each. -/
theorem two_halves_settled :
    ∃ ts c intent, Run (backendService {}) settlementSetting ts c ∧ c.world.intents.get "I" = some intent ∧
      intent.state = .filled ∧ RecordsTotals intent (c.world.fills.listByIntent "I") := by
  obtain ⟨ts, c, run, ended⟩ := Run.exists_of_trace (backendService {}) settlementSetting partialIntentWorld
    (List.flatten [[.arrive (reserveHalf "A"), .arrive (reserveHalf "B"), .arrive (deliverHalf "A" "F1"),
        .arrive (deliverHalf "B" "F2")],
      List.replicate 15 (.act 0 (bondedSolver "F1")), List.replicate 15 (.act 1 (bondedSolver "F2")),
      List.replicate 15 (.act 2 {}), List.replicate 19 (.act 3 {})])
    (fun _ c => (c.world.intents.get "I").any fun i => i.partialFills && i.state == .filled)
    partialIntentWorld_initial (by simp [settlementSetting, trancheRuns, reserveHalf, deliverHalf]) (by decide +kernel)
  obtain ⟨intent, present, filled⟩ := (Option.any_eq_true _ _).mp ended
  rw [Bool.and_eq_true, beq_iff_eq] at filled
  have totals := (settlement_totals run "I" intent present filled.1 filled.2).1
  exact ⟨ts, c, intent, run, present, filled.2, totals⟩

/-- A user cancels the remainder and lists one half delivered and nothing reserved; before the settlement writes,
    a second solver reserves the other half, and delivers it afterwards. The intent records the first half. -/
theorem second_half_left_out :
    ∃ ts c, Run (backendService {}) trancheRuns ts c ∧
      (∃ intent, c.world.intents.get "I" = some intent ∧ intent.partialFills = true ∧ intent.state = .filled ∧
        intent.fillAmount = some "50") ∧
      PartialFillService.total (·.dstAmount) ((c.world.fills.listByIntent "I").filter (·.status == .filled)) =
        some 100 := by
  obtain ⟨ts, c, run, ended⟩ := Run.exists_of_trace (backendService {}) trancheRuns partialIntentWorld
    (List.flatten [[.arrive (reserveHalf "A"), .arrive (reserveHalf "B"), .arrive (deliverHalf "A" "F1"),
        .arrive (deliverHalf "B" "F2"), .arrive (.cancel "I" ⟨"U", ""⟩)],
      List.replicate 15 (.act 0 (bondedSolver "F1")), List.replicate 15 (.act 2 {}),
      List.replicate 4 (.act 4 {}), List.replicate 15 (.act 1 (bondedSolver "F2")),
      List.replicate 3 (.act 4 {}), List.replicate 14 (.act 3 {})])
    (fun _ c => ((c.world.intents.get "I").any fun i =>
        i.partialFills && (i.state == .filled && i.fillAmount == some "50")) &&
      PartialFillService.total (·.dstAmount) ((c.world.fills.listByIntent "I").filter (·.status == .filled)) ==
        some 100)
    partialIntentWorld_initial (by simp [trancheRuns, reserveHalf, deliverHalf]) (by decide +kernel)
  rw [Bool.and_eq_true, beq_iff_eq] at ended
  obtain ⟨recorded, delivered⟩ := ended
  obtain ⟨intent, present, records⟩ := (Option.any_eq_true _ _).mp recorded
  rw [Bool.and_eq_true, Bool.and_eq_true, beq_iff_eq, beq_iff_eq] at records
  exact ⟨ts, c, run, ⟨intent, present, records⟩, delivered⟩

end VortexBackend
