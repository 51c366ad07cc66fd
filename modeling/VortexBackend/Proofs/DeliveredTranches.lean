/-
Module: VortexBackend.Proofs.DeliveredTranches
Purpose: A delivered tranche is never part of a withdrawn intent, if none is added late.
Main exports: delivered_not_withdrawn
-/
import VortexBackend.Proofs.TrancheListing

namespace VortexBackend

/-- A cancel withdraws an intent whose tranches are those it listed. -/
def cancelsListed (v : BackendView) (e : BackendEvent) : Bool :=
  match e.call with
  | .intents (.cancelIfOpen id) => listingCurrent v e.actor.pid id
  | _ => true

/-- The part of a sweep that slashes accepted intents meets no intent that is being settled. -/
def slashesWhole (v : BackendView) (e : BackendEvent) : Bool :=
  match e.call with
  | .intents (.slashIfAccepted id ..) => (v.world.intents.get id).all (!·.partialFills)
  | _ => true

/-- The runs in which no tranche is added to an intent that is not open, or between the listing of a cancel and its
    write, and in which the sweeper only expires partial-fill intents. -/
def deliverySetting : BackendSetting :=
  { trancheRuns with meets := fun v e _ => reservesOpen v e && cancelsListed v e && slashesWhole v e }

/-- The states of an intent that is still to be filled, was filled, or ran out of time. -/
def keepsDeliveries : IntentState → Bool
  | .open | .accepted | .filled | .expired => true
  | _ => false

/-- A cancel that was committed stays; and an intent that was withdrawn has no tranche that is reserved or filled. -/
structure Withdrawn (v : BackendView) : Prop extends Listed v where
  cancelled : ∀ pid id updated,
    (⟨.intents (.cancelIfOpen id), .written updated⟩ : BackendExchange) ∈ past pid v.history →
    ∃ stored, v.world.intents.get id = some stored ∧
      (stored.state = .cancelled ∨ stored.state = .pendingCancelled)
  nothing : ∀ id stored, v.world.intents.get id = some stored → stored.partialFills = true →
    keepsDeliveries stored.state = false →
    ∀ row ∈ v.world.fills.listByIntent id, row.status ≠ .reserved ∧ row.status ≠ .filled

namespace Withdrawn

variable {cfg : BackendSettings} {v : BackendView} {e : BackendEvent} {w : BackendWorld} {choice : BackendChoice}

theorem initial (isEmpty : w.fills = .empty) : Withdrawn ⟨w, []⟩ where
  toListed := Listed.initial isEmpty
  cancelled := by simp
  nothing := by
    intro id stored _ _ _ row member
    rw [isEmpty] at member
    cases member

theorem drift (withdrawn : Withdrawn v) {d} (drifted : BackendWorld.drift d v.world = some w) :
    Withdrawn { v with world := w } := by
  have listed := withdrawn.toListed.drift drifted
  cases d <;> cases drifted <;> exact ⟨listed, withdrawn.cancelled, withdrawn.nothing⟩

theorem parked_cancelled («from» : IntentState) (op : PendingIntentOp)
    (legal : legalPair «from» (IntentsService.PENDING_STATE_BY_OP op) = true)
    (wasCancelled : «from» = .cancelled ∨ «from» = .pendingCancelled) :
    «from» = .cancelled ∧ IntentsService.PENDING_STATE_BY_OP op = .pendingCancelled := by
  rcases wasCancelled with rfl | rfl
  · revert legal
    cases op <;> decide
  · revert legal
    cases op <;> decide

variable {before : Intent} {id : String}

theorem cancelled_kept (known : Knows cfg (past e.actor.pid v.history) e.call)
    (performed : BackendWorld.perform e.call choice v.world = some (e.reply, w))
    (present : v.world.intents.get id = some before)
    (wasCancelled : before.state = .cancelled ∨ before.state = .pendingCancelled) :
    ∃ stored, w.intents.get id = some stored ∧
      (stored.state = .cancelled ∨ stored.state = .pendingCancelled) := by
  obtain ⟨after, present', _, _⟩ := Listed.stored_kept performed known present
  refine ⟨after, present', ?_⟩
  rcases known.stored_after performed present' with same | ⟨c, existing, _, found, _, write⟩
  · cases present.symm.trans same
    exact wasCancelled
  · cases present.symm.trans found
    cases write with
    | parked parks =>
      obtain ⟨op, txHash, is, _, legal, _⟩ := parks
      rw [is] at legal
      exact .inr (is.trans (parked_cancelled before.state op legal wasCancelled).2)
    | amended _ was _ | extended was _ | accepted _ _ was _ | filled _ _ was _ | cancelled _ _ was _
    | expired _ was _ | slashed _ was _ =>
      rw [was] at wasCancelled
      rcases wasCancelled with isCancelled | isPending
      · cases isCancelled
      · cases isPending

section

variable (withdrawn : Withdrawn v)
include withdrawn

theorem cancelled_step (known : Knows cfg (past e.actor.pid v.history) e.call)
    (performed : BackendWorld.perform e.call choice v.world = some (e.reply, w)) (pid : Nat) (id : String)
    (updated : Intent)
    (committed :
      (⟨.intents (.cancelIfOpen id), .written updated⟩ : BackendExchange) ∈ past pid (v.after e w).history) :
    ∃ stored, w.intents.get id = some stored ∧
      (stored.state = .cancelled ∨ stored.state = .pendingCancelled) := by
  rcases mem_past_cons.mp committed with ⟨_, now⟩ | earlier
  · obtain ⟨actor, call, reply⟩ := e
    cases now
    refine ⟨updated, (written_stored performed rfl).2, .inl ?_⟩
    rcases (written_how performed rfl).2 with saved | ⟨existing, _, _, _, rfl⟩
    · cases saved
    · rfl
  · obtain ⟨stored, present, wasCancelled⟩ := withdrawn.cancelled pid id updated earlier
    exact cancelled_kept known performed present wasCancelled

/-- A cancel that goes through listed the tranches as they are: none reserved, none filled. -/
theorem nothing_cancelled (isCall : e.call = .intents (.cancelIfOpen id))
    (known : LoadedWhole (past e.actor.pid v.history) id ∨
      ∃ rows alloc, Unreserved (past e.actor.pid v.history) id rows alloc ∧ alloc.filled = 0)
    (cancels : cancelsListed v e = true) (found : v.world.intents.get id = some before)
    (isPartial : before.partialFills = true) :
    ∀ row ∈ v.world.fills.listByIntent id, row.status ≠ .reserved ∧ row.status ≠ .filled := by
  rcases known with whole | ⟨rows, alloc, unreserved, unfilled⟩
  · cases isPartial.symm.trans (withdrawn.whole whole found)
  · simp only [cancelsListed, isCall, listingCurrent, unreserved.listed, Option.all_some, beq_iff_eq] at cancels
    rw [withdrawn.eq_listed unreserved cancels]
    intro row member
    exact ⟨withdrawn.none_reserved unreserved row member, withdrawn.none_filled unreserved unfilled row member⟩

theorem withdrawn_before_park {pid «to» patch} (parks : Parks (past pid v.history) id before.state «to» patch)
    (found : v.world.intents.get id = some before) (isPartial : before.partialFills = true) :
    keepsDeliveries before.state = false := by
  obtain ⟨op, txHash, rfl, _, legal, committed⟩ := parks
  cases op with
  | create => cases committed
  | accept | fill =>
    obtain ⟨key, solver, given, now, updated, rfl, whole, member⟩ := committed
    rw [withdrawn.written _ _ _ updated member rfl] at found
    cases isPartial.symm.trans (withdrawn.whole whole found)
  | cancel =>
    obtain ⟨key, updated, rfl, member⟩ := committed
    obtain ⟨stored, present, wasCancelled⟩ := withdrawn.cancelled _ key updated member
    rw [withdrawn.written _ _ _ updated member rfl] at found
    cases present.symm.trans found
    rw [(parked_cancelled _ .cancel legal wasCancelled).1]
    rfl

section

variable (known : Knows cfg (past e.actor.pid v.history) e.call) (reserves : reservesOpen v e = true)
  (cancels : cancelsListed v e = true) (slashes : slashesWhole v e = true)
  (performed : BackendWorld.perform e.call choice v.world = some (e.reply, w))
include known reserves cancels slashes performed

theorem nothing_step (id : String) (stored : Intent) (present : w.intents.get id = some stored)
    (isPartial : stored.partialFills = true) (keeps : keepsDeliveries stored.state = false) :
    ∀ row ∈ w.fills.listByIntent id, row.status ≠ .reserved ∧ row.status ≠ .filled := by
  rcases known.stored_after performed present with same | ⟨c, before, isCall, found, sameTerms, write⟩
  · have nothing := withdrawn.nothing id stored same isPartial keeps
    have notOpen : stored.state ≠ .open := by
      intro isOpen
      rw [isOpen] at keeps
      cases keeps
    rw [rows_frozen reserves performed same notOpen fun row member => (nothing row member).1]
    exact nothing
  · rw [fills_of_intents performed isCall]
    rw [sameTerms] at isPartial
    have isId := IntentStore.intentId_of_get found
    cases write with
    | cancelled isCancel known _ _ =>
      rw [isId] at isCancel known
      exact withdrawn.nothing_cancelled (isCancel ▸ isCall) known cancels found isPartial
    | parked parks =>
      rw [isId] at parks
      exact withdrawn.nothing id before found isPartial (withdrawn.withdrawn_before_park parks found isPartial)
    | slashed isSlash _ _ =>
      rw [isId] at isSlash
      simp only [slashesWhole, isCall, isSlash, found, Option.all_some, isPartial] at slashes
      cases slashes
    | amended _ _ is | extended _ is | accepted _ _ _ is | filled _ _ _ is | expired _ _ is =>
      rw [is] at keeps
      cases keeps

theorem step : Withdrawn (v.after e w) where
  toListed := withdrawn.toListed.step known performed
  cancelled := withdrawn.cancelled_step known performed
  nothing := withdrawn.nothing_step known reserves cancels slashes performed

end

end

end Withdrawn

/-- For any interleaving of reservations, tranche fills, amendments, cancels and expiries: a partial-fill intent with
    a delivered tranche is open, is being settled, was filled, or has expired; it is never cancelled or slashed. -/
theorem delivered_not_withdrawn {cfg : BackendSettings} {ts : List BackendTransition} {c : BackendConfig}
    (run : Run (backendService cfg) deliverySetting ts c) (id : String) (intent : Intent)
    (present : c.world.intents.get id = some intent) (isPartial : intent.partialFills = true)
    (delivered : ∃ row ∈ c.world.fills.listByIntent id, row.status = .filled) :
    intent.state = .open ∨ intent.state = .accepted ∨ intent.state = .filled ∨ intent.state = .expired := by
  have followed : (handlerDiscipline cfg).Followed (backendService cfg) deliverySetting :=
    handlers_followed cfg trancheRuns_handlers
  have withdrawn : Withdrawn c.view := by
    apply (Run.invariant (I := Withdrawn) followed ?_ ?_ ?_ run).1
    · intro w start
      exact .initial start.1
    · intro v d w withdrawn drifted
      exact withdrawn.drift drifted
    · intro v e v' withdrawn step
      obtain ⟨⟨⟨choice, w, performed, rfl⟩, met⟩, known, _⟩ := step
      simp only [deliverySetting, Bool.and_eq_true] at met
      obtain ⟨⟨reserves, cancels⟩, slashes⟩ := met
      exact withdrawn.step known reserves cancels slashes performed
  obtain ⟨row, member, isFilled⟩ := delivered
  cases keeps : keepsDeliveries intent.state with
  | true =>
    revert keeps
    cases intent.state <;> simp [keepsDeliveries]
  | false => exact absurd isFilled (withdrawn.nothing id intent present isPartial keeps row member).2

/-- One half is delivered, and the user cancels the remainder: the intent ends as filled. -/
theorem cancelled_remainder_filled :
    ∃ ts c intent, Run (backendService {}) deliverySetting ts c ∧ c.world.intents.get "I" = some intent ∧
      (∃ row ∈ c.world.fills.listByIntent "I", row.status = .filled) ∧
      (intent.state = .open ∨ intent.state = .accepted ∨ intent.state = .filled ∨ intent.state = .expired) := by
  obtain ⟨ts, c, run, ended⟩ := Run.exists_of_trace (backendService {}) deliverySetting partialIntentWorld
    (List.flatten [[.arrive (reserveHalf "A"), .arrive (deliverHalf "A" "F1"), .arrive (.cancel "I" ⟨"U", ""⟩)],
      List.replicate 12 (.act 0 (bondedSolver "F1")), List.replicate 10 (.act 1 {}),
      List.replicate 7 (.act 2 {})])
    (fun _ c => ((c.world.intents.get "I").any fun i => i.partialFills && i.state == .filled) &&
      (c.world.fills.listByIntent "I").any (·.status == .filled))
    partialIntentWorld_initial (by simp [deliverySetting, trancheRuns, reserveHalf, deliverHalf]) (by decide +kernel)
  rw [Bool.and_eq_true, List.any_eq_true] at ended
  obtain ⟨state, row, member, isFilled⟩ := ended
  have delivered : ∃ row ∈ c.world.fills.listByIntent "I", row.status = .filled :=
    ⟨row, member, beq_iff_eq.mp isFilled⟩
  obtain ⟨intent, present, isPartial⟩ := (Option.any_eq_true _ _).mp state
  exact ⟨ts, c, intent, run, present, delivered,
    delivered_not_withdrawn run "I" intent present (Bool.and_eq_true_iff.mp isPartial).1 delivered⟩

/-- One half is delivered, nobody takes the other, and the deadline passes: a sweep expires the intent. -/
theorem expired_with_delivery :
    ∃ ts c, Run (backendService {}) deliverySetting ts c ∧
      (∃ intent, c.world.intents.get "I" = some intent ∧ intent.partialFills = true ∧ intent.state = .expired) ∧
      ∃ row ∈ c.world.fills.listByIntent "I", row.status = .filled := by
  obtain ⟨ts, c, run, ended⟩ := Run.exists_of_trace (backendService {}) deliverySetting partialIntentWorld
    (List.flatten [[.arrive (reserveHalf "A"), .arrive (deliverHalf "A" "F1"), .arrive .sweep],
      List.replicate 12 (.act 0 (bondedSolver "F1")), List.replicate 10 (.act 1 {}),
      [.drift (.tick 100000)], List.replicate 5 (.act 2 {})])
    (fun _ c => ((c.world.intents.get "I").any fun i => i.partialFills && i.state == .expired) &&
      (c.world.fills.listByIntent "I").any (·.status == .filled))
    partialIntentWorld_initial (by simp [deliverySetting, trancheRuns, reserveHalf, deliverHalf]) (by decide +kernel)
  rw [Bool.and_eq_true, List.any_eq_true] at ended
  obtain ⟨state, row, member, isFilled⟩ := ended
  obtain ⟨intent, present, isExpired⟩ := (Option.any_eq_true _ _).mp state
  rw [Bool.and_eq_true, beq_iff_eq] at isExpired
  exact ⟨ts, c, run, ⟨intent, present, isExpired⟩, row, member, beq_iff_eq.mp isFilled⟩

end VortexBackend
