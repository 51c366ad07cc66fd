/-
Module: VortexBackend.Proofs.IntentLifecycle
Purpose: Stored states move along the transition table, with at most one terminal decision.
Main exports: lifecycle_is_legal
-/
import VortexBackend.Proofs.ServiceCalls

namespace VortexBackend

open IntentsService

/-! ### Vocabulary -/

/-- The states of an intent before and after a step that changes it. -/
def stateChange (id : String) (t : BackendTransition) : Option (IntentState × IntentState) :=
  match t.before.world.intents.get id, t.after.world.intents.get id with
  | some b, some a => if b.state = a.state then none else some (b.state, a.state)
  | _, _ => none

/-- A call of `compensateSlash`. -/
def BackendRequest.isCompensation : BackendRequest → Bool
  | .compensateSlash .. => true
  | _ => false

/-- A call of one of the nine lifecycle methods. -/
def BackendRequest.isLifecycle : BackendRequest → Bool
  | .acceptIfOpen .. | .fillIfAccepted .. | .cancelIfOpen .. | .expireIfOpen .. | .slashIfAccepted ..
  | .settlePartialFill .. | .transitionToOnChainPending .. | .confirmIntent .. | .compensateSlash .. => true
  | _ => false

/-- Any stored intents, and any calls of the nine methods. -/
def lifecycleSetting : BackendSetting where
  initial _ := True
  admits request := request.isLifecycle = true

/-- The terminal decisions about an intent. -/
def isDecision (change : IntentState × IntentState) : Bool :=
  [(.accepted, .filled), (.accepted, .slashed), (.open, .cancelled), (.open, .expired)].contains change

/-- The exits from `slashed`. -/
def leavesSlashed (change : IntentState × IntentState) : Bool := change.1 == .slashed

/-! ### What the methods may call -/

/-- The writes of the nine methods: guarded edges of the table, and `slashed` is left by a compensation. -/
def LifecycleCall (request : BackendRequest) : BackendCall → Prop
  | .intents (.save _) | .intents (.update ..) | .intents (.delete _) => False
  | .intents (.transitionIf _ «from» «to» _) =>
    legalPair «from» «to» = true ∧ («from» = .slashed → request.isCompensation = true)
  | _ => True

def lifecycleDiscipline : BackendDiscipline where
  allows request _ call := LifecycleCall request call

instance (request : BackendRequest) : AllowsPlain (LifecycleCall request) := by
  refine ⟨fun call isPlain => ?_⟩
  cases call with
  | intents c => cases c <;> trivial
  | _ => trivial

theorem slashed_not_parked (op : PendingIntentOp) : legalPair .slashed (PENDING_STATE_BY_OP op) = false := by
  cases op <;> rfl

theorem lifecycle_park (request : BackendRequest) (id : String) (op : PendingIntentOp) («from» : IntentState)
    (patch : IntentPatch) (legal : legalPair «from» (PENDING_STATE_BY_OP op) = true) :
    LifecycleCall request (.intents (.transitionIf id «from» (PENDING_STATE_BY_OP op) patch)) := by
  refine ⟨legal, ?_⟩
  rintro rfl
  rw [slashed_not_parked] at legal
  cases legal

variable {request : BackendRequest}

theorem lifecycle_compensate (compensates : request.isCompensation = true) (id : String) («to» : Compensation)
    (patch : IntentPatch) : LifecycleCall request (.intents (.transitionIf id .slashed «to».state patch)) := by
  refine ⟨?_, fun _ => compensates⟩
  cases «to» <;> rfl

theorem follows_of_lifecycle {α : Type} {wrap : α → BackendResponse} {x} (h : x.Calls (LifecycleCall request)) :
    (respond wrap x).Follows (fun _ => LifecycleCall request) (fun _ _ => True) [] :=
  follows_respond (Async.follows_of_calls h (fun _ _ _ h => h) fun _ _ _ => trivial)

theorem lifecycle_followed (cfg : BackendSettings) :
    lifecycleDiscipline.Followed (backendService cfg) lifecycleSetting := by
  intro request admitted
  have park (id : String) (op : PendingIntentOp) («from» : IntentState) (txHash : Option String) :=
    lifecycle_park request id op «from» (parkPatch op txHash)
  cases request with
  | acceptIfOpen id solver now ctx =>
    exact follows_of_lifecycle (calls_acceptIfOpen park fun _ _ => trivial)
  | fillIfAccepted id solver patch now ctx =>
    exact follows_of_lifecycle (calls_fillIfAccepted park fun _ => trivial)
  | cancelIfOpen id ctx => exact follows_of_lifecycle (calls_cancelIfOpen park trivial)
  | expireIfOpen id ctx => exact follows_of_lifecycle (calls_expireIfOpen trivial)
  | slashIfAccepted id slashedAt slashReason ctx =>
    exact follows_of_lifecycle (calls_slashIfAccepted trivial)
  | settlePartialFill id solver patch now =>
    exact follows_of_lifecycle (calls_settlePartialFill (fun _ => trivial) trivial)
  | transitionToOnChainPending id op txHash ctx =>
    exact follows_of_lifecycle (calls_transitionToOnChainPending (park id op))
  | confirmIntent id ctx =>
    refine follows_of_lifecycle (calls_confirmIntent fun «from» «to» patch legal other => ?_)
    exact ⟨legal, fun isSlashed => absurd isSlashed other⟩
  | compensateSlash id «to» ctx patch now =>
    exact follows_of_lifecycle (calls_compensateSlash (lifecycle_compensate rfl id «to» patch))
  | _ => cases admitted

/-! ### One step -/

theorem writes_legal {c existing updated} (allowed : LifecycleCall request (.intents c)) {clock}
    (writes : c.Writes clock existing updated) (changed : existing.state ≠ updated.state) :
    legalPair existing.state updated.state = true ∧
      (existing.state = .slashed → request.isCompensation = true) := by
  cases c with
  | update | save => cases allowed
  | findById | findAll | findByState | findByUser | delete => cases writes
  | amendIfOpen id minDstAmount deadline now =>
    obtain ⟨_, _, _, _, rfl⟩ := writes
    exact absurd rfl changed
  | extendDeadlineIfAccepted id newDeadline =>
    obtain ⟨_, _, _, rfl⟩ := writes
    exact absurd rfl changed
  | transitionIf id «from» «to» patch =>
    obtain ⟨_, rfl, rfl⟩ := writes
    exact allowed
  | acceptIfOpen id solver newDeadline now =>
    obtain ⟨_, isOpen, _, rfl⟩ := writes
    rw [isOpen]
    exact ⟨rfl, nofun⟩
  | fillIfAccepted id solver patch now =>
    obtain ⟨_, isAccepted, _, _, rfl⟩ := writes
    rw [isAccepted]
    exact ⟨rfl, nofun⟩
  | cancelIfOpen id | expireIfOpen id =>
    obtain ⟨_, isOpen, rfl⟩ := writes
    rw [isOpen]
    exact ⟨rfl, nofun⟩
  | slashIfAccepted id slashedAt slashReason =>
    obtain ⟨_, isAccepted, rfl⟩ := writes
    rw [isAccepted]
    exact ⟨rfl, nofun⟩

variable {id : String} {e : BackendEvent}

/-- What a step does to one intent: it keeps the state, or moves it along the table; it never removes the
    intent. -/
theorem intent_step {cfg v v' b} (step : Run.Allowed (backendService cfg) lifecycleSetting lifecycleDiscipline v e v')
    (present : v.world.intents.get id = some b) :
    ∃ a, v'.world.intents.get id = some a ∧ (b.state ≠ a.state →
      legalPair b.state a.state = true ∧ (b.state = .slashed → e.actor.request.isCompensation = true)) := by
  obtain ⟨⟨⟨choice, w, performed, rfl⟩, _⟩, allowed, _⟩ := step
  rcases perform_intents_cases performed with
    ⟨_, same⟩ | ⟨key, isDelete, _⟩ | ⟨c, updated, isCall, _, stored, how⟩
  · exact ⟨b, by rwa [View.after_world, same], fun changed => absurd rfl changed⟩
  · rw [isDelete] at allowed
    cases allowed
  · have isAllowed : LifecycleCall e.actor.request (.intents c) := isCall ▸ allowed
    rw [View.after_world, stored]
    by_cases isId : id = updated.intentId
    · subst isId
      rcases how with rfl | ⟨existing, found, writes⟩
      · cases isAllowed
      · rw [present] at found
        cases found
        exact ⟨updated, by rw [IntentStore.get_put, if_pos rfl], writes_legal isAllowed writes⟩
    · exact ⟨b, by rwa [IntentStore.get_put, if_neg isId], fun changed => absurd rfl changed⟩

/-! ### Sets of states that no edge leaves -/

/-- After a terminal decision. -/
def isDecided : IntentState → Bool
  | .filled | .cancelled | .expired | .slashed | .pendingFilled | .pendingCancelled => true
  | .open | .accepted | .pendingOpen | .pendingAccepted => false

/-- After a compensation. -/
def isCompensated : IntentState → Bool
  | .filled | .expired | .pendingFilled => true
  | _ => false

section

variable («from» «to» : IntentState)
include «from» «to»

theorem isDecided_closed (legal : legalPair «from» «to» = true) (decided : isDecided «from» = true) :
    isDecided «to» = true := by
  revert legal decided
  cases «from» <;> cases «to» <;> decide

theorem isCompensated_closed (legal : legalPair «from» «to» = true) (compensated : isCompensated «from» = true) :
    isCompensated «to» = true := by
  revert legal compensated
  cases «from» <;> cases «to» <;> decide

theorem isDecision_enters (decision : isDecision («from», «to») = true) :
    isDecided «from» = false ∧ isDecided «to» = true := by
  revert decision
  cases «from» <;> cases «to» <;> decide

theorem leavesSlashed_enters (legal : legalPair «from» «to» = true)
    (exits : leavesSlashed («from», «to») = true) :
    isCompensated «from» = false ∧ isCompensated «to» = true := by
  revert legal exits
  cases «from» <;> cases «to» <;> decide

end

/-! ### Whole runs -/

section Runs

variable {cfg : BackendSettings} {ts : List BackendTransition}
  {c : BackendConfig}

/-- The changes of an intent's state along a run, newest first. -/
def stateChanges (id : String) (ts : List BackendTransition) : List (IntentState × IntentState) :=
  ts.filterMap (stateChange id)

variable {t : BackendTransition}

theorem stateChange_quiet (same : t.after.world.intents = t.before.world.intents) : stateChange id t = none := by
  unfold stateChange
  rw [same]
  split
  · rename_i b a isB isA
    rw [isB] at isA
    cases isA
    exact if_pos rfl
  · rfl

/-- A legal change, and `slashed` is left by a compensation. -/
def LegalChange (t : BackendTransition) («from» «to» : IntentState) : Prop :=
  legalPair «from» «to» = true ∧ («from» = .slashed →
    ∃ e, t.event = some e ∧ e.actor.request.isCompensation = true)

theorem stateChange_call (isEvent : t.event = some e)
    (step : Run.Allowed (backendService cfg) lifecycleSetting lifecycleDiscipline t.before.view e t.after.view)
    {«from» «to»} (change : stateChange id t = some («from», «to»)) : LegalChange t «from» «to» := by
  unfold stateChange at change
  split at change
  · rename_i b a isB isA
    obtain ⟨differs, ⟨⟩⟩ := Option.ite_none_left_eq_some.mp change
    obtain ⟨a', isA', legal⟩ := intent_step step isB
    cases isA.symm.trans isA'
    exact ⟨(legal differs).1, fun isSlashed => ⟨e, isEvent, (legal differs).2 isSlashed⟩⟩
  · cases change

theorem stateChange_legal (run : Run (backendService cfg) lifecycleSetting ts c) (id : String) :
    ∀ t ∈ ts, ∀ «from» «to», stateChange id t = some («from», «to») →
      LegalChange t «from» «to» := by
  refine Run.induct (P := fun ts _ => ∀ t ∈ ts, ∀ «from» «to», stateChange id t = some («from», «to») →
    LegalChange t «from» «to») (lifecycle_followed cfg) ?_ ?_ ?_ run
  · intro w _ t member
    cases member
  · intro ts t ih _ _ moved
    have same : t.after.world.intents = t.before.world.intents := intents_quiet moved
    refine List.forall_mem_cons.mpr ⟨fun «from» «to» change => ?_, ih⟩
    rw [stateChange_quiet same] at change
    cases change
  · intro ts t e ih isEvent step
    exact List.forall_mem_cons.mpr ⟨fun _ _ change => stateChange_call isEvent step change, ih⟩

/-- Changes that enter a set which no edge leaves, from outside of it, happen at most once. -/
theorem at_most_once {inside : IntentState → Bool} {enters : IntentState × IntentState → Bool}
    (closed : ∀ «from» «to», legalPair «from» «to» = true → inside «from» = true → inside «to» = true)
    (crosses : ∀ «from» «to», legalPair «from» «to» = true → enters («from», «to») = true →
      inside «from» = false ∧ inside «to» = true) (run : Run (backendService cfg) lifecycleSetting ts c)
        (id : String) :
    (stateChanges id ts).countP enters ≤ 1 ∧ (0 < (stateChanges id ts).countP enters →
      ∃ i, c.world.intents.get id = some i ∧ inside i.state = true) := by
  refine Run.induct (P := fun ts c => (stateChanges id ts).countP enters ≤ 1 ∧
    (0 < (stateChanges id ts).countP enters →
      ∃ i, c.world.intents.get id = some i ∧ inside i.state = true)) (lifecycle_followed cfg) ?_ ?_ ?_ run
  · intro w _
    exact ⟨Nat.zero_le _, fun h => absurd h (Nat.lt_irrefl _)⟩
  · intro ts t ih _ _ moved
    have same : t.after.world.intents = t.before.world.intents := intents_quiet moved
    rw [stateChanges, List.filterMap_cons_none (stateChange_quiet same), same]
    exact ih
  · intro ts t e ih _ step
    cases isB : t.before.world.intents.get id with
    | none =>
      -- The intent was not there, so nothing has happened to it and nothing happens now.
      have none' : stateChange id t = none := by rw [stateChange, isB]
      rw [stateChanges, List.filterMap_cons_none none']
      refine ⟨ih.1, fun happened => ?_⟩
      obtain ⟨i, present, _⟩ := ih.2 happened
      rw [isB] at present
      cases present
    | some b =>
      obtain ⟨a, isA, legal⟩ := intent_step step isB
      have isA' : t.after.world.intents.get id = some a := isA
      have already (happened : 0 < (stateChanges id ts).countP enters) : inside b.state = true := by
        obtain ⟨i, present, isInside⟩ := ih.2 happened
        rw [isB] at present
        cases present
        exact isInside
      by_cases same : b.state = a.state
      · have none' : stateChange id t = none := by simp only [stateChange, isB, isA', if_pos same]
        rw [stateChanges, List.filterMap_cons_none none']
        exact ⟨ih.1, fun happened => ⟨a, isA', same ▸ already happened⟩⟩
      · have some' : stateChange id t = some (b.state, a.state) := by
          simp only [stateChange, isB, isA', if_neg same]
        rw [stateChanges, List.filterMap_cons_some some', List.countP_cons]
        cases crossing : enters (b.state, a.state) with
        | true =>
          obtain ⟨outside, nowInside⟩ := crosses _ _ (legal same).1 crossing
          -- Had it happened before, the state would be inside already.
          have never : (stateChanges id ts).countP enters = 0 := by
            by_contra happened
            cases outside.symm.trans (already (Nat.pos_of_ne_zero happened))
          unfold stateChanges at never
          rw [never]
          exact ⟨le_rfl, fun _ => ⟨a, isA', nowInside⟩⟩
        | false =>
          exact ⟨ih.1, fun happened => ⟨a, isA', closed _ _ (legal same).1 (already happened)⟩⟩

/-- For any interleaving of the nine lifecycle methods, and for every intent: each change of its stored state
    is a pair of the table; it leaves `slashed` only in a call of `compensateSlash`, and at most once; and at
    most one terminal decision is taken about it. -/
theorem lifecycle_is_legal (run : Run (backendService cfg) lifecycleSetting ts c) (id : String) :
    (∀ t ∈ ts, ∀ «from» «to», stateChange id t = some («from», «to») →
      LegalChange t «from» «to») ∧
    (stateChanges id ts).countP leavesSlashed ≤ 1 ∧ (stateChanges id ts).countP isDecision ≤ 1 := by
  refine ⟨stateChange_legal run id, ?_, ?_⟩
  · exact (at_most_once isCompensated_closed leavesSlashed_enters run id).1
  · exact (at_most_once isDecided_closed (fun «from» «to» _ => isDecision_enters «from» «to») run id).1

end Runs

/-- A stored intent that is open. -/
def openIntent : Intent where
  intentId := "I"
  user := "U"
  srcChain := .base
  srcToken := ⟨"T", "USDC", 6⟩
  srcAmount := "100"
  dstToken := ⟨"D", "USDC", 7⟩
  minDstAmount := "90"
  createdAt := 0
  deadline := 1000

/-- One accept, one slash and one compensation, one after the other. -/
def lifecycleMoves : List BackendMove :=
  ([.arrive (.acceptIfOpen "I" "S" (some 1) {}), .arrive (.slashIfAccepted "I" 700 "late" {}),
    .arrive (.compensateSlash "I" .filled { actor := "system" } {} none)] : List BackendMove) ++
  (List.replicate 5 (.act 0 {}) : List BackendMove) ++ (List.replicate 3 (.act 1 {}) : List BackendMove) ++
  (List.replicate 4 (.act 2 {}) : List BackendMove)

theorem accepted_slashed_compensated :
    ∃ ts c, Run (backendService {}) lifecycleSetting ts c ∧
      stateChanges "I" ts = [(.slashed, .filled), (.accepted, .slashed), (.open, .accepted)] ∧
      (stateChanges "I" ts).countP leavesSlashed ≤ 1 ∧ (stateChanges "I" ts).countP isDecision ≤ 1 := by
  obtain ⟨ts, c, run, changes⟩ := Run.exists_of_trace (backendService {}) lifecycleSetting
    { intents := IntentStore.empty.put openIntent } lifecycleMoves
    (fun ts _ => stateChanges "I" ts == [(.slashed, .filled), (.accepted, .slashed), (.open, .accepted)])
    trivial (by simp [lifecycleMoves, lifecycleSetting, BackendRequest.isLifecycle]) (by decide)
  exact ⟨ts, c, run, beq_iff_eq.mp changes, (lifecycle_is_legal run "I").2⟩

end VortexBackend
