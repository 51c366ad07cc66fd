/-
Module: VortexBackend.Proofs.ServiceCalls
Purpose: Which writes each method of the intents service can make. The rest of its calls is plain.
Main exports: BackendCall.Plain, AllowsPlain
-/
import VortexBackend.Proofs.BackendSteps

namespace VortexBackend

open Backend

open Async (calls_bind calls_attempt calls_tryCatch calls_pure calls_throwWhen)

/-- Calls that change no intent, no tranche, no pending slash and no creation, and submit no slash. -/
def BackendCall.Plain : BackendCall → Prop
  | .intents (.findById _) | .intents .findAll | .intents (.findByState _) | .intents (.findByUser _) => True
  | .fills (.findById _) | .fills (.listByIntent _) | .fills (.findExpiredReservations ..) => True
  | .slashes (.findByIntent _) => True
  | .intents _ | .fills _ | .slashes _ | .creation _ | .external (.slashSolver ..) => False
  | _ => True

/-- Plain calls may be made at any point. -/
class AllowsPlain (C : BackendCall → Prop) : Prop where
  plain : ∀ call, call.Plain → C call

variable {α : Type} {allows : List BackendExchange → BackendCall → Prop} {past : List BackendExchange}

theorem follows_respond {P : List BackendExchange → Prop} {wrap : α → BackendResponse} {x}
    (h : x.Follows allows (fun _ past' => P past') past) :
    (respond wrap x).Follows allows (fun _ past' => P past') past := by
  refine (Async.follows_bind _ _).mpr (Async.follows_mono ?_ h)
  rintro (e | value) past' holds <;> exact holds

/-- Whether the round trip to a store works. -/
def storeAnswered (answer : Except BackendError Unit) : BackendExchange := ⟨.external .storeAnswer, answer⟩

variable {Q : Except BackendError α → List BackendExchange → Prop}

section

variable {x : Backend α} (answers : ∀ past, allows past (.external .storeAnswer))
  (failed : ∀ e, Q (.error e) (storeAnswered (.error e) :: past))
include answers failed

theorem follows_fallible (work : x.Follows allows (Async.onOk (fun e past' => Q (.error e) past') fun value past' =>
      (∀ e, Q (.error e) (storeAnswered (.error e) :: past')) ∧ Q (.ok value) (storeAnswered (.ok ()) :: past'))
      (storeAnswered (.ok ()) :: past)) : (fallible x).Follows allows Q past := by
  refine .attempt_bind ⟨answers _, fun | .error e => failed e | .ok _ => ?_⟩
  refine .andThen work (fun _ _ done => done) fun value past' done => ?_
  exact .attempt_bind ⟨answers _, fun | .error e => done.1 e | .ok _ => done.2⟩

/-- A call of a store that may fail and what follows it: the store fails before it has done its work, or after, or
    answers. -/
theorem follows_fallible_bind {c} {f : BackendReply c → Backend α}
    (allowed : allows (storeAnswered (.ok ()) :: past) c)
    (lost : ∀ e reply, Q (.error e) (storeAnswered (.error e) :: ⟨c, reply⟩ :: storeAnswered (.ok ()) :: past))
    (rest : ∀ reply, (f reply).Follows allows Q
      (storeAnswered (.ok ()) :: ⟨c, reply⟩ :: storeAnswered (.ok ()) :: past)) :
    (fallible (Backend.call c) >>= f).Follows allows Q past := by
  apply (Async.follows_bind _ _).mpr
  refine follows_fallible answers (fun e => failed e) ?_
  exact ⟨allowed, fun reply => ⟨fun e => lost e reply, rest reply⟩⟩

theorem follows_slashes_bind {c} {f : c.Reply → Backend α}
    (allowed : allows (storeAnswered (.ok ()) :: past) (.slashes c))
    (lost :
      ∀ e reply, Q (.error e) (storeAnswered (.error e) :: ⟨.slashes c, reply⟩ :: storeAnswered (.ok ()) :: past))
    (rest : ∀ reply, (f reply).Follows allows Q
      (storeAnswered (.ok ()) :: ⟨.slashes c, reply⟩ :: storeAnswered (.ok ()) :: past)) :
    (slashes c >>= f).Follows allows Q past :=
  follows_fallible_bind answers failed allowed lost rest

end

namespace IntentsService

variable {cfg : BackendSettings} {C : BackendCall → Prop}

/-- A single call satisfies `C` when the call does. -/
theorem calls_one {call} (h : C call) : (Backend.call call).Calls C :=
  (Async.calls_call call).mpr h

variable [AllowsPlain C]

theorem calls_plain {call} (isPlain : call.Plain) : (Backend.call call).Calls C :=
  calls_one (AllowsPlain.plain call isPlain)

theorem calls_fallible {α : Type} {x : Backend α} (h : x.Calls C) : (fallible x).Calls C := by
  refine calls_bind (calls_attempt (calls_plain trivial)) fun _ => ?_
  refine calls_bind h fun _ => ?_
  exact calls_bind (calls_attempt (calls_plain trivial)) fun _ => calls_pure _

theorem calls_slashes {c : SlashCall} (h : C (.slashes c)) : (slashes c).Calls C :=
  calls_fallible (calls_one h)

theorem calls_nowSeconds : nowSeconds.Calls C :=
  calls_bind (calls_plain trivial) fun _ => calls_pure _

theorem calls_orNow (now : Option Nat) : (orNow now).Calls C := by
  cases now with
  | some now => trivial
  | none => exact calls_nowSeconds

omit [AllowsPlain C] in
theorem calls_plan (intentId : String) («from» «to» : IntentState) (ctx : TransitionContext) :
    (plan intentId «from» «to» ctx).Calls C := by
  unfold plan
  split <;> trivial

omit [AllowsPlain C] in
theorem calls_plan_bind {α : Type} {intentId «from» «to» ctx} {f : TransitionPlan → Backend α}
    (rest : ∀ p : TransitionPlan, p.from = «from» → p.to = «to» → legalPair «from» «to» = true →
      (f p).Calls C) :
    (plan intentId «from» «to» ctx >>= f).Calls C := by
  unfold plan
  split
  · rename_i p planned
    obtain ⟨isFrom, isTo, legal⟩ := transition_ok planned
    exact rest p isFrom isTo legal
  · trivial

theorem calls_recordTransition (p : TransitionPlan) (updated : Option Intent) :
    (recordTransition p updated).Calls C := by
  cases updated with
  | some intent => exact calls_plain trivial
  | none => trivial

omit [AllowsPlain C] in
theorem calls_recordOutcome (records : ∀ fill, C (.recordFill fill)) (intent : Intent) (outcome : SolverFillOutcome)
    (now : Nat) : (recordOutcome intent outcome now).Calls C := by
  unfold recordOutcome
  split
  · split
    · trivial
    · exact calls_one (records _)
  · trivial

theorem calls_recordWritten (updated : Option Intent) (outcome : SolverFillOutcome) (now : Nat) :
    (recordWritten cfg updated outcome now).Calls C := by
  unfold recordWritten
  split
  · split
    · exact calls_recordOutcome (fun _ => AllowsPlain.plain _ trivial) _ _ _
    · trivial
  · trivial

theorem calls_withFillRecord {outcome now mutate} (h : mutate.Calls C) :
    (withFillRecord cfg outcome now mutate).Calls C := by
  exact calls_bind h fun result => calls_bind (calls_recordWritten _ _ _) fun _ => calls_pure _

theorem calls_observe (id : String) (updated : Option Intent) : (observe id updated).Calls C := by
  refine calls_bind (calls_plain trivial) fun observes => ?_
  split
  · exact calls_bind (calls_plain trivial) fun _ => calls_pure _
  · trivial

/-! ### The writes -/

/-- The markers of a parked intent. -/
def parkPatch (op : PendingIntentOp) (txHash : Option String) : IntentPatch where
  pendingOp := some (some op)
  pendingTxHash := some txHash

variable {id : String} {op : PendingIntentOp} {ctx : ContextPatch}

theorem calls_transitionToOnChainPending {txHash}
    (park : ∀ «from» txHash, legalPair «from» (PENDING_STATE_BY_OP op) = true →
      C (.intents (.transitionIf id «from» (PENDING_STATE_BY_OP op) (parkPatch op txHash)))) :
    (transitionToOnChainPending id op txHash ctx).Calls C := by
  refine calls_bind (calls_plain trivial) fun stored => ?_
  cases stored with
  | none => trivial
  | some intent =>
    refine calls_plan_bind fun p isFrom isTo legal => ?_
    refine calls_bind (calls_one ?_) fun result => ?_
    · rw [isFrom, isTo]
      exact park _ _ legal
    · exact calls_bind (calls_recordTransition _ _) fun _ => calls_pure _

theorem calls_parkWithBroadcast {intent}
    (park : ∀ «from» txHash, legalPair «from» (PENDING_STATE_BY_OP op) = true →
      C (.intents (.transitionIf intent.intentId «from» (PENDING_STATE_BY_OP op) (parkPatch op txHash)))) :
    (parkWithBroadcast cfg intent op).Calls C := by
  refine calls_bind (calls_tryCatch ?_ fun _ => calls_pure _) fun txHash => ?_
  · refine calls_bind (calls_throwWhen _ _) fun _ => ?_
    exact calls_bind (calls_attempt (calls_plain trivial)) fun _ => calls_pure _
  · exact calls_bind (calls_transitionToOnChainPending park) fun _ => calls_pure _

theorem calls_parkIfOnchain {updated} (park : ∀ intent, updated = some intent → ∀ «from» txHash,
      legalPair «from» (PENDING_STATE_BY_OP op) = true →
      C (.intents (.transitionIf intent.intentId «from» (PENDING_STATE_BY_OP op) (parkPatch op txHash)))) :
    (parkIfOnchain cfg op updated).Calls C := by
  cases updated with
  | none => trivial
  | some intent =>
    refine calls_bind (calls_plain trivial) fun onchain => ?_
    cases onchain with
    | false => trivial
    | true => exact calls_bind (calls_parkWithBroadcast (park intent rfl)) fun _ => calls_pure _

theorem calls_confirmIntent
    (confirm : ∀ «from» «to» patch, legalPair «from» «to» = true → «from» ≠ .slashed →
      C (.intents (.transitionIf id «from» «to» patch))) : (confirmIntent id ctx).Calls C := by
  refine calls_bind (calls_plain trivial) fun stored => ?_
  cases stored with
  | none => trivial
  | some intent =>
    dsimp only
    split
    · trivial
    · rename_i confirmed isPending
      refine calls_plan_bind fun p isFrom _ legal => ?_
      refine calls_bind (calls_one ?_) fun result => ?_
      · rw [isFrom]
        refine confirm _ _ _ legal ?_
        intro isSlashed
        rw [isSlashed] at isPending
        cases isPending
      · exact calls_bind (calls_recordTransition _ _) fun _ => calls_pure _

variable {patch : IntentPatch} {now : Option Nat} {solver : String}

section

variable (park : ∀ id op «from» txHash, legalPair «from» (PENDING_STATE_BY_OP op) = true →
  C (.intents (.transitionIf id «from» (PENDING_STATE_BY_OP op) (parkPatch op txHash))))

include park

variable {id : String} {ctx : ContextPatch}

theorem calls_acceptIfOpen (accept : ∀ deadline now, C (.intents (.acceptIfOpen id solver deadline now))) :
    (acceptIfOpen cfg id solver now ctx).Calls C := by
  refine calls_bind (calls_plain trivial) fun stored => ?_
  cases stored with
  | none => trivial
  | some intent =>
    refine calls_bind (calls_orNow now) fun nowSec => ?_
    refine calls_bind (calls_plan _ _ _ _) fun p => ?_
    refine calls_bind (calls_one (accept _ _)) fun result => ?_
    refine calls_bind (calls_recordTransition _ _) fun _ => ?_
    refine calls_bind (calls_plain trivial) fun _ => ?_
    exact calls_parkIfOnchain fun _ _ => park _ _

theorem calls_fillIfAccepted (fill : ∀ now, C (.intents (.fillIfAccepted id solver patch now))) :
    (fillIfAccepted cfg id solver patch now ctx).Calls C := by
  refine calls_bind (calls_orNow now) fun nowSec => ?_
  refine calls_bind (calls_plan _ _ _ _) fun p => ?_
  refine calls_bind (calls_withFillRecord (calls_one (fill _))) fun updated => ?_
  refine calls_bind (calls_recordTransition _ _) fun _ => ?_
  refine calls_bind (calls_plain trivial) fun _ => ?_
  exact calls_parkIfOnchain fun _ _ => park _ _

theorem calls_cancelIfOpen (cancel : C (.intents (.cancelIfOpen id))) : (cancelIfOpen cfg id ctx).Calls C := by
  refine calls_bind (calls_plan _ _ _ _) fun p => ?_
  refine calls_bind (calls_one cancel) fun result => ?_
  refine calls_bind (calls_recordTransition _ _) fun _ => ?_
  refine calls_bind (calls_observe _ _) fun _ => ?_
  exact calls_parkIfOnchain fun _ _ => park _ _

end

theorem calls_expireIfOpen (expire : C (.intents (.expireIfOpen id))) : (expireIfOpen id ctx).Calls C := by
  refine calls_bind (calls_plan _ _ _ _) fun p => ?_
  refine calls_bind (calls_one expire) fun result => ?_
  refine calls_bind (calls_recordTransition _ _) fun _ => ?_
  exact calls_bind (calls_observe _ _) fun _ => calls_pure _

theorem calls_slashIfAccepted {slashedAt slashReason}
    (slash : C (.intents (.slashIfAccepted id slashedAt slashReason))) :
    (slashIfAccepted cfg id slashedAt slashReason ctx).Calls C := by
  refine calls_bind (calls_plan _ _ _ _) fun p => ?_
  refine calls_bind (calls_withFillRecord (calls_one slash)) fun updated => ?_
  refine calls_bind (calls_recordTransition _ _) fun _ => ?_
  exact calls_bind (calls_observe _ _) fun _ => calls_pure _

theorem calls_settlePartialFill {now} (accept : ∀ deadline, C (.intents (.acceptIfOpen id solver deadline now)))
    (fill : C (.intents (.fillIfAccepted id solver patch now))) :
    (settlePartialFill cfg id solver patch now).Calls C := by
  refine calls_bind (calls_plain trivial) fun stored => ?_
  cases stored with
  | none => trivial
  | some intent =>
    refine calls_bind (calls_one (accept _)) fun accepted => ?_
    split
    · trivial
    · exact calls_bind (calls_one fill) fun _ => calls_pure _

omit [AllowsPlain C] in
theorem calls_recordCompensation (records : ∀ fill, C (.recordFill fill)) (intent updated : Intent)
    («to» : Compensation) (now : Nat) : (recordCompensation cfg intent updated «to» now).Calls C := by
  unfold recordCompensation
  split
  · trivial
  · refine calls_bind (calls_recordOutcome records _ _ _) fun _ => ?_
    split
    · exact calls_recordOutcome records _ _ _
    · trivial

theorem calls_compensateSlash {«to» : Compensation} {ctx : TransitionContext}
    (compensate : C (.intents (.transitionIf id .slashed «to».state patch))) :
    (compensateSlash cfg id «to» ctx patch now).Calls C := by
  refine calls_bind (calls_orNow now) fun nowSec => ?_
  refine calls_bind (calls_plain trivial) fun stored => ?_
  cases stored with
  | none => trivial
  | some intent =>
    dsimp only
    split
    · trivial
    · refine calls_bind (calls_plan _ _ _ _) fun p => ?_
      refine calls_bind (calls_one compensate) fun result => ?_
      split
      · trivial
      · refine calls_bind (calls_recordCompensation (fun _ => AllowsPlain.plain _ trivial) _ _ _ _) fun _ => ?_
        exact calls_bind (calls_recordTransition _ _) fun _ => calls_pure _

end IntentsService

namespace SolversService

open IntentsService (calls_fallible calls_plain)

variable {C : BackendCall → Prop} [AllowsPlain C]

theorem calls_countFailure (address : String) (change : Nat → Nat) : (countFailure address change).Calls C := by
  refine calls_bind (calls_fallible (calls_plain trivial)) fun solver => ?_
  cases solver with
  | none => trivial
  | some fillsFailed =>
    exact calls_bind (calls_fallible (calls_plain trivial)) fun _ => calls_pure _

theorem calls_recordFailedFill (address intentId : String) : (recordFailedFill address intentId).Calls C := by
  refine calls_bind (calls_countFailure _ _) fun counted => ?_
  cases counted with
  | false => trivial
  | true => exact calls_plain trivial

theorem calls_rollbackPenalty (intentId solverAddress : String) : (rollbackPenalty intentId solverAddress).Calls C := by
  refine calls_bind (calls_plain trivial) fun penalty => ?_
  cases penalty with
  | none =>
    dsimp only
    split
    · trivial
    · exact calls_bind (calls_countFailure _ _) fun _ => calls_pure _
  | some penalty =>
    dsimp only
    split
    · trivial
    · refine calls_bind (calls_countFailure _ _) fun counted => ?_
      cases counted with
      | false => trivial
      | true => exact calls_plain trivial

end SolversService

end VortexBackend
