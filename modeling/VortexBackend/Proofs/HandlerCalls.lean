/-
Module: VortexBackend.Proofs.HandlerCalls
Purpose: The handlers and the passes of the sweeper write with the knowledge that `Knows` names.
Main exports: Informed.accept, Informed.fill, Informed.sweep
-/
import VortexBackend.Proofs.HandlerKnowledge

namespace VortexBackend

open PartialFillService IntentsController IntentsService IntentsSweeper Async Informed FillsRepository MutationResult
open Async (calls_bind calls_attempt calls_tryCatch calls_pure calls_throwWhen calls_onEachWith calls_tryFinally)
open IntentsService (calls_plain calls_one calls_nowSeconds calls_expireIfOpen calls_slashIfAccepted
  calls_parkIfOnchain calls_recordTransition calls_observe calls_orNow calls_plan calls_withFillRecord
  calls_recordWritten)

/-! ### Checks that only read -/

section Checks

variable {cfg : BackendSettings} {C : BackendCall → Prop}

theorem calls_bigInt {α : Type} (value : Option α) : (Backend.bigInt value).Calls C := by
  cases value <;> trivial

theorem calls_details (listing : ∀ id, C (.fills (.listByIntent id))) (intent : Intent) :
    (details intent).Calls C := by
  refine calls_bind (calls_one (listing _)) fun rows => ?_
  exact calls_bind (calls_bigInt _) fun _ => calls_pure _

theorem calls_withProgress (listing : ∀ id, C (.fills (.listByIntent id))) (intent : Intent) :
    (withProgress intent).Calls C := by
  unfold withProgress
  split
  · trivial
  · exact calls_bind (calls_details listing intent) fun _ => calls_pure _

theorem calls_deliveryCheck {user contract minDstAmount fresh}
    (asks : C (.external (.checkDestination user contract minDstAmount fresh))) :
    (assertDeliverable cfg user contract minDstAmount fresh).Calls C := by
  unfold assertDeliverable
  split
  · trivial
  · refine calls_bind (calls_attempt (calls_one asks)) fun failure => ?_
    split <;> trivial

variable [AllowsPlain C]

theorem calls_signatureCheck (publicKey message signature : String) :
    (verifyStellarSignature publicKey message signature).Calls C :=
  calls_attempt (calls_plain trivial)

theorem calls_eligibilityCheck (intent : Intent) (address pairing : String) :
    (assertSolverEligible cfg intent address pairing).Calls C := by
  refine calls_bind (calls_attempt (calls_plain trivial)) fun solver => ?_
  split
  · trivial
  · refine calls_bind (calls_bigInt _) fun bond => ?_
    refine calls_bind (calls_throwWhen _ _) fun _ => ?_
    refine calls_bind (calls_plain trivial) fun suspended => ?_
    exact calls_bind (calls_throwWhen _ _) fun _ => calls_throwWhen _ _

end Checks

namespace Informed

variable {cfg : BackendSettings} {α : Type} {past : List BackendExchange}

/-! ### Functions that need no knowledge -/

theorem calls_audit (id : String) (state : IntentState) (actor reason : String) :
    (appendAuditEntry id state actor reason).Calls (AnyTime cfg) :=
  calls_plain trivial

theorem calls_assertDestinationStillDeliverable (intent : Intent) :
    (assertDestinationStillDeliverable cfg intent).Calls (AnyTime cfg) := by
  unfold assertDestinationStillDeliverable
  split
  · trivial
  · refine calls_bind (calls_attempt (calls_plain trivial)) fun failure => ?_
    split
    · trivial
    · refine calls_bind (calls_audit _ _ _ _) fun _ => ?_
      exact calls_bind (calls_attempt (calls_plain trivial)) fun _ => trivial

theorem calls_acceptRefused (id : String) : (acceptRefused id).Calls (AnyTime cfg) := by
  refine calls_bind (calls_plain trivial) fun current => ?_
  split
  · trivial
  · refine calls_bind (calls_nowSeconds) fun now => ?_
    exact calls_bind (calls_throwWhen _ _) fun _ => trivial

theorem calls_fillRefused (id solver : String) : (fillRefused id solver).Calls (AnyTime cfg) := by
  refine calls_bind (calls_plain trivial) fun current => ?_
  exact calls_bind (calls_throwWhen _ _) fun _ => trivial

theorem calls_cancelRefused (id : String) : (cancelRefused id).Calls (AnyTime cfg) :=
  calls_bind (calls_plain trivial) fun _ => trivial

variable {key id solver : String} {intent : Intent} {ctx : IntentsService.ContextPatch} {now : Nat}

theorem calls_withLock {body : Backend α} (h : body.Calls (AnyTime cfg)) :
    (withLock key body).Calls (AnyTime cfg) := by
  refine calls_bind (calls_one fun _ => trivial) fun ticket => ?_
  refine calls_bind (calls_one fun _ => trivial) fun _ => ?_
  exact calls_tryFinally h (calls_one fun _ => trivial)

theorem calls_markSlashed (fillId : String) (now : Nat) : (markSlashed fillId now).Calls (AnyTime cfg) := by
  refine calls_bind (calls_plain trivial) fun known => ?_
  split
  · trivial
  · exact calls_withLock (calls_one fun _ => trivial)

theorem calls_recordTrancheSlash (fill : IntentFill) (now : Nat) :
    (recordTrancheSlash cfg fill now).Calls (AnyTime cfg) := by
  refine calls_bind (SolversService.calls_recordFailedFill _ _) fun _ => ?_
  refine calls_bind (calls_attempt (calls_plain trivial)) fun _ => ?_
  split
  · exact calls_bind (calls_attempt (calls_one fun _ => trivial)) fun _ => calls_pure _
  · trivial

theorem calls_penalise (fill : IntentFill) (now : Nat) : (penalise cfg fill now).Calls (AnyTime cfg) := by
  refine calls_bind (calls_audit _ _ _ _) fun _ => ?_
  refine calls_bind (calls_tryCatch (calls_recordTrancheSlash fill now) fun _ => calls_pure _) fun _ => ?_
  refine calls_bind (calls_plain trivial) fun rows => ?_
  refine calls_bind (calls_plain trivial) fun stored => ?_
  refine calls_bind ?_ fun _ => calls_attempt (calls_plain trivial)
  unfold progressOf
  split
  · exact calls_bind (calls_bigInt _) fun _ => calls_pure _
  · trivial

theorem calls_slashExpiredReservations (now : Nat) (intentId : Option String) :
    (slashExpiredReservations cfg now intentId).Calls (AnyTime cfg) := by
  have candidate (slashed : Nat) (fill : IntentFill) :
      (slashCandidate cfg now slashed fill).Calls (AnyTime cfg) := by
    refine calls_bind (calls_markSlashed _ _) fun marked => ?_
    split
    · trivial
    · exact calls_bind (calls_penalise _ _) fun _ => calls_pure _
  unfold slashExpiredReservations
  split
  · refine calls_bind (calls_plain trivial) fun rows => ?_
    exact calls_onEachWith fun slashed fill _ => candidate slashed fill
  · refine calls_bind (calls_plain trivial) fun rows => ?_
    exact calls_onEachWith fun slashed fill _ => candidate slashed fill

theorem calls_slashTranches (intent : Intent) (now : Nat) : (slashTranches cfg intent now).Calls (AnyTime cfg) := by
  unfold slashTranches
  split
  · exact calls_bind (calls_slashExpiredReservations _ _) fun _ => calls_pure _
  · trivial

/-! ### First steps of a handler -/

theorem loadIntent_bind {f : Intent → Backend α}
    (rest : ∀ intent, Informed cfg [⟨.intents (.findById id), some intent⟩] (f intent)) :
    Informed cfg [] (loadIntent id >>= f) := by
  refine (follows_bind _ _).mpr (.call_bind trivial fun stored => ?_)
  cases stored with
  | none => trivial
  | some intent => exact rest intent

theorem assertIntentNotPaused_bind {operation} {f : Unit → Backend α}
    (rest : ∀ k : KillSwitch, Informed cfg (⟨.killSwitch, k⟩ :: past) (f ())) :
    Informed cfg past (assertIntentNotPaused intent operation >>= f) := by
  refine (follows_bind _ _).mpr (.call_bind trivial fun k => ?_)
  split
  · exact rest k
  · trivial

/-! ### The lifecycle writes -/

theorem plan_bind {«from» «to» ctx} {f : TransitionPlan → Backend α}
    (rest : ∀ p : TransitionPlan, p.from = «from» → p.to = «to» → legalPair «from» «to» = true →
      Informed cfg past (f p)) : Informed cfg past (plan id «from» «to» ctx >>= f) := by
  unfold plan
  split
  · rename_i p planned
    obtain ⟨isFrom, isTo, legal⟩ := transition_ok planned
    exact rest p isFrom isTo legal
  · trivial

theorem transitionToOnChainPending {op txHash} (committed : Committed past id op) :
    Informed cfg past (transitionToOnChainPending id op txHash ctx) := by
  refine call_bind trivial fun stored => ?_
  cases stored with
  | none => trivial
  | some intent =>
    refine plan_bind fun p isFrom isTo legal => ?_
    refine call_bind ⟨op, txHash, isTo, rfl, ?_, committed.mono (List.suffix_cons _ _)⟩ fun result => ?_
    · rw [isFrom, isTo]
      exact legal
    · exact free_bind (calls_recordTransition _ _) fun _ _ _ => trivial

/-- A write that was committed is parked while the chain write is in flight. -/
theorem parkIfOnchain {op updated}
    (committed : ∀ intent, updated = some intent → Committed past intent.intentId op) :
    Informed cfg past (parkIfOnchain cfg op updated) := by
  cases updated with
  | none => trivial
  | some intent =>
    refine free_bind (calls_plain trivial) fun onchain past₁ longer₁ => ?_
    cases onchain with
    | false => trivial
    | true =>
      refine bind (free_bind (calls_tryCatch ?_ fun _ => calls_pure _) fun txHash past₂ longer₂ => ?_)
        fun _ _ _ => trivial
      · refine calls_bind (calls_throwWhen _ _) fun _ => ?_
        exact calls_bind (calls_attempt (calls_plain trivial)) fun _ => calls_pure _
      · have longer := longer₁.trans longer₂
        exact bind (transitionToOnChainPending ((committed intent rfl).mono longer)) fun _ _ _ => trivial

theorem expireIfOpen (overdue : Overdue past id) : Informed cfg past (expireIfOpen id ctx) := by
  refine plan_bind fun p _ _ _ => ?_
  refine call_bind overdue fun result => ?_
  refine free_bind (calls_recordTransition _ _) fun _ _ _ => ?_
  exact free_bind (calls_observe _ _) fun _ _ _ => trivial

theorem slashIfAccepted {slashedAt slashReason} (missed : Missed past id slashedAt) :
    Informed cfg past (slashIfAccepted cfg id slashedAt slashReason ctx) := by
  refine plan_bind fun p _ _ _ => ?_
  refine bind (call_bind missed fun result => ?_) fun updated _ _ => ?_
  · exact free_bind (calls_recordWritten _ _ _) fun _ _ _ => trivial
  · refine free_bind (calls_recordTransition _ _) fun _ _ _ => ?_
    exact free_bind (calls_observe _ _) fun _ _ _ => trivial

theorem cancelIfOpen (known : Knows cfg past (.intents (.cancelIfOpen id))) :
    Informed cfg past (cancelIfOpen cfg id ctx) := by
  refine plan_bind fun p _ _ _ => ?_
  refine call_bind known fun result => ?_
  refine free_bind (calls_recordTransition _ _) fun _ past₁ longer₁ => ?_
  refine free_bind (calls_observe _ _) fun _ past₂ longer₂ => ?_
  refine parkIfOnchain fun intent written => ?_
  cases toOption_eq_some.mp written
  exact ⟨id, intent, rfl, (longer₁.trans longer₂).mem (.head _)⟩

theorem acceptIfOpen {now} (whole : LoadedWhole past id) : Informed cfg past (acceptIfOpen cfg id solver now ctx) := by
  refine call_bind trivial fun stored => ?_
  split
  · trivial
  · refine free_bind (calls_orNow now) fun nowSec past₁ longer₁ => ?_
    refine plan_bind fun p _ _ _ => ?_
    have whole₁ := whole.mono ((List.suffix_cons _ _).trans longer₁)
    refine call_bind (.inl whole₁) fun result => ?_
    refine free_bind (calls_recordTransition _ _) fun _ past₂ longer₂ => ?_
    refine free_bind (calls_plain trivial) fun _ past₃ longer₃ => ?_
    refine parkIfOnchain fun intent written => ?_
    cases toOption_eq_some.mp written
    have longer := longer₂.trans longer₃
    exact ⟨id, solver, _, nowSec, intent, rfl, whole₁.mono ((List.suffix_cons _ _).trans longer),
      longer.mem (.head _)⟩

theorem fillIfAccepted {patch now} (report : FillReport past id patch) :
    Informed cfg past (fillIfAccepted cfg id solver patch now ctx) := by
  refine free_bind (calls_orNow now) fun nowSec past₁ longer₁ => ?_
  refine plan_bind fun p _ _ _ => ?_
  have report₁ := report.mono longer₁
  refine bind_of (P := fun updated past' => ∀ intent, updated = some intent → Committed past' intent.intentId .fill)
    ⟨.inl report₁, fun result => ?_⟩ fun updated past₂ longer₂ committed => ?_
  · -- The ledger row comes between the write and its result.
    refine follows_bind_of (P := fun _ _ => True) (follows_of_calls
      (calls_recordWritten (C := AnyTime cfg) _ _ _) (fun _ _ _ anyTime => anyTime _) ?_) ?_
    · intro outcome _ _
      cases outcome <;> trivial
    · intro _ past' longer _ intent written
      cases toOption_eq_some.mp written
      exact ⟨id, solver, patch, nowSec, intent, rfl, report₁.whole.mono ((List.suffix_cons _ _).trans longer),
        longer.mem (.head _)⟩
  · refine free_bind (calls_recordTransition _ _) fun _ past₃ longer₃ => ?_
    refine free_bind (calls_plain trivial) fun _ past₄ longer₄ => ?_
    exact parkIfOnchain fun intent written => (committed intent written).mono (longer₃.trans longer₄)

/-! ### Settling a partial-fill intent -/

/-- A settlement writes the totals of the tranches it was given, which are those listed last. -/
theorem settle {rows alloc reason} (known : Unreserved past intent.intentId rows alloc) :
    Informed cfg past (settle cfg intent rows solver reason now) := by
  refine bigInt_bind fun dstTotal isDst => ?_
  refine bigInt_bind fun feeTotal isFee => ?_
  refine bind ?_ fun settled _ _ => ?_
  · refine call_bind trivial fun stored => ?_
    cases stored with
    | none => trivial
    | some current =>
      have read : Unreserved (⟨.intents (.findById intent.intentId), some current⟩ :: past) intent.intentId rows
        alloc := known.cons rfl
      refine call_bind (.inr ⟨rows, alloc, read⟩) fun accepted => ?_
      cases accepted with
      | missed | versionConflict => trivial
      | written updated =>
        have just : JustAccepted (⟨.intents (.acceptIfOpen intent.intentId solver _ now), .written updated⟩ ::
          ⟨.intents (.findById intent.intentId), some current⟩ :: past) intent.intentId :=
          ⟨solver, now + cfg.fillWindow current.srcChain, now, updated, _, rfl⟩
        have totals : FilledTotals rows dstTotal feeTotal := ⟨isDst, isFee⟩
        refine call_bind (.inr ⟨rows, alloc, dstTotal, feeTotal, now, just, read.cons rfl, totals, rfl⟩) ?_
        exact fun filled => trivial
  · split
    · trivial
    · refine free_bind (calls_audit _ _ _ _) fun _ _ _ => ?_
      refine bigInt_bind fun _ _ => ?_
      exact broadcast_bind fun _ => trivial

/-- The rows of `details` are the tranches listed last. -/
theorem details_bind {f : List IntentFill × FillProgress → Backend α}
    (rest : ∀ rows progress, Informed cfg (⟨.fills (.listByIntent intent.intentId), rows⟩ :: past)
      (f (rows, progress))) : Informed cfg past (details intent >>= f) := by
  refine (follows_bind _ _).mpr (.call_bind trivial fun rows => ?_)
  cases computeFillProgress intent.srcAmount intent.state rows with
  | none => trivial
  | some progress => exact rest rows progress

theorem settleIfComplete (loaded : Loaded past key intent) :
    Informed cfg past (settleIfComplete cfg intent solver now) := by
  refine details_bind fun rows progress => ?_
  refine broadcast_bind fun sent => ?_
  refine bigInt_bind fun alloc isAlloc => ?_
  split
  · rename_i complete
    have loaded' := loaded.mono (List.suffix_cons ⟨.fills (.listByIntent intent.intentId), rows⟩ _)
    have known : Unreserved (⟨.fills (.listByIntent intent.intentId), rows⟩ :: past) intent.intentId rows alloc :=
      ⟨if_pos rfl, ⟨key, intent, loaded', rfl, isAlloc⟩, Int.le_of_eq complete.2⟩
    exact bind (settle (known.cons rfl)) fun _ _ _ => trivial
  · trivial

/-! ### The handlers -/

theorem accept (id : String) (dto : AcceptIntentDto) : Informed cfg [] (accept cfg id dto) := by
  refine loadIntent_bind fun intent => ?_
  refine assertIntentNotPaused_bind fun k => ?_
  refine throwWhen_bind fun whole => ?_
  have first : Loaded [⟨.killSwitch, k⟩, ⟨.intents (.findById id), some intent⟩] id intent := rfl
  refine nowSeconds_bind fun ms => ?_
  split
  · rename_i passed
    exact bind (expireIfOpen (.loaded rfl (.inl rfl) passed)) fun _ _ _ => trivial
  · refine free_bind (calls_signatureCheck _ _ _) fun _ past₁ longer₁ => ?_
    refine free_bind (calls_eligibilityCheck _ _ _) fun _ past₂ longer₂ => ?_
    refine free_bind (calls_assertDestinationStillDeliverable _) fun _ past₃ longer₃ => ?_
    have longer := (List.suffix_cons _ _).trans (longer₁.trans (longer₂.trans longer₃))
    refine bind (acceptIfOpen ⟨intent, first.mono longer, whole⟩) fun updated _ _ => ?_
    split
    · exact free (calls_acceptRefused id)
    · trivial

theorem assertFillAmount_bind {fillAmount} {f : Unit → Backend α}
    (rest : ∀ (amount : Nat) (minimum : Int), BigInt.decimal (BigInt.trim fillAmount.toList) = some amount →
      BigInt.parse intent.minDstAmount = some minimum → minimum ≤ amount → Informed cfg past (f ())) :
    Informed cfg past (assertFillAmount intent fillAmount >>= f) := by
  refine (follows_bind _ _).mpr ((follows_bind _ _).mpr ?_)
  unfold parseBaseUnits
  split
  · rename_i amount isAmount
    split
    · trivial
    · rename_i minimum isMinimum
      refine (follows_throwWhen _ _ _).mpr ⟨fun _ => trivial, fun enough => ?_⟩
      exact rest amount minimum isAmount isMinimum (Int.not_lt.mp (of_decide_eq_false enough))
  · trivial

theorem fill (id : String) (dto : FillIntentDto) : Informed cfg [] (fill cfg id dto) := by
  refine loadIntent_bind fun intent => ?_
  refine assertIntentNotPaused_bind fun k => ?_
  refine throwWhen_bind fun whole => ?_
  refine nowSeconds_bind fun ms => ?_
  have first :
    Loaded [⟨.now, ms⟩, ⟨.killSwitch, k⟩, ⟨.intents (.findById id), some intent⟩] id intent := rfl
  refine throwWhen_bind fun _ => ?_
  refine free_bind (calls_signatureCheck _ _ _) fun _ past₁ longer₁ => ?_
  refine assertFillAmount_bind fun amount minimum isAmount isMinimum enough => ?_
  refine bigInt_bind fun parsed _ => ?_
  have report : FillReport past₁ id (fillPatch dto (protocolFee parsed) (ms / 1000)) :=
    ⟨intent, minimum, dto, amount, _, _, first.mono longer₁, whole, isMinimum, isAmount, enough, rfl⟩
  refine bind (fillIfAccepted report) fun updated _ _ => ?_
  split
  · exact free (calls_fillRefused id dto.solver)
  · exact free_bind (calls_attempt (calls_plain trivial)) fun _ _ _ => trivial

theorem cancelRemainder {user} (loaded : Loaded past key intent) :
    Informed cfg past (cancelRemainder cfg intent user now) := by
  refine call_bind trivial fun rows => ?_
  refine bigInt_bind fun alloc isAlloc => ?_
  split
  · trivial
  · rename_i unreserved
    have known : Unreserved (⟨.fills (.listByIntent intent.intentId), rows⟩ :: past) intent.intentId rows alloc :=
      ⟨if_pos rfl, ⟨key, intent, loaded.mono (List.suffix_cons _ _), rfl, isAlloc⟩, Int.not_lt.mp unreserved⟩
    split
    · rename_i unfilled
      exact bind (cancelIfOpen (.inr ⟨rows, alloc, known, unfilled⟩)) fun _ _ _ => trivial
    · split
      · trivial
      · refine bind (settle known) fun settled _ _ => ?_
        split
        · trivial
        · exact bigInt_bind fun _ _ => trivial

theorem cancel (id : String) (dto : CancelIntentDto) : Informed cfg [] (cancel cfg id dto) := by
  refine loadIntent_bind fun intent => ?_
  have first : Loaded [⟨.intents (.findById id), some intent⟩] id intent := rfl
  refine throwWhen_bind fun _ => ?_
  refine throwWhen_bind fun _ => ?_
  refine free_bind (calls_signatureCheck _ _ _) fun _ past₁ longer₁ => ?_
  split
  · refine nowSeconds_bind fun ms => ?_
    have loaded := (first.mono longer₁).mono (List.suffix_cons ⟨.now, ms⟩ _)
    refine bind (cancelRemainder loaded) fun result _ _ => ?_
    obtain ⟨outcome, settled⟩ := result
    cases outcome with
    | none => exact free (calls_cancelRefused id)
    | some view =>
      refine free_bind ?_ fun _ _ _ => free (calls_withProgress (fun _ _ => trivial) _)
      unfold auditCancel
      split
      · trivial
      · exact calls_audit _ _ _ _
  · rename_i isWhole
    have whole : LoadedWhole past₁ id := ⟨intent, first.mono longer₁, Bool.eq_false_iff.mpr isWhole⟩
    refine bind (cancelIfOpen (.inl whole)) fun updated _ _ => ?_
    split
    · exact free (calls_cancelRefused id)
    · trivial

theorem amend (id : String) (dto : AmendIntentDto) : Informed cfg [] (amend id dto) := by
  refine loadIntent_bind fun intent => ?_
  refine throwWhen_bind fun _ => ?_
  refine free_bind (calls_signatureCheck _ _ _) fun _ _ _ => ?_
  refine call_bind rfl fun amended => ?_
  split
  · exact free_bind (calls_plain trivial) fun _ _ _ => trivial
  · exact free_bind (calls_audit _ _ _ _) fun _ _ _ => trivial

/-! ### Tranches -/

/-- A function inside a lock knows what was known before it. -/
theorem withLock {body : Backend α} (inside : ∀ past', past <:+ past' → Informed cfg past' body) :
    Informed cfg past (withLock key body) := by
  refine call_bind trivial fun ticket => ?_
  refine call_bind trivial fun _ => ?_
  have longer : past <:+ ⟨.fills (.wait ticket), ()⟩ :: ⟨.fills (.enter key), ticket⟩ :: past :=
    (List.suffix_cons _ _).trans (List.suffix_cons _ _)
  refine (follows_tryFinally _ _).mpr (follows_mono (fun _ _ _ => ?_) (inside _ longer))
  exact ⟨trivial, fun _ => trivial⟩

theorem markFilled {fillId : String} {patch : FillPatch}
    (known : ∀ past', past <:+ past' → Delivery past' fillId patch) :
    Informed cfg past (markFilled fillId solver patch) := by
  refine call_bind trivial fun row => ?_
  cases row with
  | none => trivial
  | some fill =>
    refine withLock fun past' longer => ?_
    exact ⟨known past' ((List.suffix_cons _ _).trans longer), fun _ => trivial⟩

theorem stillOpen_bind {intentId} {f : Bool → Backend α}
    (rest : ∀ current answer, Informed cfg (⟨.intents (.findById intentId), current⟩ :: past) (f answer)) :
    Informed cfg past (stillOpen intentId now >>= f) :=
  (follows_bind _ _).mpr (.call_bind trivial fun current => rest current _)

theorem assertReservable (intent : Intent) (now : Nat) :
    (assertReservable intent now).Follows (Knows cfg)
      (onOk (fun _ _ => True) fun _ _ => intent.partialFills = true ∧ intent.srcVerified ≠ some false) past := by
  refine .throwWhen_bind (fun _ => trivial) fun isPartial => ?_
  refine .throwWhen_bind (fun _ => trivial) fun _ => ?_
  refine .throwWhen_bind (fun _ => trivial) fun _ => ?_
  refine (follows_throwWhen _ _ _).mpr ⟨fun _ => trivial, fun verified => ?_⟩
  exact ⟨Bool.not_eq_eq_eq_not.mp isPartial, beq_eq_false_iff_ne.mp verified⟩

/-- Under the lock: list, ask whether the intent is open, plan on the listed rows, insert. -/
theorem reserveLocked {amount} (loaded : Loaded past key intent) (isPartial : intent.partialFills = true)
    (verified : intent.srcVerified ≠ some false) :
    Informed cfg past (reserveLocked (reserveRequest cfg intent solver amount now)
      (stillOpen intent.intentId now)) := by
  refine call_bind trivial fun rows => ?_
  refine stillOpen_bind fun current stillOpen => ?_
  split
  · trivial
  · refine bigInt_bind fun plan planned => ?_
    cases plan with
    | rejected reason remaining => trivial
    | ok after =>
      refine bigInt_bind fun row isRow => ?_
      refine call_bind ⟨key, intent, solver, amount, now, rows, after, ?_, isPartial, verified, ?_, planned, isRow⟩
        fun _ => trivial
      · exact (loaded.mono (List.suffix_cons _ _)).mono (List.suffix_cons _ _)
      · exact if_pos rfl

theorem reserve (id : String) (dto : ReserveTrancheDto) :
    Informed cfg [] (IntentFillsController.reserve cfg id dto) := by
  refine loadIntent_bind fun intent => ?_
  have first : Loaded [⟨.intents (.findById id), some intent⟩] id intent := rfl
  refine assertIntentNotPaused_bind fun k => ?_
  refine free_bind (calls_signatureCheck _ _ _) fun _ past₁ longer₁ => ?_
  refine free_bind (calls_eligibilityCheck _ _ _) fun _ past₂ longer₂ => ?_
  refine free_bind (calls_deliveryCheck fun _ => trivial) fun _ past₃ longer₃ => ?_
  have loaded : Loaded past₃ id intent :=
    first.mono ((List.suffix_cons _ _).trans (longer₁.trans (longer₂.trans longer₃)))
  refine nowSeconds_bind fun ms => ?_
  refine bind_of (assertReservable intent _) fun _ past₄ longer₄ reservable => ?_
  refine bind (withLock fun past₅ longer₅ => ?_) fun result _ _ => ?_
  · have longer := (List.suffix_cons _ _).trans (longer₄.trans longer₅)
    exact reserveLocked (loaded.mono longer) reservable.1 reservable.2
  · cases result with
    | rejected reason remaining => trivial
    | ok fill =>
      refine free_bind (calls_audit _ _ _ _) fun _ _ _ => ?_
      refine details_bind fun rows progress => ?_
      exact broadcast_bind fun _ => trivial

theorem assertFillable (existing : IntentFill) (solver dstAmount : String) (now : Nat) :
    (assertFillable existing solver dstAmount now).Follows (Knows cfg)
      (onOk (fun _ _ => True) fun delivered _ =>
        ∃ minimum, BigInt.parse existing.minDstAmount = some minimum ∧ minimum ≤ delivered) past := by
  refine .throwWhen_bind (fun _ => trivial) fun _ => ?_
  refine .throwWhen_bind (fun _ => trivial) fun _ => ?_
  refine .throwWhen_bind (fun _ => trivial) fun _ => ?_
  split
  · trivial
  · refine (follows_bind _ _).mpr ?_
    cases isMinimum : BigInt.parse existing.minDstAmount with
    | none => trivial
    | some minimum =>
      refine .throwWhen_bind (fun _ => trivial) fun enough => ?_
      exact ⟨minimum, rfl, Int.not_lt.mp (of_decide_eq_false enough)⟩

theorem fillTranche (id fillId : String) (dto : FillTrancheDto) :
    Informed cfg [] (IntentFillsController.fill cfg id fillId dto) := by
  refine loadIntent_bind fun intent => ?_
  have first : Loaded [⟨.intents (.findById id), some intent⟩] id intent := rfl
  refine assertIntentNotPaused_bind fun k => ?_
  refine free_bind (calls_signatureCheck _ _ _) fun _ past₁ longer₁ => ?_
  refine nowSeconds_bind fun ms => ?_
  refine call_bind trivial fun known => ?_
  cases found : known.filter (·.intentId == intent.intentId) with
  | none => trivial
  | some existing =>
    obtain ⟨rfl, _⟩ := Option.filter_eq_some_iff.mp found
    refine bind_of (assertFillable existing _ _ _) fun delivered past₂ longer₂ checked => ?_
    obtain ⟨minimum, isMinimum, enough⟩ := checked
    have read :
      (⟨.fills (.findById fillId), some existing⟩ : BackendExchange) ∈ past₂ := longer₂.mem (.head _)
    refine bind (markFilled fun past₃ longer₃ => ?_) fun marked past₃ longer₃ => ?_
    · exact ⟨existing, minimum, delivered, dto.txHash, ms / 1000, longer₃.mem read, isMinimum, enough, rfl⟩
    · cases marked with
      | none => exact free_bind (calls_plain trivial) fun _ _ _ => trivial
      | some fill =>
        refine free_bind (calls_attempt (calls_plain trivial)) fun _ past₄ longer₄ => ?_
        refine free_bind (calls_audit _ _ _ _) fun _ past₅ longer₅ => ?_
        have longer := (List.suffix_cons _ _).trans (longer₁.trans ((List.suffix_cons _ _).trans
          ((List.suffix_cons _ _).trans (longer₂.trans (longer₃.trans (longer₄.trans longer₅))))))
        refine bind (settleIfComplete (first.mono longer)) fun result _ _ => ?_
        refine free_bind (calls_plain trivial) fun stored _ _ => ?_
        exact bigInt_bind fun _ _ => trivial

/-! ### The sweeper -/

theorem expireOpen (overdue : Overdue past intent.intentId) : Informed cfg past (expireOpen cfg intent now) := by
  refine free_bind (calls_slashTranches _ _) fun _ past' longer => ?_
  refine bind (expireIfOpen (overdue.mono longer)) fun expired _ _ => ?_
  split
  · trivial
  · exact broadcast_bind fun _ => trivial

theorem settleAccepted (missed : Missed past intent.intentId now) :
    Informed cfg past (settleAccepted cfg intent now) := by
  refine call_bind trivial fun k => ?_
  split
  · refine free_bind (calls_bind (calls_one fun _ => trivial) fun _ => calls_pure _) fun _ _ _ => trivial
  · refine bind (bind (slashIfAccepted (missed.mono (List.suffix_cons _ _))) fun slashed _ _ => ?_) fun _ _ _ =>
      trivial
    split
    · trivial
    · refine broadcast_bind fun _ => ?_
      split
      · trivial
      · split
        · trivial
        · refine free_bind (SolversService.calls_recordFailedFill _ _) fun _ _ _ => ?_
          refine free_bind (calls_attempt (calls_plain trivial)) fun _ _ _ => ?_
          exact free_bind (calls_attempt (calls_one fun _ => trivial)) fun _ _ _ => trivial

theorem sweep : Informed cfg [] (sweep cfg) := by
  refine nowSeconds_bind fun ms => ?_
  refine free_bind
    (calls_tryCatch (calls_slashExpiredReservations _ _) fun _ => calls_pure _) fun tranches past₁ longer₁ => ?_
  refine call_bind trivial fun openIntents => ?_
  have read : (⟨.now, ms⟩ : BackendExchange) ∈ past₁ := longer₁.mem (.head _)
  refine bind (onEachWith (P := fun intent past => intent.deadline ≤ ms / 1000 → Overdue past intent.intentId)
    ?_ ?_ ?_) fun expiredCount past₂ longer₂ => ?_
  · exact fun intent _ _ longer overdue passed => (overdue passed).mono longer
  · exact fun intent member passed => .listed read member passed
  · intro expired intent past' overdue
    unfold sweepOpen
    split
    · rename_i passed
      exact bind (expireOpen (overdue passed)) fun _ _ _ => trivial
    · trivial
  · refine call_bind trivial fun accepted => ?_
    refine bind (onEachWith (P := fun intent past => Missed past intent.intentId (ms / 1000)) ?_ ?_ ?_)
      fun _ _ _ => trivial
    · exact fun intent _ _ longer missed => missed.mono longer
    · intro intent member
      obtain ⟨listed, passed⟩ := List.mem_filter.mp member
      exact ⟨intent, rfl, of_decide_eq_true passed, .inl ⟨accepted, .head _, listed⟩⟩
    · intro counts intent past' missed
      exact bind (settleAccepted missed) fun _ _ _ => trivial

variable (data : IntentsSweeper.DeadlineJobData)

theorem handleExpireJob : Informed cfg [] (handleExpireJob cfg data) := by
  refine call_bind trivial fun stored => ?_
  cases stored with
  | none => trivial
  | some intent =>
    dsimp only
    split
    · trivial
    · refine nowSeconds_bind fun ms => ?_
      split
      · trivial
      · rename_i passed
        exact bind (expireOpen (.loaded rfl (.inr rfl) (Nat.not_lt.mp passed))) fun _ _ _ => trivial

theorem handleFillWindowJob : Informed cfg [] (handleFillWindowJob cfg data) := by
  refine call_bind trivial fun stored => ?_
  cases stored with
  | none => trivial
  | some intent =>
    have first : Loaded [⟨.intents (.findById data.intentId), some intent⟩] data.intentId intent := rfl
    dsimp only
    split
    · trivial
    · rename_i armed
      refine nowSeconds_bind fun ms => ?_
      split
      · trivial
      · rename_i passed
        have accepted : intent.state = .accepted := by
          by_contra other
          exact armed (.inl other)
        have missed : Missed [⟨.now, ms⟩, ⟨.intents (.findById data.intentId), some intent⟩] intent.intentId
            (ms / 1000) :=
          ⟨intent, rfl, Nat.not_lt.mp passed, .inr ⟨data.intentId, first.mono (List.suffix_cons _ _), accepted⟩⟩
        exact bind (settleAccepted missed) fun _ _ _ => trivial

end Informed

/-! ### The discipline of the handlers -/

/-- The requests whose handlers are followed here. -/
def BackendRequest.isHandler : BackendRequest → Bool
  | .accept .. | .fill .. | .cancel .. | .amend .. | .reserve .. | .fillTranche .. | .sweep | .expireJob _
  | .fillWindowJob _ | .slashExpiredReservations .. => true
  | _ => false

def handlerDiscipline (cfg : BackendSettings) : BackendDiscipline where
  allows _ past call := Knows cfg past call

theorem handlers_followed (cfg : BackendSettings) {E}
    (admits : ∀ request, E.admits request → request.isHandler = true) :
    (handlerDiscipline cfg).Followed (backendService cfg) E := by
  intro request admitted
  have handled := admits request admitted
  cases request with
  | accept id dto => exact follows_respond (accept id dto)
  | fill id dto => exact follows_respond (fill id dto)
  | cancel id dto => exact follows_respond (cancel id dto)
  | amend id dto => exact follows_respond (amend id dto)
  | reserve id dto => exact follows_respond (reserve id dto)
  | fillTranche id fillId dto => exact follows_respond (fillTranche id fillId dto)
  | sweep => exact follows_respond sweep
  | expireJob data => exact follows_respond (handleExpireJob data)
  | fillWindowJob data => exact follows_respond (handleFillWindowJob data)
  | slashExpiredReservations now intentId =>
    exact follows_respond (free (calls_slashExpiredReservations now intentId))
  | _ => cases handled

end VortexBackend
