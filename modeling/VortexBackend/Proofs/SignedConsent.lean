/-
Module: VortexBackend.Proofs.SignedConsent
Purpose: When two bodies with the same signer and the same valid signature have the same effect from every state.
Trusted boundary: a signature of a key verifies for one message only
Main exports: SignedRequest.process, body_covered, consent_covers_effect_iff
-/
import VortexBackend.Js.Text
import VortexBackend.KillSwitch.Guard
import VortexBackend.Proofs.BackendSteps

namespace VortexBackend

open Backend BigInt

/-! ### Signed requests -/

/-- The routes whose requests have to be signed, with their parameters. -/
inductive SignedRoute where
  | accept (id : String)
  | fill (id : String)
  | cancel (id : String)
  | amend (id : String)
  | reserve (id : String)
  | fillTranche (id fillId : String)
deriving Repr, DecidableEq

/-- What the handler of a signed route takes from a body. -/
structure SignedBody where
  request : BackendRequest
  signer : String
  /-- the message against which the signature is verified -/
  message : String
  signature : String
  /-- the amount and the transaction that the message has not -/
  unsigned : Option String × Option String := (none, none)
  valid : Bool := true

namespace SignedRoute

@[reducible] def Dto : SignedRoute → Type
  | .accept _ => AcceptIntentDto
  | .fill _ => FillIntentDto
  | .cancel _ => CancelIntentDto
  | .amend _ => AmendIntentDto
  | .reserve _ => ReserveTrancheDto
  | .fillTranche .. => FillTrancheDto

def body : (route : SignedRoute) → route.Dto → SignedBody
  | .accept id, dto =>
    ⟨.accept id dto, dto.solver, buildAcceptMessage id dto.solver, dto.signature, (none, none), true⟩
  | .fill id, dto =>
    ⟨.fill id dto, dto.solver, buildFillMessage id dto.solver, dto.signature,
      (dto.fillAmount, dto.txHash), dto.valid⟩
  | .cancel id, dto => ⟨.cancel id dto, dto.user, buildCancelMessage id, dto.signature, (none, none), true⟩
  | .amend id, dto =>
    ⟨.amend id dto, dto.user, buildAmendMessage id dto.user dto.minDstAmount dto.deadline, dto.signature,
      (none, none), dto.valid⟩
  | .reserve id, dto =>
    ⟨.reserve id dto, dto.solver, buildReserveMessage id dto.solver dto.amount, dto.signature,
      (none, none), dto.valid⟩
  | .fillTranche id fillId, dto =>
    ⟨.fillTranche id fillId dto, dto.solver, buildTrancheFillMessage id fillId dto.solver dto.dstAmount,
      dto.signature, (none, dto.txHash), dto.valid⟩

/-- What the guard of the route checks; cancel and amend have none. -/
def gate : SignedRoute → Option KillSwitchOperation
  | .accept _ | .reserve _ => some .accept
  | .fill _ | .fillTranche .. => some .fill
  | .cancel _ | .amend _ => none

end SignedRoute

/-- A program that runs alone, with what the environment decides about its calls; a call that is not enabled waits. -/
def alone {α : Type} : List BackendChoice → Program BackendReply α → BackendWorld → BackendWorld
  | [], _, w => w
  | _ :: _, .done _, w => w
  | choice :: choices, .await call next, w =>
    match w.perform call choice with
    | some (reply, w') => alone choices (next reply) w'
    | none => alone choices (.await call next) w

/-- A request to a signed route: its declared fields, and the others that were put into the body. -/
structure SignedRequest (route : SignedRoute) where
  dto : route.Dto
  extras : BodyWithAddress := {}

namespace SignedRequest

variable {route : SignedRoute} (r r' : SignedRequest route)

abbrev body : SignedBody := route.body r.dto

/-- The guard in front of the handler. -/
def admitted (k : KillSwitch) : Bool :=
  route.gate.all fun operation => (canActivate k { operation } r.extras {}).isOk

/-- The request is processed alone, with the clock standing still. -/
def process (cfg : BackendSettings) (w : BackendWorld) (choices : List BackendChoice) : BackendWorld :=
  if r.admitted w.killSwitch then alone choices ((backendService cfg).start r.body.request) w else w

/-- A switch governs the addresses that the guard reads from the two bodies, or neither. -/
def SameSwitches : Prop :=
  ∀ operation ∈ route.gate, ∀ entry,
    Governs (guardTarget { operation } r.extras {}) entry = Governs (guardTarget { operation } r'.extras {}) entry

end SignedRequest

/-! ### Messages -/

theorem amend_covers {id user minDstAmount minDstAmount' deadline deadline'}
    (same : buildAmendMessage id user minDstAmount deadline = buildAmendMessage id user minDstAmount' deadline') :
    minDstAmount = minDstAmount' ∧ deadline = deadline' := by
  have terms : minDstAmount ++ (":" ++ deadline.repr) = minDstAmount' ++ (":" ++ deadline'.repr) := by
    simp only [buildAmendMessage, String.append_assoc, String.append_right_inj] at same
    exact same
  have texts := congrArg String.toList terms
  rw [String.toList_append, String.toList_append, String.toList_append, String.toList_append, Nat.toList_repr,
    Nat.toList_repr] at texts
  obtain ⟨sameMinimum, sameDeadline⟩ := split_at_last (colon_notMem_digits _) (colon_notMem_digits _) texts
  exact ⟨String.toList_injective sameMinimum, toDigits_injective sameDeadline⟩

/-- A body is its signer, its signature, what its message says, and its unsigned fields. -/
theorem body_covered {route : SignedRoute} {dto dto' : route.Dto}
    (sameSigner : (route.body dto).signer = (route.body dto').signer)
    (sameSignature : (route.body dto).signature = (route.body dto').signature)
    (sameMessage : (route.body dto).message = (route.body dto').message)
    (agree : (route.body dto).unsigned = (route.body dto').unsigned) : dto = dto' := by
  cases route <;> cases dto <;> cases dto' <;> cases sameSigner <;> cases sameSignature <;> cases agree
  case amend => obtain ⟨⟨⟩, ⟨⟩⟩ := amend_covers sameMessage; rfl
  case reserve => cases (String.append_right_inj _).mp sameMessage; rfl
  case fillTranche => cases (String.append_right_inj _).mp sameMessage; rfl
  all_goals rfl

/-! ### The guard -/

section Guard

variable {route : SignedRoute} {r r' : SignedRequest route} {operation : KillSwitchOperation}

theorem admitted_eq (gated : route.gate = some operation) (k : KillSwitch) :
    r.admitted k = !(k.evaluateTarget (guardTarget { operation } r.extras {})).paused := by
  rw [SignedRequest.admitted, gated]
  change (assertNotPaused k (guardTarget { operation } r.extras {})).isOk = _
  rw [assertNotPaused]
  cases (k.evaluateTarget (guardTarget { operation } r.extras {})).paused <;> rfl

theorem SignedRequest.SameSwitches.admitted (same : r.SameSwitches r') (k : KillSwitch) :
    r.admitted k = r'.admitted k := by
  cases gated : route.gate with
  | none => rw [SignedRequest.admitted, SignedRequest.admitted, gated]; rfl
  | some operation =>
    have paused : (evaluate k.snapshot (guardTarget { operation } r.extras {})).paused =
        (evaluate k.snapshot (guardTarget { operation } r'.extras {})).paused := by
      rw [Bool.eq_iff_iff, evaluate_paused_iff, evaluate_paused_iff]
      simp only [same operation gated]
    rw [admitted_eq gated, admitted_eq gated, KillSwitch.evaluateTarget, KillSwitch.evaluateTarget]
    split
    · rfl
    · split
      · rfl
      · rw [paused]

theorem exists_telling_switch (different : ¬ r.SameSwitches r') : ∃ (k : KillSwitch) (chain : SupportedChain),
    r.admitted k ≠ r'.admitted k ∧ ∀ target : SwitchTarget, target.chain = some chain.name →
      assertNotPaused k target = .ok () := by
  simp only [SignedRequest.SameSwitches, not_forall] at different
  obtain ⟨operation, gated, entry, apart⟩ := different
  obtain ⟨name, isChain, narrow⟩ : ∃ name, entry.chain = some name ∧ entry.scope ≠ .global := by
    cases isScope : entry.scope <;> cases isChain : entry.chain <;>
      simp [Governs, scopeMatches, isScope, isChain] at apart ⊢
  have elsewhere (target : SwitchTarget) (other : some name ≠ target.chain) : Governs target entry = false := by
    cases isScope : entry.scope <;> simp [Governs, scopeMatches, isScope, isChain, other]
    exact narrow isScope
  let k : KillSwitch := { snapshot := [{ entry with active := true }] }
  have paused (target) : (k.evaluateTarget target).paused = Governs target entry := by
    change (evaluate k.snapshot target).paused = _
    have same : Governs target { entry with active := true } = Governs target entry := rfl
    rw [Bool.eq_iff_iff, evaluate_paused_iff]
    simp [k, same]
  have free (chain : SupportedChain) (other : name ≠ chain.name) (target : SwitchTarget)
      (onOther : target.chain = some chain.name) : assertNotPaused k target = .ok () := by
    rw [assertNotPaused, paused, elsewhere target (by simpa [onOther] using other)]
    rfl
  have tells : r.admitted k ≠ r'.admitted k := by
    rw [admitted_eq gated, admitted_eq gated, paused, paused]
    exact fun same => apart (Bool.not_inj same)
  by_cases isBase : name = SupportedChain.base.name
  · exact ⟨k, .polygon, tells, free .polygon (by rw [isBase]; decide)⟩
  · exact ⟨k, .base, tells, free .base isBase⟩

end Guard

/-! ### Requests that go through -/

theorem le_ofDigitChars (digits : List Char) (n : Nat) : n ≤ Nat.ofDigitChars 10 digits n := by
  induction digits generalizing n with
  | nil => exact le_rfl
  | cons c digits ih =>
    rw [Nat.ofDigitChars_cons]
    exact le_trans (by omega) (ih _)

theorem digit_pos {c : Char} (isDigit : c.isDigit = true) (notZero : c ≠ '0') : 0 < c.toNat - '0'.toNat := by
  rw [Char.isDigit, Bool.and_eq_true, decide_eq_true_eq] at isDigit
  have atLeast : 48 ≤ c.toNat := UInt32.le_iff_toNat_le.mp isDigit.1
  have other : c.toNat ≠ 48 := Char.toNat_inj.not.mpr notZero
  change 0 < c.toNat - 48
  omega

theorem parse_of_isDigits {text : String} (digits : IntentsService.isDigits text = true) :
    ∃ n : Nat, parse text = some (n : Int) ∧ decimal (trim text.toList) = some n ∧
      (text.toList.head? ≠ some '0' → 0 < n) := by
  rw [IntentsService.isDigits, Bool.and_eq_true, Bool.not_eq_true'] at digits
  obtain ⟨nonempty, all⟩ := digits
  have isDigit := List.all_eq_true.mp all
  have nonempty : text.toList ≠ [] := by simpa using nonempty
  have parsed := parse_digits nonempty isDigit
  rw [String.ofList_toList] at parsed
  refine ⟨_, parsed, ?_, fun notZero => ?_⟩
  · rw [trim_eq fun c member => isSpace_of_isDigit (isDigit c member), decimal, if_pos ⟨nonempty, all⟩]
  · obtain ⟨c, digits, isText⟩ := List.exists_cons_of_ne_nil nonempty
    rw [isText] at isDigit notZero ⊢
    have first := digit_pos (isDigit c List.mem_cons_self) fun isZero => notZero (congrArg some isZero)
    exact Nat.lt_of_lt_of_le (by simpa using first) (le_ofDigitChars digits _)

theorem get_markFilled {store : FillStore} {fillId solver row} {patch : FillPatch} (known : store.get fillId = some row)
    (reserved : row.status = .reserved) (holder : row.solver = solver) (early : patch.filledAt < row.deadline) :
    (store.markFilled fillId solver patch).2.get fillId = some { row with
      status := .filled, dstAmount := some patch.dstAmount, feeAmount := some patch.feeAmount
      txHash := patch.txHash, filledAt := some patch.filledAt } := by
  rw [FillStore.markFilled, FillStore.change]
  split
  · rename_i absent
    cases absent.symm.trans known
  · rename_i current present
    cases present.symm.trans known
    simp [reserved, holder, early, FillStore.get_replace, store.keyed fillId row known]

/-- What the records show of a request that went through. -/
def SignedRoute.shown : SignedRoute → BackendWorld → Option (Option String × Option String)
  | .accept id, w => ((w.intents.get id).filter (·.state == .expired)).map fun _ => (none, none)
  | .fill id, w => ((w.intents.get id).filter (·.state == .filled)).map fun i => (i.fillAmount, i.txHash)
  | .reserve _, w => (w.fills.get "").map fun _ => (none, none)
  | .fillTranche _ fillId, w => ((w.fills.get fillId).filter (·.status == .filled)).map fun fill => (none, fill.txHash)
  | _, _ => none

/-- An open intent on a chain. -/
def standing (id : String) (chain : SupportedChain) : Intent :=
  { sampleIntent with intentId := id, srcChain := chain, minDstAmount := "0" }

/-- The row of a tranche that a solver has reserved. -/
def reservedRow (id fillId solver : String) : IntentFill :=
  { fillId, intentId := id, solver, reservedAmount := "1", minDstAmount := "0", reservedAt := 0, deadline := 100 }

/-- Every answer is in favour of the caller. -/
def willing : BackendChoice := { solver := some ⟨true, some "1"⟩ }

/-- What the records show after the first calls of a request. -/
def SignedRoute.rehearse (route : SignedRoute) (calls : Nat) (w : BackendWorld) (dto : route.Dto) :
    Option (Option String × Option String) :=
  route.shown (alone (List.replicate calls willing) ((backendService {}).start (route.body dto).request) w)

section Rehearse

variable {id : String} {k : KillSwitch} {chain : SupportedChain}
  (free : ∀ target : SwitchTarget, target.chain = some chain.name → assertNotPaused k target = .ok ())
include free

attribute [local instance] Program.lawfulMonad

-- A handler is run call by call, and each call answered from the state.
attribute [local simp] SignedRoute.rehearse willing SignedRoute.body SignedRoute.shown backendService
  BackendRequest.handler respond List.replicate alone loadIntent IntentsService.get Backend.intents Backend.fills
  assertIntentNotPaused Backend.killSwitch nowSeconds nowMs Backend.call Async.call BackendWorld.perform
  IntentStore.perform BackendWorld.performFill IntentStore.get_put standing sampleIntent IntentsSweeper.switchTarget
  Async.throwWhen Intent.partialFills Program.map_await IntentStore.mutate IntentStore.mutate.write
  verifyStellarSignature Async.attempt external BackendChoice.answer BackendChoice.reply bigInt

theorem accept_shown (dto : AcceptIntentDto) : (SignedRoute.accept id).rehearse 4
    { killSwitch := k, intents := IntentStore.empty.put { standing id chain with deadline := 0 } } dto =
      some (none, none) := by
  obtain ⟨p, planned⟩ : ∃ p, IntentsService.plan id .open .expired
    (({} : IntentsService.ContextPatch).over { actor := "system" }) = pure p := ⟨_, rfl⟩
  simp [IntentsController.accept, free, planned, IntentsService.expireIfOpen, IntentStore.expireIfOpen]

theorem fill_shown {dto : FillIntentDto} {solver} (valid : dto.valid = true) (own : dto.solver = solver) :
    (SignedRoute.fill id).rehearse 6 { killSwitch := k, intents := IntentStore.empty.put (
      { standing id chain with state := .accepted, solver := some solver }) } dto =
        some (some dto.fillAmount, dto.txHash) := by
  obtain ⟨n, parsed, units, _⟩ := parse_of_isDigits valid
  obtain ⟨p, planned⟩ : ∃ p, IntentsService.plan id .accepted .filled
    (({} : IntentsService.ContextPatch).over { actor := dto.solver }) = pure p := ⟨_, rfl⟩
  have zero : parse "0" = some 0 := by decide
  have nonneg : ¬ (n : Int) < 0 := by omega
  simp [IntentsController.fill, free, ← own, planned, IntentsController.assertFillAmount,
    IntentsController.parseBaseUnits, units, zero, nonneg, parsed, IntentsService.orNow, IntentsService.withFillRecord,
    IntentsService.fillIfAccepted, IntentStore.fillIfAccepted, Intent.assign, IntentsController.fillPatch]

attribute [local simp] FillsRepository.withLock Option.filter ExceptT.run_bind Async.run_tryFinally

theorem fillTranche_shown {fillId solver} {dto : FillTrancheDto} {store : FillStore} (valid : dto.valid = true)
    (own : dto.solver = solver) (known : store.get fillId = some (reservedRow id fillId solver)) :
    (SignedRoute.fillTranche id fillId).rehearse 9
      { killSwitch := k, intents := IntentStore.empty.put (standing id chain), fills := store } dto =
        some (none, dto.txHash) := by
  obtain ⟨n, parsed, _⟩ := parse_of_isDigits valid
  have zero : parse "0" = some 0 := by decide
  have nonneg : ¬ (n : Int) < 0 := by omega
  have unlocked : (PromiseChain.empty.enter id).2.ready (PromiseChain.empty.enter id).1 = true := rfl
  have marked (patch : FillPatch) (early : patch.filledAt < 100) := get_markFilled known rfl own.symm early
  simp [IntentFillsController.fill, free, zero, nonneg, parsed, PartialFillService.fillTranche, known, ← own,
    reservedRow, FillsRepository.markFilled, FillsRepository.lockedChange, unlocked,
    PartialFillService.assertFillable, -SignedRoute.shown]
  change Option.map _ (Option.filter _ ((store.markFilled ..).2.get fillId)) = _
  rw [marked _ (by simp [PartialFillService.deliveryPatch])]
  rfl

theorem reserve_shown {dto : ReserveTrancheDto} (amount) (valid : dto.valid = true) (whole : dto.amount = amount) :
    (SignedRoute.reserve id).rehearse 11 { killSwitch := k, intents := IntentStore.empty.put (
      { standing id chain with srcAmount := amount, allowPartialFill := some true }) } dto = some (none, none) := by
  obtain ⟨digits, notZero⟩ := Bool.and_eq_true_iff.mp valid
  obtain ⟨n, parsed, _, positive⟩ := parse_of_isDigits digits
  have pos : 0 < n := positive (bne_iff_ne.mp notZero)
  have zero : parse "0" = some 0 := by decide
  have one : parse "1" = some 1 := by decide
  have noRows : FillStore.empty.listByIntent id = [] := rfl
  have absent : FillStore.empty.get "" = none := rfl
  have unlocked : (PromiseChain.empty.enter id).2.ready (PromiseChain.empty.enter id).1 = true := rfl
  simp [IntentFillsController.reserve, free, ← whole, zero, one, parsed, PartialFillService.reserve,
    FillsRepository.reserve, FillsRepository.reserveLocked, unlocked, PartialFillService.assertReservable,
    assertSolverEligible, isCanaryIntent, assertDeliverable, PartialFillService.stillOpen,
    PartialFillService.reserveRequest, planReservation, allocation, pos.ne', newFillRow, proRataMinDst, absent, noRows,
    FillStore.get_insert]

/-- From some state a valid request goes through, and so does every other one with the same consent. -/
theorem exists_shown {route : SignedRoute} (gated : route.gate ≠ none) (dto : route.Dto) :
    ∃ (w : BackendWorld) (calls : Nat), w.killSwitch = k ∧ route.shown w = none ∧
      ∀ dto', (route.body dto').valid = true → (route.body dto').signer = (route.body dto).signer →
        (route.body dto').message = (route.body dto).message →
        route.rehearse calls w dto' = some (route.body dto').unsigned := by
  cases route with
  | cancel | amend => exact absurd rfl gated
  | accept id => exact ⟨_, _, rfl, by simp, fun dto' _ _ _ => accept_shown free dto'⟩
  | fill id => exact ⟨_, _, rfl, by simp, fun dto' valid own _ => fill_shown free valid own⟩
  | reserve id =>
    refine ⟨_, _, rfl, ?_, fun dto' valid own same => reserve_shown free dto.amount valid ?_⟩
    · rfl
    · cases dto; cases dto'; cases own
      exact (String.append_right_inj _).mp same
  | fillTranche id fillId =>
    have known : (FillStore.empty.insert (reservedRow id fillId dto.solver) rfl).get fillId = _ :=
      (FillStore.get_insert ..).trans (if_pos rfl)
    refine ⟨_, _, rfl, ?_, fun dto' valid own _ => fillTranche_shown free valid own known⟩
    simp only [SignedRoute.shown, known]
    rfl

end Rehearse

/-! ### Consent -/

theorem SignedRoute.shown_congr (route : SignedRoute) {w w' : BackendWorld}
    (same : w.intents = w'.intents ∧ w.fills = w'.fills) : route.shown w = route.shown w' := by
  cases route <;> simp only [SignedRoute.shown, same]

/-- What a signature scheme accepts. A signature of a key is for one message. -/
structure SignatureScheme where
  verifies : String → String → String → Prop
  binding : ∀ publicKey message message' signature,
    verifies publicKey message signature → verifies publicKey message' signature → message = message'

/-- The signature of a request is valid for the message of its handler. -/
def SignatureScheme.Accepts (scheme : SignatureScheme) {route : SignedRoute} (r : SignedRequest route) : Prop :=
  scheme.verifies r.body.signer r.body.message r.body.signature

/-- Two bodies for one route with the same signer and the same valid signature leave the same intents and tranches from
    every state, if and only if they agree in the fields that are not signed and in what the guard reads. -/
theorem consent_covers_effect_iff (scheme : SignatureScheme) {route : SignedRoute} {r r' : SignedRequest route}
    (valid : r.body.valid = true) (valid' : r'.body.valid = true) (sameSigner : r.body.signer = r'.body.signer)
    (sameSignature : r.body.signature = r'.body.signature)
    (accepted : scheme.Accepts r) (accepted' : scheme.Accepts r') :
    (∀ cfg w choices, (r.process cfg w choices).intents = (r'.process cfg w choices).intents ∧
        (r.process cfg w choices).fills = (r'.process cfg w choices).fills) ↔
      r.body.unsigned = r'.body.unsigned ∧ r.SameSwitches r' := by
  have sameMessage : r.body.message = r'.body.message := by
    refine scheme.binding _ _ _ _ accepted ?_
    rw [sameSigner, sameSignature]
    exact accepted'
  constructor
  · intro same
    have views (w calls) := route.shown_congr (same {} w (List.replicate calls willing))
    constructor
    · by_cases gated : route.gate = none
      · cases route <;> first | rfl | cases gated
      · have free (target : SwitchTarget) (_ : target.chain = some SupportedChain.base.name) :
            assertNotPaused {} target = .ok () := rfl
        obtain ⟨w, calls, isSwitch, _, shows⟩ := exists_shown free gated r.dto
        have admitted (r : SignedRequest route) : r.admitted w.killSwitch = true := by
          rw [isSwitch, SignedRequest.admitted]
          cases route.gate <;> rfl
        have view := views w calls
        rw [SignedRequest.process, SignedRequest.process, if_pos (admitted r), if_pos (admitted r')] at view
        exact Option.some.inj
          ((shows _ valid rfl rfl).symm.trans (view.trans (shows _ valid' sameSigner.symm sameMessage.symm)))
    · by_contra different
      obtain ⟨k, chain, tells, free⟩ := exists_telling_switch different
      have gated : route.gate ≠ none := fun ungated => different fun _ gate => by cases ungated.symm.trans gate
      obtain ⟨w, calls, rfl, before, shows⟩ := exists_shown free gated r.dto
      have view := views w calls
      rw [SignedRequest.process, SignedRequest.process] at view
      cases first : r.admitted w.killSwitch <;> cases second : r'.admitted w.killSwitch <;> rw [first, second] at view
      · exact tells (first.trans second.symm)
      · cases before.symm.trans (view.trans (shows _ valid' sameSigner.symm sameMessage.symm))
      · cases before.symm.trans (view.symm.trans (shows _ valid rfl rfl))
      · exact tells (first.trans second.symm)
  · rintro ⟨agree, sameSwitches⟩ cfg w choices
    have sameBody : r.dto = r'.dto := body_covered sameSigner sameSignature sameMessage agree
    rw [SignedRequest.process, SignedRequest.process, SignedRequest.body, sameBody, sameSwitches.admitted]
    exact ⟨rfl, rfl⟩

/-- A scheme with one signed message, the fill of an intent by a solver. -/
def oneFillSigned : SignatureScheme where
  verifies _ message _ := message = buildFillMessage "I" "S"
  binding _ _ _ _ first second := first.trans second.symm

/-- A fill of an intent that a solver holds, with what a relayer made of the unsigned fields. -/
def relayedFill (fillAmount : String) (extras : BodyWithAddress) : SignedRequest (.fill "I") where
  dto := ⟨"S", fillAmount, none, "sig"⟩
  extras

/-- An intent that a solver has accepted. -/
def acceptedBySolver : BackendWorld where
  intents := IntentStore.empty.put { sampleIntent with state := .accepted, solver := some "S" }

/-- The fill is stored as it was signed; a token that is put into the body without a chain changes nothing. -/
theorem stray_token_changes_nothing :
    (((relayedFill "95" {}).process {} acceptedBySolver (List.replicate 12 {})).intents.get "I").bind (·.fillAmount) =
        some "95" ∧
      ∀ cfg w choices, ((relayedFill "95" {}).process cfg w choices).intents =
          ((relayedFill "95" { token := .str "T" }).process cfg w choices).intents ∧
        ((relayedFill "95" {}).process cfg w choices).fills =
          ((relayedFill "95" { token := .str "T" }).process cfg w choices).fills := by
  have accepted (extras) : oneFillSigned.Accepts (relayedFill "95" extras) := rfl
  have agree : (relayedFill "95" {}).SameSwitches (relayedFill "95" { token := .str "T" }) := by
    intro operation _ entry
    have noChain (token) : (guardTarget { operation } { token } {}).chain = none := rfl
    cases isScope : entry.scope <;> cases isChain : entry.chain <;>
      simp [Governs, scopeMatches, isScope, isChain, relayedFill, noChain]
  refine ⟨by decide +kernel, ?_⟩
  refine (consent_covers_effect_iff oneFillSigned ?_ ?_ ?_ ?_ (accepted {}) (accepted { token := .str "T" })).mpr
    ⟨rfl, agree⟩ <;> rfl

/-- A relayer raises the amount of a fill, and the signature is still valid. -/
theorem relayed_fill_varies :
    ∃ (scheme : SignatureScheme) (route : SignedRoute) (r r' : SignedRequest route) (cfg : BackendSettings)
      (w : BackendWorld) (choices : List BackendChoice), r.body.signer = r'.body.signer ∧
      r.body.signature = r'.body.signature ∧ scheme.Accepts r ∧ scheme.Accepts r' ∧
      (r.process cfg w choices).intents ≠ (r'.process cfg w choices).intents := by
  have accepted (fillAmount : String) : oneFillSigned.Accepts (relayedFill fillAmount {}) := rfl
  refine ⟨oneFillSigned, _, relayedFill "95" {}, relayedFill "9500" {}, {}, acceptedBySolver, List.replicate 12 {},
    rfl, rfl, accepted _, accepted _, ?_⟩
  intro same
  have amounts := congrArg (fun store => (store.get "I").bind (·.fillAmount)) same
  revert amounts
  decide +kernel

end VortexBackend
