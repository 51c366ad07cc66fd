/-
Module: VortexBackend.Proofs.SequenceRule
Purpose: A program takes a number inside the lock, submits on it, and opens its gate on every way out.
Main exports: Stage, SequenceRule, sequenceDiscipline
-/
import VortexBackend.Async.Discipline
import VortexBackend.Soroban.Signer

namespace VortexBackend

open Signer Async SignerCall

abbrev SignerExchange := Exchange SignerReply

abbrev SignerView := View SignerReply SignerWorld SignerRequest

abbrev SignerEvent := Event SignerReply SignerRequest

/-! ### Where a program is -/

/-- Where a program is in `withNextSequence`: before or after it, in the queue, inside the lock, with its number,
    restoring archived entries, or past its submission. -/
inductive Stage where
  | outside
  | queued (ticket : Nat)
  | inside (ticket : Nat)
  | numbered (ticket sequence : Nat)
  | restoring (ticket : Nat)
  | sent (ticket : Nat)
deriving Repr, DecidableEq

namespace Stage

/-- The gate that the program made and has not opened. -/
def ticket : Stage → Option Nat
  | .outside => none
  | .queued t | .inside t | .numbered t _ | .restoring t | .sent t => some t

/-- The same once it has waited. -/
def holds : Stage → Option Nat
  | .outside | .queued _ => none
  | .inside t | .numbered t _ | .restoring t | .sent t => some t

theorem ticket_of_holds {s : Stage} {t : Nat} (holds : s.holds = some t) : s.ticket = some t := by
  cases s with
  | outside | queued => cases holds
  | _ => exact holds

/-- A call takes the program further. -/
def observe : Stage → SignerExchange → Stage
  | _, ⟨.enter, ticket⟩ => .queued ticket
  | .queued t, ⟨.wait _, _⟩ => .inside t
  | _, ⟨.leave _, _⟩ => .outside
  | .inside t, ⟨.advance, .ok sequence⟩ => .numbered t sequence
  | .numbered t _, ⟨.simulate _, .ok (.restorePreamble _)⟩ => .restoring t
  | .numbered t _, ⟨.submit _, _⟩ => .sent t
  | s, _ => s

end Stage

/-- Where a program is, by its past. -/
def stage : List SignerExchange → Stage := remember Stage.observe .outside

/-- The envelope was built on an account object with this number, and then prepared. -/
def Built (past : List SignerExchange) (account : Nat) (envelope : SignedEnvelope) : Prop :=
  ∃ fee rawTx, ⟨.build account fee, rawTx⟩ ∈ past ∧ ⟨.prepare rawTx, .ok envelope⟩ ∈ past

/-- What a program may call. Behind a restore nothing is asked of a submission. -/
def SequenceRule (past : List SignerExchange) : SignerCall → Prop
  | .enter => stage past = .outside
  | .wait ticket => stage past = .queued ticket
  | .leave ticket => (stage past).holds = some ticket
  | .advance => ∃ ticket, stage past = .inside ticket
  | .submit envelope =>
    (∃ ticket, stage past = .restoring ticket) ∨
      ∃ ticket account, stage past = .numbered ticket account ∧ Built past account envelope
  | _ => True

def sequenceDiscipline : Discipline SignerReply SignerRequest (Except RelayError SignerResponse) where
  allows _ past call := SequenceRule past call

/-! ### What the programs do -/

/-- The calls that take a program no further. -/
def SignerCall.Aside : SignerCall → Prop
  | .enter | .wait _ | .leave _ | .advance | .simulate _ | .submit _ => False
  | _ => True

variable {call : SignerCall} {past : List SignerExchange}

theorem Stage.observe_aside {s : Stage} {reply : SignerReply call} (aside : call.Aside) :
    s.observe ⟨call, reply⟩ = s := by
  cases call with
  | enter | wait | leave | advance | simulate | submit => cases aside
  | _ => cases s <;> rfl

theorem stage_aside {reply : SignerReply call} (aside : call.Aside) : stage (⟨call, reply⟩ :: past) = stage past :=
  Stage.observe_aside aside

theorem stage_of_aside {reply s} (before : stage past = s) (aside : call.Aside) :
    stage (⟨call, reply⟩ :: past) = s :=
  (stage_aside aside).trans before

section Programs

variable {α : Type} {past : List SignerExchange}

/-- A function that keeps to the rule. -/
abbrev Obeys (x : Signer α) (Q : Except RelayError α → List SignerExchange → Prop)
    (past : List SignerExchange) : Prop :=
  x.Follows SequenceRule Q past

/-- The end of every submission: inside the lock, wherever it got to. -/
def Holding (ticket : Nat) (past : List SignerExchange) : Prop := (stage past).holds = some ticket

variable {ticket account sequence : Nat} {call : SignerCall} {envelope : SignedEnvelope} {method : String}
  {maxFeeStroops : Option Nat}

theorem Holding.aside {reply} (holding : Holding ticket past) (aside : call.Aside) :
    Holding ticket (⟨call, reply⟩ :: past) := by
  rw [Holding, stage_aside aside]
  exact holding

theorem Holding.submit {reply} (holding : Holding ticket past) :
    Holding ticket (⟨.submit envelope, reply⟩ :: past) := by
  change ((stage past).observe _).holds = _
  unfold Holding at holding
  cases s : stage past with
  | outside | queued => rw [s] at holding; cases holding
  | _ => rw [s] at holding; exact holding

/-- The program may submit this envelope. -/
def Sendable (ticket : Nat) (envelope : SignedEnvelope) (past : List SignerExchange) : Prop :=
  stage past = .restoring ticket ∨ ∃ account, stage past = .numbered ticket account ∧ Built past account envelope

theorem Built.cons (built : Built past account envelope) (x : SignerExchange) : Built (x :: past) account envelope := by
  obtain ⟨fee, rawTx, wasBuilt, wasPrepared⟩ := built
  exact ⟨fee, rawTx, .tail _ wasBuilt, .tail _ wasPrepared⟩

theorem Sendable.aside {reply} (sendable : Sendable ticket envelope past) (aside : call.Aside) :
    Sendable ticket envelope (⟨call, reply⟩ :: past) := by
  rw [Sendable, stage_aside aside]
  rcases sendable with restoring | ⟨account, numbered, built⟩
  · exact .inl restoring
  · exact .inr ⟨account, numbered, built.cons _⟩

theorem Sendable.holding (sendable : Sendable ticket envelope past) : Holding ticket past := by
  rcases sendable with restoring | ⟨account, numbered, _⟩
  · rw [Holding, restoring]
    rfl
  · rw [Holding, numbered]
    rfl

variable {error : Relay.ConfirmationResult → RelayError} {P : List SignerExchange → Prop}

theorem obeys_confirm {hash} (after : ∀ reply, P (⟨.waitForConfirmation hash, reply⟩ :: past)) :
    Obeys (do
      let confirmation ← Async.call (waitForConfirmation hash)
      Async.throwWhen (confirmation != .success) (error confirmation)) (fun _ past' => P past') past := by
  refine .call_bind trivial fun reply => ?_
  rw [Async.follows_throwWhen]
  exact ⟨fun _ => after reply, fun _ => after reply⟩

variable {failed : String → RelayError}

theorem obeys_submit {sent : Signer α} (sendable : Sendable ticket envelope past)
    (after : ∀ reply, P (⟨.submit envelope, reply⟩ :: past))
    (confirmed : ∀ past', P past' → Obeys sent (fun _ past'' => P past'') past') :
    Obeys (do
      match ← Async.attempt (Async.call (submit envelope)) with
      | .error resultXdr => throw (failed resultXdr)
      | .sent => sent) (fun _ past' => P past') past := by
  refine .attempt_bind ⟨?_, fun
    | .error e => after (.error e)
    | .ok .sent => confirmed _ (after (.ok .sent))
    | .ok (.error resultXdr) => after (.ok (.error resultXdr))⟩
  rcases sendable with restoring | ⟨account, numbered, built⟩
  · exact .inl ⟨ticket, restoring⟩
  · exact .inr ⟨ticket, account, numbered, built⟩

theorem obeys_submitRestoreFootprint {minResourceFee baseFee : Nat} (restoring : stage past = .restoring ticket) :
    Obeys (submitRestoreFootprint minResourceFee account baseFee)
      (fun _ past' => stage past' = .restoring ticket) past := by
  refine .call_bind trivial fun restoreTx => ?_
  have signed (reply) : stage (⟨.sign restoreTx, reply⟩ ::
      ⟨.build account (baseFee + minResourceFee), restoreTx⟩ :: past) = .restoring ticket :=
    stage_of_aside (stage_of_aside restoring trivial) trivial
  refine .attempt_bind ⟨trivial, fun | .error _ => signed _ | .ok _ => ?_⟩
  apply obeys_submit (.inl (signed _))
  · intro reply
    exact congrArg (Stage.observe · ⟨.submit restoreTx, reply⟩) (signed _)
  · intro past' restoring'
    apply obeys_confirm
    exact fun reply => stage_of_aside restoring' trivial

/-- A simulation leaves the number alone, unless it asks for a restore. -/
def Simulated (ticket account : Nat) (past : List SignerExchange) : Prop :=
  stage past = .restoring ticket ∨ stage past = .numbered ticket account

theorem Simulated.holding (simulated : Simulated ticket account past) : Holding ticket past := by
  rcases simulated with restoring | numbered
  · rw [Holding, restoring]
    rfl
  · rw [Holding, numbered]
    rfl

theorem Simulated.simulate (simulated : Simulated ticket account past) (reply : SignerReply (.simulate envelope)) :
    Simulated ticket account (⟨.simulate envelope, reply⟩ :: past) := by
  rcases simulated with restoring | numbered
  · have same : stage (⟨.simulate envelope, reply⟩ :: past) = (Stage.restoring ticket).observe ⟨_, reply⟩ :=
      congrArg (Stage.observe · ⟨.simulate envelope, reply⟩) restoring
    rcases reply with e | (fee | fee | message) <;> exact .inl same
  · have same :
      stage (⟨.simulate envelope, reply⟩ :: past) = (Stage.numbered ticket account).observe ⟨_, reply⟩ :=
      congrArg (Stage.observe · ⟨.simulate envelope, reply⟩) numbered
    rcases reply with e | (fee | fee | message)
    · exact .inr same
    · exact .inr same
    · exact .inl same
    · exact .inr same

theorem obeys_simulateRestored {rawTx baseFee} (numbered : stage past = .numbered ticket sequence) :
    Obeys (simulateRestored rawTx sequence baseFee method) (fun _ past' => Simulated ticket sequence past') past := by
  unfold simulateRestored
  rw [Obeys, follows_bind, follows_attempt, follows_call]
  refine ⟨trivial, fun reply => ?_⟩
  have first :
    Simulated ticket sequence (⟨.simulate rawTx, reply⟩ :: past) := Simulated.simulate (.inr numbered) reply
  rcases reply with e | (fee | fee | message)
  · exact first
  · exact first
  · have restoring : stage (⟨.simulate rawTx, .ok (.restorePreamble fee)⟩ :: past) = .restoring ticket :=
      congrArg (Stage.observe · ⟨.simulate rawTx, .ok (.restorePreamble fee)⟩) numbered
    refine .andThen (obeys_submitRestoreFootprint restoring) (fun _ _ restored => .inl restored) ?_
    intro _ past' restored
    rw [follows_bind, follows_attempt, follows_call]
    refine ⟨trivial, fun reply => ?_⟩
    have again : Simulated ticket sequence (⟨.simulate rawTx, reply⟩ :: past') :=
      Simulated.simulate (.inl restored) reply
    rcases reply with e | (fee | fee | message) <;> exact again
  · exact first

theorem Simulated.prepared {fee rawTx prepared} (simulated : Simulated ticket account past)
    (built : ⟨.build account fee, rawTx⟩ ∈ past) :
    Sendable ticket prepared (⟨.prepare rawTx, .ok prepared⟩ :: past) := by
  rcases simulated with restoring | numbered
  · exact .inl (stage_of_aside restoring trivial)
  · exact .inr ⟨account, stage_of_aside numbered trivial, fee, rawTx, .tail _ built, .head _⟩

theorem obeys_send {value : α} (sendable : Sendable ticket envelope past) :
    Obeys (do
      match ← Async.attempt (Async.call (submit envelope)) with
      | .error resultXdr => throw (failed resultXdr)
      | .sent => do
        let confirmation ← Async.call (waitForConfirmation envelope.hash)
        Async.throwWhen (confirmation != .success) (error confirmation)
        pure value) (fun _ past' => Holding ticket past') past := by
  apply obeys_submit sendable
  · exact fun reply => sendable.holding.submit
  · intro past' holding
    refine .call_bind trivial fun reply => ?_
    have still : Holding ticket (⟨.waitForConfirmation envelope.hash, reply⟩ :: past') := holding.aside trivial
    exact .throwWhen_bind (fun _ => still) fun _ => still

theorem obeys_submitInvocation {hook : Bool} (numbered : stage past = .numbered ticket sequence) :
    Obeys (submitInvocation method hook sequence) (fun _ past' => Holding ticket past') past := by
  refine .call_bind trivial fun baseFee => ?_
  refine .call_bind trivial fun rawTx => ?_
  have start : stage (⟨.build sequence baseFee, rawTx⟩ :: ⟨.estimateBaseFee, baseFee⟩ :: past) =
      .numbered ticket sequence :=
    stage_of_aside (stage_of_aside numbered trivial) trivial
  apply Async.follows_bind_of (P := fun _ past' => Simulated ticket sequence past')
  · refine Async.follows_mono (fun outcome past' simulated => ?_) (obeys_simulateRestored start)
    cases outcome with
    | error e => exact simulated.holding
    | ok value => exact simulated
  · intro value past' grown simulated
    have built : ⟨.build sequence baseFee, rawTx⟩ ∈ past' := grown.subset (.head _)
    obtain ⟨simulation, restored⟩ := value
    cases simulation with
    | error message => exact simulated.holding
    | success fee | restorePreamble fee =>
      refine .attempt_bind ⟨trivial, fun
        | .error _ => simulated.holding.aside trivial
        | .ok prepared => ?_⟩
      have sendable : Sendable ticket prepared _ := simulated.prepared built
      refine .attempt_bind ⟨trivial, fun
        | .error _ => sendable.holding.aside trivial
        | .ok _ => ?_⟩
      have signed : Sendable ticket prepared (⟨.sign prepared, .ok ()⟩ :: _) := sendable.aside trivial
      cases hook with
      | false => exact obeys_send signed
      | true =>
        exact .attempt_bind ⟨trivial, fun
          | .error _ => signed.holding.aside trivial
          | .ok _ => obeys_send (signed.aside trivial)⟩

theorem obeys_submitExtension (numbered : stage past = .numbered ticket sequence) :
    Obeys (submitExtension maxFeeStroops sequence) (fun _ past' => Holding ticket past') past := by
  refine .call_bind trivial fun baseFee => ?_
  refine .call_bind trivial fun tx => ?_
  have start :
    Simulated ticket sequence (⟨.build sequence baseFee, tx⟩ :: ⟨.estimateBaseFee, baseFee⟩ :: past) :=
    .inr (stage_of_aside (stage_of_aside numbered trivial) trivial)
  refine .attempt_bind ⟨trivial, fun
    | .error _ => start.holding.aside trivial
    | .ok prepared => ?_⟩
  have sendable : Sendable ticket prepared _ := start.prepared (.head _)
  refine .throwWhen_bind (fun _ => sendable.holding) fun _ => ?_
  exact .attempt_bind ⟨trivial, fun
    | .error _ => sendable.holding.aside trivial
    | .ok _ => obeys_send (sendable.aside trivial)⟩

theorem obeys_nextSequence (inside : stage past = .inside ticket) :
    Obeys nextSequence
      (onOk (fun _ past' => Holding ticket past') fun sequence past' => stage past' = .numbered ticket sequence)
      past := by
  have advance : ∀ past', stage past' = .inside ticket → Obeys (attempt (call advance))
      (onOk (fun _ past' => Holding ticket past') fun sequence past' => stage past' = .numbered ticket sequence)
      past' := by
    intro past' inside'
    rw [Obeys, follows_attempt, follows_call]
    refine ⟨⟨ticket, inside'⟩, fun reply => ?_⟩
    have next : stage (⟨.advance, reply⟩ :: past') = (Stage.inside ticket).observe ⟨.advance, reply⟩ :=
      congrArg (Stage.observe · ⟨.advance, reply⟩) inside'
    cases reply with
    | error e => exact congrArg Stage.holds next
    | ok sequence => exact next
  refine .call_bind trivial fun cached => ?_
  have read : stage (⟨.cachedSequence, cached⟩ :: past) = .inside ticket := stage_of_aside inside trivial
  cases cached with
  | some cached => exact advance _ read
  | none =>
    have answered (reply) : stage (⟨.getAccount, reply⟩ :: ⟨.cachedSequence, none⟩ :: past) = .inside ticket :=
      stage_of_aside read trivial
    refine .attempt_bind ⟨trivial, fun
      | .error _ => congrArg Stage.holds (answered _)
      | .ok account => ?_⟩
    exact .call_bind trivial fun _ => advance _ (stage_of_aside (answered _) trivial)

section

variable {estimate : Nat} (outside : stage past = .outside)
include outside

theorem obeys_withNextSequence {fn : Nat → Signer α}
    (body : ∀ sequence ticket past', stage past' = .numbered ticket sequence →
      Obeys (fn sequence) (fun _ past'' => Holding ticket past'') past') :
    Obeys (withNextSequence fn) (fun _ _ => True) past := by
  refine .call_bind outside fun ticket => ?_
  refine .call_bind rfl fun _ => ?_
  rw [follows_tryFinally, follows_tryCatch, follows_bind]
  -- Whatever ends the body, the program still holds the lock when it comes to opening its gate.
  have leave : ∀ (outcome : Except RelayError α) past', Holding ticket past' →
      Obeys (call (SignerCall.leave ticket)) (onOk (fun _ _ => True) fun _ _ => True) past' :=
    fun _ _ holding => ⟨holding, fun _ => trivial⟩
  have caught : ∀ (e : RelayError) past', Holding ticket past' →
      Obeys (do
        call (SignerCall.setCachedSequence none)
        throw e : Signer α) (fun outcome past'' => Obeys (call (SignerCall.leave ticket))
          (onOk (fun _ _ => True) fun _ _ => True) past'') past' := by
    intro e past' holding
    exact .call_bind trivial fun _ => leave (.error e) _ (holding.aside trivial)
  refine follows_mono (fun outcome past' ended => ?_) (obeys_nextSequence rfl)
  cases outcome with
  | error e => exact caught e past' ended
  | ok sequence =>
    refine follows_mono (fun outcome past'' holding => ?_) (body sequence ticket past' ended)
    cases outcome with
    | error e => exact caught e past'' holding
    | ok value => exact leave (.ok value) past'' holding

theorem obeys_assertOnChainWriteAllowed :
    Obeys assertOnChainWriteAllowed (fun _ past' => stage past' = .outside) past := by
  refine .call_bind trivial fun k => ?_
  have read : stage (⟨.killSwitch, k⟩ :: past) = .outside := stage_of_aside outside trivial
  split
  · exact read
  · exact read

theorem obeys_invokeContract {hook} : Obeys (invokeContract method hook) (fun _ _ => True) past := by
  refine .andThen (obeys_assertOnChainWriteAllowed outside) (fun _ _ _ => trivial) ?_
  intro _ past' asserted
  refine .call_bind trivial fun dryRun => ?_
  cases dryRun with
  | true => trivial
  | false =>
    have flagged : stage (⟨.dryRun, false⟩ :: past') = .outside := stage_of_aside asserted trivial
    exact obeys_withNextSequence flagged fun _ _ _ numbered => obeys_submitInvocation numbered

theorem obeys_estimated :
    Obeys (
      if overBudget maxFeeStroops estimate then
        pure { hash := none, status := .overBudget, dryRun := false, feeStroops := estimate }
      else do
        if ← Async.call dryRun then
          pure { hash := none, status := .dryRun, dryRun := true, feeStroops := estimate }
        else withNextSequence (submitExtension maxFeeStroops)) (fun _ _ => True) past := by
  split
  · trivial
  · refine .call_bind trivial fun dryRun => ?_
    cases dryRun with
    | true => trivial
    | false =>
      have flagged : stage (⟨.dryRun, false⟩ :: past) = .outside := stage_of_aside outside trivial
      exact obeys_withNextSequence flagged fun _ _ _ numbered => obeys_submitExtension numbered

theorem obeys_extendFootprintTtl {keys} : Obeys (extendFootprintTtl keys maxFeeStroops) (fun _ _ => True) past := by
  refine .throwWhen_bind (fun _ => trivial) fun _ => ?_
  refine .andThen (obeys_assertOnChainWriteAllowed outside) (fun _ _ _ => trivial) ?_
  intro _ past' asserted
  refine .attempt_bind ⟨trivial, fun | .error _ => trivial | .ok account => ?_⟩
  refine .call_bind trivial fun baseFee => ?_
  refine .call_bind trivial fun probe => ?_
  have built : stage (⟨.build account baseFee, probe⟩ :: ⟨.estimateBaseFee, baseFee⟩ ::
      ⟨.getAccount, .ok account⟩ :: past') = .outside :=
    stage_of_aside (stage_of_aside (stage_of_aside asserted trivial) trivial) trivial
  have next (reply) := congrArg (Stage.observe · ⟨.simulate probe, reply⟩) built
  exact .attempt_bind ⟨trivial, fun
    | .error _ | .ok (.error _) => trivial
    | .ok (.success fee) => obeys_estimated (next (.ok (.success fee)))
    | .ok (.restorePreamble fee) => obeys_estimated (next (.ok (.restorePreamble fee)))⟩

end

end Programs

theorem sequenceDiscipline_followed {E} : sequenceDiscipline.Followed signerService E := by
  intro request _
  cases request with
  | invokeContract method hook =>
    exact Async.Follows.andThen (obeys_invokeContract rfl) (fun _ _ _ => trivial) fun _ _ _ => trivial
  | extendFootprintTtl keys maxFeeStroops =>
    exact Async.Follows.andThen (obeys_extendFootprintTtl rfl) (fun _ _ _ => trivial) fun _ _ _ => trivial

end VortexBackend
