/-
Module: VortexBackend.Proofs.KeeperRule
Purpose: A keeper pass submits at most what is left, and reads the budget again when nothing is open.
Main exports: KeeperRule, keeperDiscipline_followed
-/
import VortexBackend.Soroban.TtlKeeper

namespace VortexBackend

open TtlKeeper Signer Async

abbrev KeeperExchange := Exchange KeeperReply

/-! ### Where a pass is -/

/-- Where a program is with its extensions: it is no pass, it has nothing reserved, it knows what is left of the budget,
    it has prepared an envelope, it has submitted it, or it knows that it is included. -/
inductive KeeperStage where
  | outside
  | idle
  | reserved (remaining : Nat)
  | prepared (remaining : Nat) (envelope : SignedEnvelope)
  | sent (envelope : SignedEnvelope)
  | confirmed (envelope : SignedEnvelope)
deriving Repr, DecidableEq

namespace KeeperStage

/-- A pass that has nothing open on the network. -/
def Free : KeeperStage → Prop
  | .idle | .reserved _ | .prepared _ _ => True
  | .outside | .sent _ | .confirmed _ => False

theorem free_of_eq {s s' : KeeperStage} (same : s = s') (free : s'.Free) : s.Free := same ▸ free

/-- A call takes the pass further. -/
def observe (settings : TtlKeeperSettings) : KeeperStage → KeeperExchange → KeeperStage
  | _, ⟨.beginRun, true⟩ => .idle
  | _, ⟨.beginRun, false⟩ => .outside
  | _, ⟨.endRun, _⟩ => .outside
  | .outside, _ => .outside
  | _, ⟨.currentBudget, budget⟩ => .reserved (settings.dailyBudgetStroops - budget.spentStroops)
  | .reserved remaining, ⟨.signer (.prepare _), .ok envelope⟩ => .prepared remaining envelope
  | .prepared _ envelope, ⟨.signer (.submit _), .ok .sent⟩ => .sent envelope
  | .prepared _ _, ⟨.signer (.submit _), _⟩ => .idle
  | .sent envelope, ⟨.signer (.waitForConfirmation _), .success⟩ => .confirmed envelope
  | .sent _, ⟨.signer (.waitForConfirmation _), _⟩ => .idle
  | .confirmed _, ⟨.spend _, _⟩ => .idle
  | s, _ => s

end KeeperStage

/-- Where a program is, by its past. -/
def keeperStage (settings : TtlKeeperSettings) : List KeeperExchange → KeeperStage :=
  remember (KeeperStage.observe settings) .outside

/-- What a program may call, by where it is. -/
def KeeperRule (s : KeeperStage) : KeeperCall → Prop
  | .beginRun => s = .outside
  | .endRun => s.Free
  | .currentBudget => s = .outside ∨ s.Free
  | .spend stroops => ∃ envelope, s = .confirmed envelope ∧ stroops = envelope.fee
  | .signer (.prepare _) => ∃ remaining, s = .reserved remaining
  | .signer (.submit envelope) => ∃ remaining, s = .prepared remaining envelope ∧ envelope.fee ≤ remaining
  | .signer (.waitForConfirmation hash) => ∃ envelope, s = .sent envelope ∧ hash = envelope.hash
  | _ => True

def keeperDiscipline (settings : TtlKeeperSettings) :
    Discipline KeeperReply KeeperRequest (Except RelayError (Option TtlKeeperReport)) where
  allows _ past call := KeeperRule (keeperStage settings past) call

/-! ### Extensions -/

/-- The calls of the signer that take a pass no further. -/
def SignerCall.Plain : SignerCall → Prop
  | .prepare _ | .submit _ | .waitForConfirmation _ => False
  | _ => True

variable {result : ExtendFootprintTtlResult} {P : KeeperStage → Prop}

section Extension

variable {settings : TtlKeeperSettings} {s : KeeperStage} {recent : List (Exchange SignerReply)} {remaining : Nat}

/-- Where a pass is, by what its extension has called so far. -/
def extensionStage (settings : TtlKeeperSettings) (s : KeeperStage) : List (Exchange SignerReply) → KeeperStage :=
  remember (fun m x => m.observe settings (signerCalls.exchange x)) s

variable {call : SignerCall}

theorem observe_plain (reply : SignerReply call) (plain : call.Plain) :
    s.observe settings (signerCalls.exchange ⟨call, reply⟩) = s := by
  cases call with
  | prepare | submit | waitForConfirmation => cases plain
  | _ => cases s <;> rfl

/-- The rule for the calls of an extension. -/
def ExtensionRule (settings : TtlKeeperSettings) (s : KeeperStage) (recent : List (Exchange SignerReply))
    (call : SignerCall) : Prop :=
  KeeperRule (extensionStage settings s recent) (.signer call)

theorem ExtensionRule.of_plain (plain : call.Plain) : ExtensionRule settings s recent call := by
  cases call with
  | prepare | submit | waitForConfirmation => cases plain
  | _ => trivial

theorem follows_plain {α : Type} {x : Signer α} (calls : x.Calls SignerCall.Plain)
    (holds : P (extensionStage settings s recent)) :
    x.Follows (ExtensionRule settings s) (fun _ recent' => P (extensionStage settings s recent')) recent := by
  apply follows_of_calls calls
  · exact fun _ _ _ plain => .of_plain plain
  · intro _ made plain
    have same : extensionStage settings s (made ++ recent) = extensionStage settings s recent :=
      remember_append (fun _ _ reply plain => observe_plain reply plain) plain
    rw [same]
    exact holds

/-- How an extension ends: a success is a confirmed envelope with its fee, and otherwise nothing is open. -/
def ExtensionEnded : Except RelayError ExtendFootprintTtlResult → KeeperStage → Prop
  | .ok result, stage =>
    if result.status = .success then ∃ envelope, stage = .confirmed envelope ∧ result.feeStroops = envelope.fee
    else stage.Free
  | .error _, stage => stage.Free

/-- An extension keeps to the rule and ends as it may. -/
abbrev Extends (settings : TtlKeeperSettings) (s : KeeperStage) (x : Signer ExtendFootprintTtlResult) :
    List (Exchange SignerReply) → Prop :=
  x.Follows (ExtensionRule settings s) fun outcome recent => ExtensionEnded outcome (extensionStage settings s recent)

theorem follows_submitted {prepared : SignedEnvelope} {failed : String → RelayError}
    {error : Relay.ConfirmationResult → RelayError}
    (isPrepared : extensionStage settings s recent = .prepared remaining prepared) (within : prepared.fee ≤ remaining)
    (isSuccess : result.status = .success) (isFee : result.feeStroops = prepared.fee) :
    Extends settings s (do
      match ← Async.attempt (Async.call (SignerCall.submit prepared)) with
      | .error resultXdr => throw (failed resultXdr)
      | .sent => do
        let confirmation ← Async.call (SignerCall.waitForConfirmation prepared.hash)
        Async.throwWhen (confirmation != .success) (error confirmation)
        pure result) recent := by
  have next (reply) : extensionStage settings s (⟨.submit prepared, reply⟩ :: recent) =
      (KeeperStage.prepared remaining prepared).observe settings ⟨.signer (.submit prepared), reply⟩ :=
    congrArg (KeeperStage.observe settings · ⟨.signer (.submit prepared), reply⟩) isPrepared
  refine .attempt_bind ⟨⟨remaining, isPrepared, within⟩, fun
    | .error e => KeeperStage.free_of_eq (next (.error e)) trivial
    | .ok (.error resultXdr) => KeeperStage.free_of_eq (next (.ok (.error resultXdr))) trivial
    | .ok .sent => ?_⟩
  refine .call_bind ⟨prepared, next (.ok .sent), rfl⟩ fun confirmation => ?_
  have last : extensionStage settings s (⟨.waitForConfirmation prepared.hash, confirmation⟩ ::
      ⟨.submit prepared, .ok .sent⟩ :: recent) =
      (KeeperStage.sent prepared).observe settings ⟨.signer (.waitForConfirmation prepared.hash), confirmation⟩ :=
    congrArg (KeeperStage.observe settings · ⟨.signer (.waitForConfirmation prepared.hash), confirmation⟩)
      (next (.ok .sent))
  apply Async.Follows.throwWhen_bind
  · intro unconfirmed
    rw [ExtensionEnded, last]
    cases confirmation with
    | success => cases unconfirmed
    | _ => trivial
  · intro isConfirmed
    rw [Async.follows_pure, ExtensionEnded, if_pos isSuccess, last]
    cases confirmation with
    | success => exact ⟨prepared, rfl, isFee⟩
    | _ => cases isConfirmed

section

variable {sequence estimate keys : Nat} (isReserved : extensionStage settings s recent = .reserved remaining)
include isReserved

theorem follows_submitExtension : Extends settings s (submitExtension (some remaining) sequence) recent := by
  refine .call_bind (.of_plain trivial) fun baseFee => ?_
  refine .call_bind (.of_plain trivial) fun tx => ?_
  have built :
    extensionStage settings s (⟨.build sequence baseFee, tx⟩ :: ⟨.estimateBaseFee, baseFee⟩ :: recent) =
      .reserved remaining :=
    (observe_plain tx trivial).trans ((observe_plain baseFee trivial).trans isReserved)
  have next (reply) : extensionStage settings s (⟨.prepare tx, reply⟩ :: ⟨.build sequence baseFee, tx⟩ ::
      ⟨.estimateBaseFee, baseFee⟩ :: recent) =
      (KeeperStage.reserved remaining).observe settings ⟨.signer (.prepare tx), reply⟩ :=
    congrArg (KeeperStage.observe settings · ⟨.signer (.prepare tx), reply⟩) built
  refine .attempt_bind ⟨⟨remaining, built⟩, fun
    | .error e => KeeperStage.free_of_eq (next (.error e)) trivial
    | .ok prepared => ?_⟩
  refine .throwWhen_bind (fun _ => KeeperStage.free_of_eq (next (.ok prepared)) trivial) fun affordable => ?_
  have within : prepared.fee ≤ remaining := by
    simpa [overBudget] using affordable
  have signed (reply) : extensionStage settings s (⟨.sign prepared, reply⟩ :: ⟨.prepare tx, .ok prepared⟩ ::
      ⟨.build sequence baseFee, tx⟩ :: ⟨.estimateBaseFee, baseFee⟩ :: recent) = .prepared remaining prepared :=
    (observe_plain reply trivial).trans (next (.ok prepared))
  exact .attempt_bind ⟨.of_plain trivial, fun
    | .error e => KeeperStage.free_of_eq (signed (.error e)) trivial
    | .ok _ => follows_submitted (signed (.ok ())) within rfl rfl⟩

theorem follows_withNextSequence {fn : Nat → Signer ExtendFootprintTtlResult}
    (body : ∀ sequence recent', extensionStage settings s recent' = .reserved remaining →
      Extends settings s (fn sequence) recent') : Extends settings s (withNextSequence fn) recent := by
  have next : nextSequence.Calls SignerCall.Plain := by
    refine calls_bind ((calls_call _).mpr trivial) fun cached => ?_
    have advance : Async.Calls SignerCall.Plain (attempt (call SignerCall.advance) : Signer Nat) :=
      calls_attempt ((calls_call _).mpr trivial)
    cases cached with
    | some cached => exact advance
    | none =>
      refine calls_bind (calls_attempt ((calls_call _).mpr trivial)) fun account => ?_
      exact calls_bind ((calls_call _).mpr trivial) fun _ => advance
  refine .call_bind (.of_plain trivial) fun ticket => ?_
  refine .call_bind (.of_plain trivial) fun _ => ?_
  have entered :
    extensionStage settings s (⟨.wait ticket, ()⟩ :: ⟨.enter, ticket⟩ :: recent) = .reserved remaining :=
    (@observe_plain settings _ (.wait ticket) () trivial).trans ((observe_plain ticket trivial).trans isReserved)
  -- The lock is left with the outcome of the body.
  have leave : ∀ (outcome : Except RelayError ExtendFootprintTtlResult) recent',
      ExtensionEnded outcome (extensionStage settings s recent') →
      (call (SignerCall.leave ticket) : Signer Unit).Follows (ExtensionRule settings s)
        (onOk (fun e recent'' => ExtensionEnded (.error e) (extensionStage settings s recent''))
          fun _ recent'' => ExtensionEnded outcome (extensionStage settings s recent'')) recent' := by
    intro outcome recent' ended
    rw [follows_call]
    refine ⟨.of_plain trivial, fun reply => ?_⟩
    have same : extensionStage settings s (⟨.leave ticket, reply⟩ :: recent') = extensionStage settings s recent' :=
      observe_plain reply trivial
    rw [onOk_ok, same]
    exact ended
  have caught : ∀ (e : RelayError) recent', (extensionStage settings s recent').Free →
      (do
        call (SignerCall.setCachedSequence none)
        throw e : Signer ExtendFootprintTtlResult).Follows (ExtensionRule settings s)
        (fun outcome recent'' => (call (SignerCall.leave ticket) : Signer Unit).Follows (ExtensionRule settings s)
          (onOk (fun e recent''' => ExtensionEnded (.error e) (extensionStage settings s recent'''))
            fun _ recent''' => ExtensionEnded outcome (extensionStage settings s recent''')) recent'') recent' := by
    intro e recent' free
    refine .call_bind (.of_plain trivial) fun reply => leave (.error e) _ ?_
    exact KeeperStage.free_of_eq (observe_plain reply trivial) free
  rw [follows_tryFinally, follows_tryCatch]
  apply Async.Follows.andThen (follows_plain next (P := fun stage => stage = .reserved remaining) entered)
  · exact fun e recent' numbered => caught e recent' (KeeperStage.free_of_eq numbered trivial)
  · exact fun sequence recent' numbered => follows_onOk (body sequence recent' numbered) caught
      fun value => leave (.ok value)

theorem follows_estimated :
    Extends settings s (
      if overBudget (some remaining) estimate then
        pure { hash := none, status := .overBudget, dryRun := false, feeStroops := estimate }
      else do
        if ← Async.call SignerCall.dryRun then
          pure { hash := none, status := .dryRun, dryRun := true, feeStroops := estimate }
        else withNextSequence (submitExtension (some remaining))) recent := by
  split
  · exact KeeperStage.free_of_eq isReserved trivial
  · refine .call_bind (.of_plain trivial) fun dryRun => ?_
    have flagged : extensionStage settings s (⟨.dryRun, dryRun⟩ :: recent) = .reserved remaining :=
      (observe_plain dryRun trivial).trans isReserved
    cases dryRun with
    | true => exact KeeperStage.free_of_eq flagged trivial
    | false => exact follows_withNextSequence flagged fun _ _ reserved => follows_submitExtension reserved

theorem follows_extendFootprintTtl : Extends settings s (extendFootprintTtl keys (some remaining)) recent := by
  refine .throwWhen_bind (fun _ => KeeperStage.free_of_eq isReserved trivial) fun _ => ?_
  have write : assertOnChainWriteAllowed.Calls SignerCall.Plain := by
    refine Async.calls_bind ((Async.calls_call _).mpr trivial) fun k => ?_
    split
    · exact Async.calls_pure _
    · exact Async.calls_throw _
  refine .andThen (follows_plain write (P := fun stage => stage = .reserved remaining) isReserved)
    (fun _ _ asserted => KeeperStage.free_of_eq asserted trivial) fun _ recent' asserted => ?_
  have read (reply) : extensionStage settings s (⟨.getAccount, reply⟩ :: recent') = .reserved remaining :=
    (observe_plain reply trivial).trans asserted
  refine .attempt_bind ⟨.of_plain trivial, fun
    | .error e => KeeperStage.free_of_eq (read (.error e)) trivial
    | .ok account => ?_⟩
  refine .call_bind (.of_plain trivial) fun baseFee => ?_
  refine .call_bind (.of_plain trivial) fun probe => ?_
  have probed (reply) :
    extensionStage settings s (⟨.simulate probe, reply⟩ :: ⟨.build account baseFee, probe⟩ ::
      ⟨.estimateBaseFee, baseFee⟩ :: ⟨.getAccount, .ok account⟩ :: recent') = .reserved remaining :=
    (observe_plain reply trivial).trans
      ((observe_plain probe trivial).trans ((observe_plain baseFee trivial).trans (read (.ok account))))
  exact .attempt_bind ⟨.of_plain trivial, fun
    | .error e => KeeperStage.free_of_eq (probed (.error e)) trivial
    | .ok (.success fee) => follows_estimated (probed (.ok (.success fee)))
    | .ok (.restorePreamble fee) => follows_estimated (probed (.ok (.restorePreamble fee)))
    | .ok (.error message) => KeeperStage.free_of_eq (probed (.ok (.error message))) trivial⟩

end

end Extension

/-! ### Passes -/

section Pass

variable {settings : TtlKeeperSettings} {past : List KeeperExchange}

/-- A function that keeps to the rule, with what it says about where the program is then. -/
abbrev Abides {α : Type} (settings : TtlKeeperSettings) (x : Keeper α)
    (Q : Except RelayError α → KeeperStage → Prop)
    (past : List KeeperExchange) : Prop :=
  x.Follows (fun past c => KeeperRule (keeperStage settings past) c)
    (fun outcome past' => Q outcome (keeperStage settings past')) past

variable {summary : TtlExtensionSummary}

theorem abides_recordResult {keys : Nat} (ended : ExtensionEnded (.ok result) (keeperStage settings past)) :
    Abides settings (recordResult summary keys result) (fun _ stage => stage.Free) past := by
  unfold recordResult
  cases isStatus : result.status with
  | success =>
    rw [ExtensionEnded, if_pos isStatus] at ended
    obtain ⟨envelope, isConfirmed, isFee⟩ := ended
    refine .call_bind ⟨envelope, isConfirmed, isFee⟩ fun reply => ?_
    have spent : keeperStage settings (⟨.spend result.feeStroops, reply⟩ :: past) = .idle :=
      congrArg (KeeperStage.observe settings · ⟨.spend result.feeStroops, reply⟩) isConfirmed
    exact KeeperStage.free_of_eq spent trivial
  | dryRun | overBudget =>
    rw [ExtensionEnded, if_neg (by simp [isStatus])] at ended
    exact ended

theorem abides_extendBatch {batch : List ScannedKey} (free : (keeperStage settings past).Free) :
    Abides settings (extendBatch settings summary batch) (fun _ stage => stage.Free) past := by
  unfold extendBatch
  split
  · exact free
  · refine .call_bind (.inr free) fun budget => ?_
    have isReserved : keeperStage settings (⟨.currentBudget, budget⟩ :: past) =
        .reserved (settings.dailyBudgetStroops - budget.spentStroops) := by
      change (keeperStage settings past).observe settings ⟨.currentBudget, budget⟩ = _
      cases stage : keeperStage settings past with
      | idle | reserved | prepared => rfl
      | outside | sent | confirmed =>
        rw [stage] at free
        cases free
    split
    · exact KeeperStage.free_of_eq isReserved trivial
    · have extended : Abides settings
          (embed signerCalls
            (extendFootprintTtl batch.length (some (settings.dailyBudgetStroops - budget.spentStroops))))
          ExtensionEnded (⟨.currentBudget, budget⟩ :: past) :=
        follows_embed signerCalls (follows_extendFootprintTtl isReserved)
      apply (follows_tryCatch _ _).mpr
      refine .andThen extended (fun _ _ ended => ended) fun result past' ended => ?_
      exact follows_onOk (abides_recordResult ended) (fun _ _ free' => free') fun _ _ free' => free'

theorem abides_extend {eligible} (free : (keeperStage settings past).Free) :
    Abides settings (extend settings eligible) (fun _ stage => stage.Free) past := by
  unfold extend
  split
  · exact free
  · rw [Abides, follows_bind, follows_ofExcept]
    cases batchKeys (prioritise eligible) settings.maxKeysPerTx with
    | error e => exact free
    | ok batches =>
      apply follows_onEachWith (P := fun _ _ past' => (keeperStage settings past').Free)
      · intro summary batch rest past' free'
        exact follows_onOk (abides_extendBatch free') (fun _ _ ended => ended) fun _ _ ended => ended
      · exact fun _ _ ended => ended
      · exact free

theorem abides_execute {extending} (reads : ∀ stage, P stage → stage = .outside ∨ stage.Free)
    (scans : ∀ stage reply, P stage → P (stage.observe settings ⟨.scan, reply⟩))
    (budgets : ∀ stage budget, P stage → P (stage.observe settings ⟨.currentBudget, budget⟩))
    (extension : ∀ past scanned, P (keeperStage settings past) →
      Abides settings (extendIf settings extending scanned) (fun _ stage => P stage) past)
    (holds : P (keeperStage settings past)) :
    Abides settings (execute settings extending) (fun _ stage => P stage) past := by
  have scanned (reply) : P (keeperStage settings (⟨.scan, reply⟩ :: past)) := scans _ reply holds
  refine .attempt_bind ⟨trivial, fun | .error e => scanned (.error e) | .ok found => ?_⟩
  refine .andThen (extension _ found.2 (scanned (.ok found))) (fun _ _ extended => extended) ?_
  intro summary past' extended
  refine .call_bind (reads _ extended) fun budget => ?_
  exact budgets _ budget extended

theorem abides_run : Abides settings (run settings) (fun _ _ => True) [] := by
  refine .call_bind rfl fun began => ?_
  cases began with
  | false => exact ⟨trivial, fun _ => trivial⟩
  | true =>
    change Async.Follows _ (tryFinally _ _) _ _
    rw [follows_tryFinally]
    have pass : Abides settings (execute settings true) (fun _ stage => stage.Free) [⟨.beginRun, true⟩] := by
      apply abides_execute
      · exact fun _ free => .inr free
      · intro stage reply free
        cases stage with
        | idle | reserved | prepared => trivial
        | outside | sent | confirmed => cases free
      · intro stage budget free
        cases stage with
        | idle | reserved | prepared => trivial
        | outside | sent | confirmed => cases free
      · intro past scanned free
        unfold extendIf
        rw [if_pos rfl]
        exact .andThen (abides_extend free) (fun _ _ ended => ended) fun _ _ ended => ended
      · trivial
    exact .andThen pass (fun _ _ free => ⟨free, fun _ => trivial⟩) fun _ _ free => ⟨free, fun _ => trivial⟩

theorem abides_report : Abides settings (report settings) (fun _ _ => True) [] := by
  have scan : Abides settings (execute settings false) (fun _ stage => stage = .outside) [] := by
    apply abides_execute
    · exact fun _ outside => .inl outside
    · rintro _ reply rfl
      rfl
    · rintro _ budget rfl
      rfl
    · exact fun _ _ outside => outside
    · rfl
  exact .andThen scan (fun _ _ _ => trivial) fun _ _ _ => trivial

end Pass

/-- Every request keeps to the rule. -/
theorem keeperDiscipline_followed {settings E} : (keeperDiscipline settings).Followed (keeperService settings) E := by
  intro request _
  cases request with
  | run => exact abides_run
  | report => exact abides_report

end VortexBackend
