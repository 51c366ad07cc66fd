/-
Module: VortexBackend.Proofs.SequenceDiscipline
Purpose: A submission has the number after the account's, if the number counted on from is one below that.
Main exports: submissions_in_sequence
-/
import VortexBackend.Proofs.SequenceRule

namespace VortexBackend

open SignerWorld Stage

/-! ### What holds between the calls -/

/-- The programs and the account: tickets are in order and only the next one is inside; while a program has a number
    that it has not used, that is the account's number and nothing else is on its way. -/
structure Sequenced (q : PromiseQueue) (served onChain : Nat) (pending : List SignedEnvelope) (stages : Nat → Stage) :
    Prop where
  orderly : q.Orderly served
  shut : ∀ pid ticket, (stages pid).ticket = some ticket → served ≤ ticket ∧ ticket < q.next
  turn : ∀ pid ticket, (stages pid).holds = some ticket → ticket = served
  distinct :
    ∀ pid pid' ticket, (stages pid).ticket = some ticket → (stages pid').ticket = some ticket → pid = pid'
  numbered : ∀ pid ticket sequence, stages pid = .numbered ticket sequence → onChain = sequence ∧ pending = []
  unrestored : ∀ pid ticket, stages pid ≠ .restoring ticket

namespace Sequenced

variable {q : PromiseQueue} {served onChain : Nat} {pending : List SignedEnvelope} {stages : Nat → Stage} {pid : Nat}

theorem start (onChain : Nat) (pending : List SignedEnvelope) : Sequenced {} 0 onChain pending fun _ => .outside where
  orderly := .empty
  shut _ _ ticket := nomatch ticket
  turn _ _ holds := nomatch holds
  distinct _ _ _ ticket _ := nomatch ticket
  numbered _ _ _ isStage := nomatch isStage
  unrestored _ _ isStage := nomatch isStage

theorem stage_before {s new pid'} (isStage : Function.update stages pid new pid' = s) (differs : new ≠ s) :
    stages pid' = s :=
  (Function.forall_update_iff stages fun pid' s' => s' = s → stages pid' = s).mpr
    ⟨fun same => absurd same differs, fun _ _ same => same⟩ pid' isStage

section

variable (seq : Sequenced q served onChain pending stages)
include seq

theorem alone {pid' ticket ticket'} (one : (stages pid).holds = some ticket)
    (two : (stages pid').holds = some ticket') :
    pid = pid' := by
  have same : ticket = ticket' := (seq.turn pid ticket one).trans (seq.turn pid' ticket' two).symm
  subst same
  exact seq.distinct pid pid' ticket (ticket_of_holds one) (ticket_of_holds two)

theorem go {s onChain' pending'} (sameTicket : s.ticket = (stages pid).ticket)
    (turn : ∀ ticket, s.holds = some ticket → ticket = served) (unrestored : ∀ ticket, s ≠ .restoring ticket)
    (own : ∀ ticket sequence, s = .numbered ticket sequence → onChain' = sequence ∧ pending' = [])
    (others : ∀ pid' ticket sequence, pid' ≠ pid → stages pid' = .numbered ticket sequence →
      onChain' = sequence ∧ pending' = []) : Sequenced q served onChain' pending' (Function.update stages pid s) := by
  have tickets : ∀ pid', (Function.update stages pid s pid').ticket = (stages pid').ticket :=
    (Function.forall_update_iff stages fun pid' s => s.ticket = (stages pid').ticket).mpr
      ⟨sameTicket, fun _ _ => rfl⟩
  constructor
  · exact seq.orderly
  · intro pid' ticket has
    exact seq.shut pid' ticket (tickets pid' ▸ has)
  · exact (Function.forall_update_iff stages fun _ s => ∀ ticket, s.holds = some ticket → ticket = served).mpr
      ⟨turn, fun pid' _ => seq.turn pid'⟩
  · intro pid' pid'' ticket one two
    exact seq.distinct pid' pid'' ticket (tickets pid' ▸ one) (tickets pid'' ▸ two)
  · refine (Function.forall_update_iff stages fun _ s => ∀ ticket sequence, s = .numbered ticket sequence →
      onChain' = sequence ∧ pending' = []).mpr ⟨own, ?_⟩
    exact fun pid' other ticket sequence => others pid' ticket sequence other
  · exact (Function.forall_update_iff stages fun _ s => ∀ ticket, s ≠ .restoring ticket).mpr
      ⟨unrestored, fun pid' _ => seq.unrestored pid'⟩


theorem enter (outside : stages pid = .outside) :
    Sequenced q.enter.2 served onChain pending (Function.update stages pid (.queued q.enter.1)) := by
  have ticketOf : ∀ pid' ticket, (Function.update stages pid (.queued q.enter.1) pid').ticket = some ticket →
      (pid' = pid ∧ ticket = q.next) ∨ (pid' ≠ pid ∧ (stages pid').ticket = some ticket) := by
    refine (Function.forall_update_iff stages fun pid' s => ∀ ticket, s.ticket = some ticket →
      (pid' = pid ∧ ticket = q.next) ∨ (pid' ≠ pid ∧ (stages pid').ticket = some ticket)).mpr ⟨?_, ?_⟩
    · exact fun _ has => .inl ⟨rfl, (Option.some.inj has).symm⟩
    · exact fun _ other _ has => .inr ⟨other, has⟩
  constructor
  · exact seq.orderly.enter
  · intro pid' ticket has
    rcases ticketOf pid' ticket has with ⟨rfl, rfl⟩ | ⟨_, before⟩
    · exact ⟨seq.orderly.made, Nat.lt_succ_self _⟩
    · obtain ⟨low, high⟩ := seq.shut pid' ticket before
      exact ⟨low, Nat.lt_succ_of_lt high⟩
  · exact (Function.forall_update_iff stages fun _ s => ∀ ticket, s.holds = some ticket → ticket = served).mpr
      ⟨nofun, fun pid' _ => seq.turn pid'⟩
  · intro pid' pid'' ticket one two
    rcases ticketOf pid' ticket one with ⟨rfl, rfl⟩ | ⟨_, before⟩
    · rcases ticketOf pid'' _ two with ⟨rfl, _⟩ | ⟨_, before'⟩
      · rfl
      · exact absurd (seq.shut pid'' _ before').2 (Nat.lt_irrefl _)
    · rcases ticketOf pid'' ticket two with ⟨rfl, rfl⟩ | ⟨_, before'⟩
      · exact absurd (seq.shut pid' _ before).2 (Nat.lt_irrefl _)
      · exact seq.distinct pid' pid'' ticket before before'
  · exact fun pid' ticket sequence isStage => seq.numbered pid' ticket sequence (stage_before isStage nofun)
  · exact fun pid' ticket isStage => seq.unrestored pid' ticket (stage_before isStage nofun)

theorem leave {ticket} (holds : (stages pid).holds = some ticket) :
    Sequenced (q.leave ticket) (served + 1) onChain pending (Function.update stages pid .outside) := by
  have isServed : ticket = served := seq.turn pid ticket holds
  subst isServed
  have own := ticket_of_holds holds
  -- Whoever has a ticket now is somebody else, with a later one.
  have others : ∀ pid' t, (Function.update stages pid .outside pid').ticket = some t →
      (stages pid').ticket = some t ∧ ticket < t := by
    refine (Function.forall_update_iff stages fun pid' s => ∀ t, s.ticket = some t →
      (stages pid').ticket = some t ∧ ticket < t).mpr ⟨nofun, fun pid' other t has => ?_⟩
    refine ⟨has, Nat.lt_of_le_of_ne (seq.shut pid' t has).1 ?_⟩
    rintro rfl
    exact other (seq.distinct pid' pid ticket has own)
  constructor
  · exact seq.orderly.leave (seq.shut pid ticket own).2
  · intro pid' t has
    obtain ⟨before, later⟩ := others pid' t has
    exact ⟨later, (seq.shut pid' t before).2⟩
  · exact (Function.forall_update_iff stages fun _ s => ∀ t, s.holds = some t → t = ticket + 1).mpr
      ⟨nofun, fun pid' other _ has => absurd (seq.alone has holds) other⟩
  · intro pid' pid'' t one two
    exact seq.distinct pid' pid'' t (others pid' t one).1 (others pid'' t two).1
  · exact fun pid' t sequence isStage => seq.numbered pid' t sequence (stage_before isStage nofun)
  · exact fun pid' t isStage => seq.unrestored pid' t (stage_before isStage nofun)

end

end Sequenced

/-! ### Runs -/

/-- The simulation asks for a restore. -/
def asksRestore : Except RelayError SimulationResponse → Bool
  | .ok (.restorePreamble _) => true
  | _ => false

/-- When a program takes its number, the number it counts on from is one below the account's and nothing that was
    sent before is still on its way; and no simulation asks for a restore. -/
def countsFromBelow (v : SignerView) : SignerEvent → SignerWorld → Bool
  | ⟨_, .advance, _⟩, _ => v.world.cachedSequence.all (· + 1 == v.world.onChain) && v.world.pending.isEmpty
  | ⟨_, .simulate _, reply⟩, _ => !asksRestore reply
  | _, _ => true

/-- A process that has just started, on any account. -/
def SignerWorld.Fresh (w : SignerWorld) : Prop := w.sequenceLock = {} ∧ w.cachedSequence = none

/-- Every run of the process. -/
def freshSigner : Setting SignerReply SignerWorld SignerRequest where
  initial := SignerWorld.Fresh
  admits _ := True

/-- The runs in which numbers are counted on from one below. -/
def carefulSigner : Setting SignerReply SignerWorld SignerRequest where
  initial := SignerWorld.Fresh
  admits _ := True
  meets := countsFromBelow

abbrev SignerTransition :=
  Transition SignerReply SignerWorld SignerChoice SignerWorld.Drift SignerRequest (Except RelayError SignerResponse)

/-- What is handed to `submitTransaction` in a step carries the number after the account's. -/
def SignerTransition.InSequence (t : SignerTransition) : Prop :=
  ∀ actor envelope reply, t.event = some ⟨actor, .submit envelope, reply⟩ →
    envelope.sequence = t.before.world.onChain + 1

/-- What the builder and the preparation say about numbers. -/
def Stamped : SignerExchange → Prop
  | ⟨.build account _, envelope⟩ => envelope.sequence = account + 1
  | ⟨.prepare rawTx, .ok prepared⟩ => prepared.sequence = rawTx.sequence
  | _ => True

/-- Where every program is. -/
def stagesOf (v : SignerView) (pid : Nat) : Stage := stage (past pid v.history)

theorem stagesOf_after (v : SignerView) (e : SignerEvent) (w : SignerWorld) :
    stagesOf (v.after e w) =
      Function.update (stagesOf v) e.actor.pid ((stagesOf v e.actor.pid).observe ⟨e.call, e.reply⟩) := by
  funext pid
  by_cases own : pid = e.actor.pid
  · subst own
    rw [Function.update_self, stagesOf, past_own rfl]
    rfl
  · rw [Function.update_of_ne own, stagesOf, past_other (Ne.symm own)]
    rfl

/-- The invariant of the runs. -/
structure SignerSafe (v : SignerView) : Prop where
  sequenced : ∃ served, Sequenced v.world.sequenceLock served v.world.onChain v.world.pending (stagesOf v)
  stamped : ∀ pid, ∀ x ∈ past pid v.history, Stamped x

namespace SignerSafe

variable {v : SignerView} {e : SignerEvent} {w : SignerWorld}

theorem initial (fresh : w.Fresh) : SignerSafe ⟨w, []⟩ where
  sequenced := by
    refine ⟨0, ?_⟩
    rw [show (⟨w, []⟩ : SignerView).world.sequenceLock = {} from fresh.1]
    exact Sequenced.start w.onChain w.pending
  stamped _ _ member := nomatch member

/-- A call that keeps to the rule keeps the invariant. -/
def Kept (v : SignerView) (call : SignerCall) : Prop :=
  ∀ {actor : Actor SignerRequest} {choice reply w}, SequenceRule (past actor.pid v.history) call →
    countsFromBelow v ⟨actor, call, reply⟩ w = true → perform call choice v.world = some (reply, w) →
      SignerSafe (v.after ⟨actor, call, reply⟩ w)

section

variable (safe : SignerSafe v)
include safe

theorem stamped_after (exact_ : Stamped ⟨e.call, e.reply⟩) :
    ∀ pid, ∀ x ∈ past pid (v.after e w).history, Stamped x := by
  intro pid x member
  rcases mem_past_cons.mp member with ⟨_, rfl⟩ | earlier
  · exact exact_
  · exact safe.stamped pid x earlier

/-- A call that leaves the lock, the account and what is on its way alone, and its program where it is. -/
theorem quiet (still : (stagesOf v e.actor.pid).observe ⟨e.call, e.reply⟩ = stagesOf v e.actor.pid)
    (stamped : Stamped ⟨e.call, e.reply⟩) (lock : w.sequenceLock = v.world.sequenceLock)
    (onChain : w.onChain = v.world.onChain) (pending : w.pending = v.world.pending) : SignerSafe (v.after e w) where
  sequenced := by
    obtain ⟨served, seq⟩ := safe.sequenced
    refine ⟨served, ?_⟩
    rw [stagesOf_after, still, Function.update_eq_self, View.after_world, lock, onChain, pending]
    exact seq
  stamped := safe.stamped_after stamped

theorem drift {d} (drifted : SignerWorld.drift d v.world = some w) : SignerSafe { v with world := w } := by
  obtain ⟨served, seq⟩ := safe.sequenced
  refine ⟨⟨served, ?_⟩, safe.stamped⟩
  cases d with
  | setKillSwitch k =>
    cases drifted
    exact seq
  | «include» envelope =>
    obtain ⟨⟨member, _⟩, ⟨⟩⟩ := Option.ite_none_right_eq_some.mp drifted
    -- Something is on its way, so nobody has an unused number.
    refine { seq with numbered := ?_ }
    intro pid ticket sequence isStage
    have none := (seq.numbered pid ticket sequence isStage).2
    rw [none] at member
    cases member
  | drop envelope =>
    cases drifted
    refine { seq with numbered := ?_ }
    intro pid ticket sequence isStage
    obtain ⟨same, none⟩ := seq.numbered pid ticket sequence isStage
    exact ⟨same, by simp [none]⟩

theorem submit_sequence {envelope pid} (allowed : SequenceRule (past pid v.history) (.submit envelope)) :
    ∃ ticket, stagesOf v pid = .numbered ticket v.world.onChain ∧ envelope.sequence = v.world.onChain + 1 := by
  obtain ⟨served, seq⟩ := safe.sequenced
  rcases allowed with ⟨ticket, restoring⟩ | ⟨ticket, account, numbered, fee, rawTx, built, prepared⟩
  · exact absurd restoring (seq.unrestored pid ticket)
  · have onChain := (seq.numbered pid ticket account numbered).1
    have stampedRaw : rawTx.sequence = account + 1 := safe.stamped pid _ built
    have stampedPrepared : envelope.sequence = rawTx.sequence := safe.stamped pid _ prepared
    refine ⟨ticket, ?_, ?_⟩
    · rw [onChain]
      exact numbered
    · rw [stampedPrepared, stampedRaw, onChain]

theorem prepare (rawTx : SignedEnvelope) : Kept v (.prepare rawTx) := by
  intro actor choice reply w _ _ performed
  have stamped : Stamped ⟨.prepare rawTx, reply⟩ := by
    cases reply with
    | error => trivial
    | ok prepared =>
      cases throws : choice.throws with
      | some message => simp [perform, answer, throws] at performed
      | none =>
        simp only [perform, answer, throws, Option.some.injEq, Prod.mk.injEq, Except.ok.injEq] at performed
        rw [Stamped, ← performed.1]
  cases performed
  exact safe.quiet (observe_aside trivial) stamped rfl rfl rfl

theorem simulate (envelope : SignedEnvelope) : Kept v (.simulate envelope) := by
  intro actor choice reply w _ met performed
  have world : w = v.world := by
    cases performed
    rfl
  subst world
  have unasked : asksRestore reply = false := by simpa [countsFromBelow] using met
  refine safe.quiet ?_ trivial rfl rfl rfl
  rcases reply with e | (fee | fee | message)
  · cases stagesOf v actor.pid <;> rfl
  · cases stagesOf v actor.pid <;> rfl
  · cases unasked
  · cases stagesOf v actor.pid <;> rfl

theorem wait (ticket : Nat) : Kept v (.wait ticket) := by
  intro actor choice reply w allowed _ performed
  obtain ⟨served, seq⟩ := safe.sequenced
  have queued : stagesOf v actor.pid = .queued ticket := allowed
  obtain ⟨ready, ⟨⟩⟩ := Option.ite_none_right_eq_some.mp performed
  refine ⟨⟨served, ?_⟩, safe.stamped_after trivial⟩
  have has : (stagesOf v actor.pid).ticket = some ticket := by
    rw [queued]
    rfl
  have isServed := seq.orderly.served_of_ready (seq.shut actor.pid ticket has).1 ready
  have next : (stagesOf v actor.pid).observe ⟨.wait ticket, ()⟩ = .inside ticket := by
    rw [queued]
    rfl
  rw [stagesOf_after, next]
  refine seq.go has.symm ?_ nofun nofun fun pid' t n _ => seq.numbered pid' t n
  intro t holds
  cases holds
  exact isServed

theorem advance : Kept v .advance := by
  intro actor choice reply w allowed met performed
  obtain ⟨served, seq⟩ := safe.sequenced
  obtain ⟨ticket, isInside⟩ := allowed
  have entered : stagesOf v actor.pid = .inside ticket := isInside
  have holds : (stagesOf v actor.pid).holds = some ticket := by
    rw [entered]
    rfl
  have isServed := seq.turn actor.pid ticket holds
  simp only [countsFromBelow, Bool.and_eq_true, List.isEmpty_iff] at met
  obtain ⟨below, nothing⟩ := met
  simp only [perform] at performed
  split at performed
  · rename_i cached isCached
    cases performed
    refine ⟨⟨served, ?_⟩, safe.stamped_after trivial⟩
    have onChain : cached + 1 = v.world.onChain := by simpa [isCached] using below
    have next : (stagesOf v actor.pid).observe ⟨.advance, .ok (cached + 1)⟩ = .numbered ticket (cached + 1) := by
      rw [entered]
      rfl
    rw [stagesOf_after, next]
    refine seq.go (ticket_of_holds holds).symm ?_ nofun ?_ fun pid' t n _ => seq.numbered pid' t n
    · intro t isTicket
      cases isTicket
      exact isServed
    · intro t n isStage
      cases isStage
      exact ⟨onChain.symm, nothing⟩
  · cases performed
    refine safe.quiet ?_ trivial rfl rfl rfl
    cases stagesOf v actor.pid <;> rfl

theorem submit (envelope : SignedEnvelope) : Kept v (.submit envelope) := by
  intro actor choice reply w allowed _ performed
  obtain ⟨served, seq⟩ := safe.sequenced
  obtain ⟨ticket, numbered, _⟩ := safe.submit_sequence allowed
  have holds : (stagesOf v actor.pid).holds = some ticket := by
    rw [numbered]
    rfl
  have kept : w.sequenceLock = v.world.sequenceLock := by
    cases performed
    split <;> rfl
  refine ⟨⟨served, ?_⟩, safe.stamped_after trivial⟩
  have next : (stagesOf v actor.pid).observe ⟨.submit envelope, reply⟩ = .sent ticket := by
    rw [numbered]
    rfl
  rw [stagesOf_after, next, View.after_world, kept]
  refine seq.go (ticket_of_holds holds).symm ?_ nofun nofun ?_
  · intro t isTicket
    cases isTicket
    exact seq.turn actor.pid ticket holds
  · intro pid' t n other isStage
    -- Nobody else is inside the lock.
    have holds' : (stagesOf v pid').holds = some t := by
      rw [isStage]
      rfl
    exact absurd (seq.alone holds' holds) other

theorem step (call : SignerCall) : Kept v call := by
  intro actor choice reply w allowed met performed
  obtain ⟨served, seq⟩ := safe.sequenced
  cases call with
  | killSwitch | dryRun | cachedSequence | setCachedSequence | estimateBaseFee | sign | beforeSubmit =>
    cases performed
    exact safe.quiet (observe_aside trivial) trivial rfl rfl rfl
  | build account fee =>
    cases performed
    exact safe.quiet (observe_aside trivial) rfl rfl rfl rfl
  | getAccount | waitForConfirmation =>
    obtain ⟨_, ⟨⟩⟩ := Option.ite_none_right_eq_some.mp performed
    exact safe.quiet (observe_aside trivial) trivial rfl rfl rfl
  | prepare rawTx => exact safe.prepare rawTx allowed met performed
  | simulate envelope => exact safe.simulate envelope allowed met performed
  | enter =>
    cases performed
    refine ⟨⟨served, ?_⟩, safe.stamped_after trivial⟩
    rw [stagesOf_after]
    exact seq.enter allowed
  | wait ticket => exact safe.wait ticket allowed met performed
  | leave ticket =>
    have holds : (stagesOf v actor.pid).holds = some ticket := allowed
    cases performed
    refine ⟨⟨served + 1, ?_⟩, safe.stamped_after trivial⟩
    have outside : (stagesOf v actor.pid).observe ⟨.leave ticket, ()⟩ = .outside := by
      cases stagesOf v actor.pid <;> rfl
    rw [stagesOf_after, outside]
    exact seq.leave holds
  | advance => exact safe.advance allowed met performed
  | submit envelope => exact safe.submit envelope allowed met performed

end

end SignerSafe

/-- In every run in which numbers are counted on from one below the account's, every envelope that is handed to the
    network carries the number after the account's. -/
theorem submissions_in_sequence {ts : List SignerTransition}
    {c : Config SignerReply SignerWorld SignerRequest (Except RelayError SignerResponse)}
    (run : Run signerService carefulSigner ts c) : ∀ t ∈ ts, t.InSequence := by
  have holds := (Run.invariant (I := SignerSafe) sequenceDiscipline_followed (fun w => .initial)
    (fun v d w safe drifted => safe.drift drifted) (fun v e v' safe allowed => by
      obtain ⟨choice, w, performed, rfl⟩ := allowed.performed
      exact safe.step e.call allowed.allowed allowed.met performed) run).2
  intro t member actor envelope reply isEvent
  obtain ⟨safe, _, allowed⟩ := holds t member
  obtain ⟨_, _, inSequence⟩ := safe.submit_sequence (allowed _ isEvent).allowed
  exact inSequence

/-- The number of the envelope that a step hands to the network. -/
def SignerTransition.submitted (t : SignerTransition) : Option Nat :=
  match t.event with
  | some ⟨_, .submit envelope, _⟩ => some envelope.sequence
  | _ => none

theorem SignerTransition.not_inSequence {t : SignerTransition} {sequence : Nat}
    (submitted : t.submitted = some sequence) (wrong : sequence ≠ t.before.world.onChain + 1) : ¬ t.InSequence := by
  intro inSequence
  unfold SignerTransition.submitted at submitted
  split at submitted
  · rename_i actor envelope reply isEvent
    cases submitted
    exact wrong (inSequence actor envelope reply isEvent)
  · cases submitted

/-- A contract call whose account is read as the given number, up to its submission. -/
def callFrom (account : Nat) : List SignerMove :=
  (.arrive (.invokeContract "fill_intent" false) :: List.replicate 5 (.act 0 {}) : List SignerMove) ++
    (.act 0 { account } :: List.replicate 8 (.act 0 {}) : List SignerMove)

/-- The account has number 5 and is read as 4, from a node that is one ledger behind. The extension estimates while the
    call waits for its confirmation, and takes its number behind it. -/
def laggingRead : List SignerMove :=
  callFrom 4 ++
    ([.arrive (.extendFootprintTtl 1 none), .act 1 {}, .act 1 { account := 5 }] : List SignerMove) ++
    (List.replicate 5 (.act 1 {}) : List SignerMove) ++
    ([.drift (.include ⟨1, 6, 100⟩), .act 0 {}, .act 0 {}] : List SignerMove) ++
    (List.replicate 8 (.act 1 {}) : List SignerMove)

theorem submissions_in_sequence_lagging_read :
    ∃ (ts : List SignerTransition) (c : _), Run signerService carefulSigner ts c ∧
      ts.filterMap SignerTransition.submitted = [7, 6] ∧ ∀ t ∈ ts, t.InSequence := by
  obtain ⟨ts, c, run, submitted⟩ := Run.exists_of_trace signerService carefulSigner { onChain := 5 } laggingRead
    (fun ts _ => ts.filterMap SignerTransition.submitted == [7, 6]) ⟨rfl, rfl⟩ (fun _ _ => trivial)
      (by decide +kernel)
  exact ⟨ts, c, run, eq_of_beq submitted, submissions_in_sequence run⟩

/-- A process that has just started reads the account's number, 5, and sends 7. -/
theorem fresh_process_skips_number :
    ∃ (ts : List SignerTransition) (c : _), Run signerService freshSigner ts c ∧
      ∃ t ∈ ts, t.before.world.onChain = 5 ∧ t.submitted = some 7 ∧ ¬ t.InSequence := by
  obtain ⟨ts, c, run, found⟩ := Run.exists_of_trace signerService freshSigner { onChain := 5 } (callFrom 5)
    (fun ts _ => ts.any fun t => t.before.world.onChain == 5 && SignerTransition.submitted t == some 7) ⟨rfl, rfl⟩
    (fun _ _ => trivial)
    (by decide +kernel)
  obtain ⟨t, member, facts⟩ := List.any_eq_true.mp found
  obtain ⟨onChain, submitted⟩ := Bool.and_eq_true_iff.mp facts
  have isFive : t.before.world.onChain = 5 := eq_of_beq onChain
  have isSeven : SignerTransition.submitted t = some 7 := eq_of_beq submitted
  exact ⟨ts, c, run, t, member, isFive, isSeven, SignerTransition.not_inSequence isSeven (by omega)⟩

end VortexBackend
