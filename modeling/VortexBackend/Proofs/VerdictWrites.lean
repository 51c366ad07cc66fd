/-
Module: VortexBackend.Proofs.VerdictWrites
Purpose: A verdict is stored if no other write comes between its read and its write. The loop never retries.
Main exports: verdict_stored
-/
import VortexBackend.Proofs.ServiceCalls

namespace VortexBackend

open SourceDepositVerification Async IntentStore
open IntentsService (calls_one calls_plain)

/-! ### What a verification does -/

/-- How far a verification has come: its check, which intent it read last and what it found, and whether it wrote its
    verdict. -/
structure VerdictMemory where
  check : Option DepositCheck := none
  read : Option (String × Option Intent) := none
  wrote : Bool := false

variable (m : VerdictMemory)

def VerdictMemory.observe : BackendExchange → VerdictMemory
  | ⟨.external (.verifyDeposit _), .ok check⟩ => { m with check := some check }
  | ⟨.intents (.findById id), stored⟩ => { m with read := some (id, stored) }
  | ⟨.intents (.update ..), _⟩ => { m with wrote := true }
  | _ => m

abbrev verdictMemory : List BackendExchange → VerdictMemory := remember VerdictMemory.observe {}

theorem VerdictMemory.observe_read (e : BackendExchange) : (m.observe e).read = m.read ∨
      ∃ id stored, e = ⟨.intents (.findById id), stored⟩ ∧ (m.observe e).read = some (id, stored) := by
  unfold observe
  split
  · exact .inl rfl
  · exact .inr ⟨_, _, rfl, rfl⟩
  · exact .inl rfl
  · exact .inl rfl

theorem mem_of_wrote {past} (wrote : (verdictMemory past).wrote = true) :
    ∃ id patch version reply, ⟨.intents (.update id patch version), reply⟩ ∈ past := by
  induction past with
  | nil => cases wrote
  | cons e past ih =>
    have earlier (same : (verdictMemory (e :: past)).wrote = (verdictMemory past).wrote) :
        ∃ id patch version reply, ⟨.intents (.update id patch version), reply⟩ ∈ e :: past := by
      obtain ⟨id, patch, version, reply, member⟩ := ih (same.symm.trans wrote)
      exact ⟨id, patch, version, reply, List.mem_cons_of_mem e member⟩
    obtain ⟨call, reply⟩ := e
    cases call with
    | external c =>
      cases c with
      | verifyDeposit => cases reply <;> exact earlier rfl
      | _ => exact earlier rfl
    | intents c =>
      cases c with
      | update id patch version => exact ⟨id, patch, version, reply, List.mem_cons_self⟩
      | _ => exact earlier rfl
    | _ => exact earlier rfl

/-- A verification checks and reads before it writes, and it writes its verdict on the open intent that it read, at the
    version that it read. -/
def VerdictCall (intent : Intent) (now : Nat) (m : VerdictMemory) : BackendCall → Prop
  | .external (.verifyDeposit _) => m.wrote = false
  | .intents (.findById id) => id = intent.intentId ∧ m.wrote = false
  | .intents (.update id patch version) => ∃ check current, m.check = some check ∧
      m.read = some (intent.intentId, some current) ∧ id = current.intentId ∧ patch = verdict check now ∧
      version = current.version
  | .intents _ => False
  | _ => True

/-- The intent was gone or not open when the verification read it. -/
def VerdictMemory.Closed : Prop :=
  ∃ id stored, m.read = some (id, stored) ∧ ∀ current, stored = some current → current.state ≠ .open

/-- With a verdict, a verification ends when it has written it, unless the intent is not open any more. -/
def VerdictMemory.Finished : Prop := m.check = none ∨ m.Closed ∨ m.wrote = true

def verdictDiscipline : BackendDiscipline where
  allows
    | .verifyOne intent now, past, call => VerdictCall intent now (verdictMemory past) call
    | _, _, _ => True
  returns
    | .verifyOne .., _, past => (verdictMemory past).Finished
    | _, _, _ => True

/-! ### The condition -/

/-- The intent has the version that is expected. -/
def hasVersion (w : BackendWorld) (id : String) (expectedVersion : Option Nat) : Bool :=
  (w.intents.get id).any fun stored => expectedVersion.all (stored.currentVersion == ·)

/-- The condition on one call: a verification that writes its verdict finds the intent at the version that it read. -/
def versionKept (v : BackendView) (e : BackendEvent) (_ : BackendWorld) : Bool :=
  match e with
  | ⟨⟨_, .verifyOne ..⟩, .intents (.update id _ expectedVersion), _⟩ => hasVersion v.world id expectedVersion
  | _ => true

/-- Every request is admitted, from every state of the stores. -/
def verdictSetting (meets : BackendView → BackendEvent → BackendWorld → Bool) : BackendSetting where
  initial := fun _ => True
  admits := fun _ => True
  meets

/-! ### The verification follows this -/

variable {id : String}

section Follows

variable {cfg : BackendSettings} {intent : Intent} {now : Nat} {check : DepositCheck} {past : List BackendExchange}

/-- Calls that leave no trace in what is remembered. -/
private def Unremembered : BackendCall → Prop
  | .schedule _ | .external (.broadcast ..) => True
  | _ => False

private abbrev Verifies (intent : Intent) (now : Nat) {α : Type} (x : Backend α) (past : List BackendExchange)
    (P : VerdictMemory → Prop) : Prop :=
  x.Follows (fun past call => VerdictCall intent now (verdictMemory past) call)
    (fun _ past' => P (verdictMemory past')) past

variable {P : VerdictMemory → Prop}

theorem follows_unremembered {α : Type} {x : Backend α} (calls : x.Calls Unremembered)
    (holds : P (verdictMemory past)) : Verifies intent now x past P := by
  apply follows_aside calls
  · intro m c reply unremembered
    cases c with
    | schedule => rfl
    | external c =>
      cases c with
      | broadcast => rfl
      | _ => cases unremembered
    | _ => cases unremembered
  · intro m c unremembered
    cases c with
    | schedule => trivial
    | external c =>
      cases c with
      | broadcast => trivial
      | _ => cases unremembered
    | _ => cases unremembered
  · exact holds

theorem calls_backoff (intentId : String) (multiplier : Nat) : (backoff intentId now multiplier).Calls Unremembered :=
  calls_bind (calls_one trivial) fun _ => calls_one trivial

theorem follows_reschedule_bind {α : Type} {f : Unit → Backend α} (intentId : String)
    (rest : ∀ past', verdictMemory past' = verdictMemory past → Verifies intent now (f ()) past' P) :
    Verifies intent now (reschedule intentId check now >>= f) past P := by
  unfold reschedule
  split
  · exact .call_bind trivial fun _ => rest _ rfl
  · apply (follows_bind _ _).mpr
    refine .call_bind trivial fun entry => ?_
    exact (follows_call _ _).mpr ⟨trivial, fun _ => rest _ rfl⟩

theorem finished_of_closed {stored} (closed : ∀ current, stored = some current → current.state ≠ .open) :
    (verdictMemory (⟨.intents (.findById id), stored⟩ :: past)).Finished :=
  .inr (.inl ⟨id, stored, rfl, closed⟩)

theorem follows_mutateWithRetry (attempts : Nat) (checked : (verdictMemory past).check = some check)
    (unwritten : (verdictMemory past).wrote = false) :
    Verifies intent now (IntentsService.mutateWithRetry intent.intentId (writeVerdict check now) (attempts + 1) .missed)
      past VerdictMemory.Finished := by
  rw [IntentsService.mutateWithRetry]
  refine .call_bind ⟨rfl, unwritten⟩ fun stored => ?_
  cases stored with
  | none =>
    apply (follows_pure _).mpr
    apply finished_of_closed
    intro current isSome
    cases isSome
  | some current =>
    by_cases isOpen : current.state = .open
    · have pending : writeVerdict check now current = some _ := if_pos isOpen
      simp only [pending]
      have allowed : VerdictCall intent now
          (verdictMemory (⟨.intents (.findById intent.intentId), some current⟩ :: past))
          (.intents (.update current.intentId (verdict check now) current.version)) :=
        ⟨check, current, checked, rfl, rfl, rfl, rfl⟩
      refine (follows_bind _ _).mpr ((follows_bind _ _).mpr ((follows_bind _ _).mpr
        ((follows_call _ _).mpr ⟨allowed, fun result => ?_⟩)))
      cases result <;> exact (follows_pure _).mpr (.inr (.inr rfl))
    · have givesUp : writeVerdict check now current = none := if_neg isOpen
      simp only [givesUp]
      apply (follows_pure _).mpr
      apply finished_of_closed
      intro other isSome
      cases isSome
      exact isOpen

theorem follows_report (result : MutationResult) (finished : (verdictMemory past).Finished) :
    Verifies intent now
      (match result.toOption with
        | none => pure ()
        | some _ =>
          if check.status = .verified ∧ intent.srcVerified ≠ some true then
            attempt (Backend.external (.broadcast .srcVerified intent.intentId))
          else if check.status ≠ .verified ∧ intent.srcVerified = some true then
            attempt (Backend.external (.broadcast .srcUnverified intent.intentId))
          else pure ()) past VerdictMemory.Finished := by
  apply follows_unremembered _ finished
  split
  · exact calls_pure _
  · split
    · exact calls_attempt (calls_one trivial)
    · split
      · exact calls_attempt (calls_one trivial)
      · exact calls_pure _

theorem follows_persist (checked : (verdictMemory past).check = some check)
    (unwritten : (verdictMemory past).wrote = false) :
    Verifies intent now (persist intent check now) past VerdictMemory.Finished := by
  apply follows_reschedule_bind
  intro past' same
  rw [← same] at checked unwritten
  apply (follows_bind _ _).mpr
  apply follows_mono _ (follows_mutateWithRetry 2 checked unwritten)
  intro outcome past'' finished
  cases outcome with
  | error => exact finished
  | ok result => exact follows_report result finished

theorem follows_verifyOne : Verifies intent now (verifyOne cfg intent now) [] VerdictMemory.Finished := by
  have unchecked : (verdictMemory []).Finished := .inl rfl
  unfold verifyOne
  split
  · exact unchecked
  · refine .call_bind rfl fun outcome => ?_
    cases outcome with
    | error e =>
      have failed (multiplier : Nat) : Verifies intent now
          (backoff intent.intentId now multiplier >>= fun _ => pure (none : Option DepositCheck))
          [⟨.external (.verifyDeposit intent), .error e⟩] VerdictMemory.Finished :=
        follows_unremembered (calls_bind (calls_backoff _ _) fun _ => calls_pure _) unchecked
      cases e with
      | other message rateLimited => cases rateLimited <;> exact failed _
      | _ => exact failed _
    | ok check =>
      apply (follows_bind _ _).mpr
      apply follows_mono _ (follows_persist rfl rfl)
      intro outcome past' finished
      cases outcome <;> exact finished

theorem verdict_followed (meets : BackendView → BackendEvent → BackendWorld → Bool) :
    verdictDiscipline.Followed (backendService cfg) (verdictSetting meets) := by
  intro request _
  cases request with
  | verifyOne intent now => exact follows_respond follows_verifyOne
  | _ => exact Program.follows_free _

end Follows

/-! ### One write -/

/-- What is stored of the last check. -/
def Intent.srcVerdict (intent : Intent) : Option Bool × Option SrcVerificationStatus :=
  (intent.srcVerified, intent.srcVerification.map (·.status))

/-- The intent is stored with the verdict of the check. -/
abbrev VerdictStored (w : BackendWorld) (id : String) (check : DepositCheck) : Prop :=
  (w.intents.get id).map Intent.srcVerdict = some (some (check.status == .verified), some check.status)

variable {choice : BackendChoice} {reply : MutationResult} {version : Option Nat}

theorem VerdictStored.of_update {w w' check now} (current : hasVersion w id version = true)
    (performed : BackendWorld.perform (.intents (.update id (verdict check now) version)) choice w = some (reply, w')) :
    VerdictStored w' id check := by
  rw [hasVersion] at current
  cases found : w.intents.get id with
  | none =>
    rw [found] at current
    cases current
  | some stored =>
    rw [found, Option.any_some] at current
    have isCurrent : ∀ expected, version = some expected → stored.currentVersion = expected := by
      intro expected isSome
      rw [isSome, Option.all_some, beq_iff_eq] at current
      exact current
    simp only [BackendWorld.perform, perform, update,
      mutate_of_current _ found isCurrent, if_true] at performed
    cases performed
    have isId : id = (bumped stored (·.assign (verdict check now))).intentId :=
      (intentId_of_get found).symm
    rw [VerdictStored, get_put, if_pos isId]
    rfl

theorem VerdictCall.keeps {intent now m call} (allowed : VerdictCall intent now m call) (wrote : m.wrote = true)
    (reply : BackendReply call) :
    (m.observe ⟨call, reply⟩).wrote = true ∧ (m.observe ⟨call, reply⟩).check = m.check := by
  cases call with
  | external c =>
    cases c with
    | verifyDeposit =>
      have unwritten : m.wrote = false := allowed
      rw [wrote] at unwritten
      cases unwritten
    | _ => exact ⟨wrote, rfl⟩
  | intents c =>
    cases c with
    | findById =>
      have unwritten : m.wrote = false := allowed.2
      rw [wrote] at unwritten
      cases unwritten
    | update => exact ⟨rfl, rfl⟩
    | _ => cases allowed
  | _ => exact ⟨wrote, rfl⟩

/-! ### Runs -/

variable (history : List BackendEvent)

/-- What program `pid` has done of its verification. -/
abbrev verification (pid : Nat) : VerdictMemory := verdictMemory (past pid history)

/-- Whatever a program has read is the intent that it asked for. -/
def ReadKeyed : Prop :=
  ∀ pid id current, (verification history pid).read = some (id, some current) → current.intentId = id

variable {w : BackendWorld} {v : BackendView}

theorem ReadKeyed.step {e} (keyed : ReadKeyed v.history)
    (performed : BackendWorld.perform e.call choice v.world = some (e.reply, w)) : ReadKeyed (v.after e w).history := by
  intro pid id current read
  by_cases own : e.actor.pid = pid
  · rw [verification, past_own own] at read
    obtain ⟨actor, call, reply⟩ := e
    rcases VerdictMemory.observe_read (verification v.history pid) ⟨call, reply⟩ with
      same | ⟨id', stored, isFind, isRead⟩
    · exact keyed pid id current (same.symm.trans read)
    · cases isFind
      cases isRead.symm.trans read
      simp only [BackendWorld.perform, perform, Option.some.injEq, Prod.mk.injEq] at performed
      exact intentId_of_get performed.1
  · rw [verification, past_other own] at read
    exact keyed pid id current read

/-- Does the step write the intent for program `pid`? -/
def writesIntent (pid : Nat) (t : BackendTransition) : Bool :=
  match t.event with
  | some ⟨actor, .intents (.update ..), _⟩ => actor.pid == pid
  | _ => false

theorem exists_of_writesIntent {pid t} (writes : writesIntent pid t = true) :
    ∃ request id patch version reply,
      t.event = some ⟨⟨pid, request⟩, .intents (.update id patch version), reply⟩ := by
  unfold writesIntent at writes
  split at writes
  · rename_i actor id patch version reply isEvent
    obtain ⟨pid', request⟩ := actor
    cases beq_iff_eq.mp writes
    exact ⟨request, id, patch, version, reply, isEvent⟩
  · cases writes

/-- The program wrote its verdict with the step, and it has no other verdict. -/
def VerdictKept (actor : Actor BackendRequest) (t : BackendTransition) : Prop :=
  ∀ intent now, actor.request = .verifyOne intent now → (verification history actor.pid).wrote = true ∧
    ∃ check, (verification history actor.pid).check = some check ∧ VerdictStored t.after.world intent.intentId check

/-- What is known at the end of a run about the writes of program `pid`. -/
structure VerdictsKept (pid : Nat) (ts : List BackendTransition) (c : BackendConfig) : Prop where
  keyed : ReadKeyed c.history
  kept : ∀ t ∈ ts, writesIntent pid t = true →
    ∃ e ∈ c.history, t.event = some e ∧ e.actor.pid = pid ∧ VerdictKept c.history e.actor t

namespace VerdictsKept

variable {cfg : BackendSettings} {pid : Nat} {ts : List BackendTransition} {t : BackendTransition} {e : BackendEvent}

theorem quiet (known : VerdictsKept pid ts t.before) (noCall : t.event = none)
    (same : t.after.history = t.before.history) : VerdictsKept pid (t :: ts) t.after := by
  constructor
  · rw [same]
    exact known.keyed
  · intro t' member writes
    rw [same]
    rcases List.mem_cons.mp member with rfl | earlier
    · obtain ⟨_, _, _, _, _, isEvent⟩ := exists_of_writesIntent writes
      rw [noCall] at isEvent
      cases isEvent
    · exact known.kept t' earlier writes

theorem kept_later {actor} (kept : VerdictKept v.history actor t)
    (allowed : verdictDiscipline.allows e.actor.request (past e.actor.pid v.history) e.call)
    (same : actor.pid = e.actor.pid → actor = e.actor) : VerdictKept (v.after e w).history actor t := by
  intro intent now isRequest
  obtain ⟨wrote, check, checked, stored⟩ := kept intent now isRequest
  by_cases own : e.actor.pid = actor.pid
  · have isActor := same own.symm
    subst isActor
    rw [isRequest] at allowed
    have keeps := VerdictCall.keeps allowed wrote e.reply
    rw [verification, past_own rfl]
    exact ⟨keeps.1, check, keeps.2.trans checked, stored⟩
  · rw [verification, past_other own]
    exact ⟨wrote, check, checked, stored⟩

theorem kept_now {request patch} (keyed : ReadKeyed v.history)
    (isEvent : e = ⟨⟨pid, request⟩, .intents (.update id patch version), reply⟩)
    (allowed : verdictDiscipline.allows e.actor.request (past e.actor.pid v.history) e.call)
    (performed : BackendWorld.perform e.call choice v.world = some (e.reply, w)) (met : versionKept v e w = true)
    (after : t.after.world = w) : VerdictKept (v.after e w).history e.actor t := by
  subst isEvent
  intro intent now isRequest
  cases (show request = _ from isRequest)
  obtain ⟨check, current, checked, read, isId, isPatch, _⟩ := allowed
  have isIntent := keyed pid intent.intentId current read
  subst isPatch
  rw [isIntent] at isId
  subst isId
  rw [verification, past_own rfl, after]
  exact ⟨rfl, check, checked, .of_update met performed⟩

theorem call (known : VerdictsKept pid ts t.before) (isEvent : t.event = some e)
    (allowed : Run.Allowed (backendService cfg) (verdictSetting versionKept) verdictDiscipline t.before.view e
      t.after.view) : VerdictsKept pid (t :: ts) t.after := by
  obtain ⟨⟨⟨choice, w, performed, isAfter⟩, met⟩, allows, actors⟩ := allowed
  have history : t.after.history = (View.after t.before.view e w).history := congrArg View.history isAfter
  have world : t.after.world = w := congrArg View.world isAfter
  constructor
  · rw [history]
    exact known.keyed.step performed
  · intro t' member writes
    rw [history]
    rcases List.mem_cons.mp member with rfl | earlier
    · obtain ⟨request, id, patch, version, reply, isUpdate⟩ := exists_of_writesIntent writes
      have isCall := Option.some.inj (isEvent.symm.trans isUpdate)
      refine ⟨e, List.mem_cons_self, isEvent, congrArg (·.actor.pid) isCall, ?_⟩
      exact kept_now known.keyed isCall allows performed met world
    · obtain ⟨e', made, isEvent', own, kept⟩ := known.kept t' earlier writes
      refine ⟨e', List.mem_cons_of_mem _ made, isEvent', own, ?_⟩
      exact kept_later kept allows (actors e' made)

end VerdictsKept

theorem exists_write {ts c cfg} (run : Run (backendService cfg) (verdictSetting versionKept) ts c) {pid}
    (wrote : (verification c.history pid).wrote = true) : ∃ t ∈ ts, writesIntent pid t = true := by
  obtain ⟨id, patch, version, reply, made⟩ := mem_of_wrote wrote
  obtain ⟨⟨actor, call, _⟩, member, own, isCall⟩ := mem_past.mp made
  rw [run.history_eq, List.mem_filterMap] at member
  obtain ⟨t, isStep, isEvent⟩ := member
  cases isCall
  refine ⟨t, isStep, ?_⟩
  rw [writesIntent, isEvent]
  exact beq_iff_eq.mpr own

/-- If the intent has the version that was read whenever a verdict is written, every verification that completed its
    check and found the intent open writes its verdict, and the verdict is stored when its loop ends with that write. -/
theorem verdict_stored {cfg : BackendSettings} {ts : List BackendTransition} {c : BackendConfig}
    (run : Run (backendService cfg) (verdictSetting versionKept) ts c) {pid : Nat} {intent : Intent} {now : Nat}
    {outcome : Except BackendError BackendResponse} (ended : c.returned pid = some (.verifyOne intent now, outcome))
    {check : DepositCheck} (checked : (verification c.history pid).check = some check)
    (stayedOpen : ¬ (verification c.history pid).Closed) :
    (∃ t ∈ ts, writesIntent pid t = true) ∧
      ∀ t ∈ ts, writesIntent pid t = true → VerdictStored t.after.world intent.intentId check := by
  have finished : (verification c.history pid).Finished := Run.returned (verdict_followed versionKept) run ended
  have wrote : (verification c.history pid).wrote = true := by
    rcases finished with unchecked | closed | wrote
    · rw [checked] at unchecked
      cases unchecked
    · exact absurd closed stayedOpen
    · exact wrote
  refine ⟨exists_write run wrote, ?_⟩
  intro t member writes
  have known : VerdictsKept pid ts c := by
    apply Run.induct (P := VerdictsKept pid) (verdict_followed versionKept) _ _ _ run
    · intro w _
      constructor
      · intro pid id current read
        cases read
      · intro t member
        cases member
    · intro ts t known noCall same _
      exact known.quiet noCall same
    · intro ts t e known isEvent allowed
      exact known.call isEvent allowed
  obtain ⟨e, made, isEvent, own, kept⟩ := known.kept t member writes
  obtain ⟨_, check', checked', stored⟩ := kept intent now (run.request_of_returned ended made own)
  rw [own] at checked'
  cases checked.symm.trans checked'
  exact stored

private def verifying : BackendSettings := { verifiedChains := [.base] }

private def unverified : Intent := { sampleIntent with version := some 0 }

private def oneUnverified : BackendWorld := { intents := empty.put unverified }

/-- Two verifications overlap. The second one stores its verdict while the first one is checking the deposit; the first
    one then reads the new version and stores its own. -/
theorem overlapping_verdict_stored :
    ∃ ts c, Run (backendService verifying) (verdictSetting versionKept) ts c ∧
      (∃ t ∈ ts, writesIntent 1 t = true) ∧ (∃ t ∈ ts, writesIntent 0 t = true) ∧
      ∀ t ∈ ts, writesIntent 0 t = true → VerdictStored t.after.world "I" { status := .verified } := by
  obtain ⟨ts, c, run, last⟩ := Run.exists_of_trace (backendService verifying) (verdictSetting versionKept)
    oneUnverified
      (List.flatten [[.arrive (.verifyOne unverified 7000), .arrive (.verifyOne unverified 7000), .act 0 {}],
      List.replicate 5 (.act 1 { deposit := { status := .notFound } }), List.replicate 4 (.act 0 {})])
    (fun ts c => ts.any (writesIntent 1) && (c.returned 0).any (·.1 == .verifyOne unverified 7000) &&
      (verification c.history 0).check == some { status := .verified } &&
      (verification c.history 0).read.any fun read => read.2.any (·.state == .open))
    trivial (fun _ _ => trivial) (by decide)
  simp only [Bool.and_eq_true, List.any_eq_true, Option.any_eq_true, beq_iff_eq] at last
  obtain ⟨⟨⟨other, ⟨request, outcome⟩, ended, isRequest⟩, checked⟩, read, isRead, current, isCurrent,
    isOpen⟩ := last
  subst isRequest
  refine ⟨ts, c, run, other, verdict_stored run ended checked ?_⟩
  rintro ⟨id, stored, isRead', closed⟩
  cases isRead.symm.trans isRead'
  exact closed current isCurrent isOpen

/-- Did the step refuse a write of program `pid` for its version? -/
def conflicts (pid : Nat) (t : BackendTransition) : Bool :=
  match t.event with
  | some ⟨actor, .intents (.update ..), .versionConflict ..⟩ => actor.pid == pid
  | _ => false

/-- Without the condition: two verifications read the same version of an open intent and the first one stores its
    verdict. The write of the second one is refused once, it does not try again, and its verdict is lost. -/
theorem verdict_lost :
    ∃ ts c, Run (backendService verifying) (verdictSetting fun _ _ _ => true) ts c ∧
      (∃ outcome, c.returned 1 = some (.verifyOne unverified 7000, outcome)) ∧
      (∀ t ∈ ts, (t.after.world.intents.get "I").map (·.state) = some .open) ∧
      ts.countP (conflicts 1) = 1 ∧ 1 < IntentsService.MAX_VERSION_RETRIES ∧
      ∃ check, (verification c.history 1).check = some check ∧ ¬ VerdictStored c.world "I" check := by
  obtain ⟨ts, c, run, last⟩ := Run.exists_of_trace (backendService verifying) (verdictSetting fun _ _ _ => true)
    oneUnverified (List.flatten [[.arrive (.verifyOne unverified 7000), .arrive (.verifyOne unverified 7000)],
      List.replicate 3 (.act 0 {}), List.replicate 4 (.act 1 { deposit := { status := .notFound } }),
      [.act 0 {}, .act 1 {}]])
    (fun ts c => (c.returned 1).any (·.1 == .verifyOne unverified 7000) &&
      ts.all (fun t => (t.after.world.intents.get "I").map (·.state) == some .open) &&
      ts.countP (conflicts 1) == 1 && (verification c.history 1).check == some { status := .notFound } &&
      !decide (VerdictStored c.world "I" { status := .notFound }))
    trivial (fun _ _ => trivial) (by decide)
  simp only [Bool.and_eq_true, Option.any_eq_true, List.all_eq_true, beq_iff_eq, Bool.not_eq_true',
    decide_eq_false_iff_not] at last
  obtain ⟨⟨⟨⟨⟨⟨request, outcome⟩, ended, isRequest⟩, stayedOpen⟩, once⟩, checked⟩, notStored⟩ :=
    last
  subst isRequest
  exact ⟨ts, c, run, ⟨outcome, ended⟩, stayedOpen, once, by decide, _, checked, notStored⟩

end VortexBackend
