/-
Module: VortexBackend.Proofs.NoEarlyExpiry
Purpose: No intent expires early, while no amendment comes between a caller's reads of intent and clock.
Main exports: no_early_expiry
-/
import VortexBackend.Proofs.HandlerCalls

namespace VortexBackend

open BackendWorld

/-- When a caller that has just loaded an intent reads the clock, the intent, if it is still open, has the
    deadline that was loaded. -/
def deadlineUnamended (v : BackendView) (e : BackendEvent) : Bool :=
  match e.call, justLoaded (past e.actor.pid v.history) with
  | .now, some (id, intent) =>
    (v.world.intents.get id).all fun stored => stored.state != .open || stored.deadline == intent.deadline
  | _, _ => true

/-- Any stores, and the requests that expire, amend, accept or cancel. -/
def expiryRuns : BackendSetting where
  initial _ := True
  admits
    | .sweep | .expireJob _ | .accept .. | .amend .. | .cancel .. => True
    | _ => False

/-- The runs in which no amendment comes between a load and the reading of the clock that follows it. -/
def expirySetting : BackendSetting := { expiryRuns with meets := fun v e _ => deadlineUnamended v e }

/-- The stored deadline of an intent that this step moves from open to expired. -/
def expiredDeadline (id : String) (t : BackendTransition) : Option Nat :=
  match t.before.world.intents.get id, t.after.world.intents.get id with
  | some before, some after =>
    if before.state = .open ∧ after.state = .expired then some before.deadline else none
  | _, _ => none

/-! ### The invariant -/

variable {cfg : BackendSettings} {seen : List BackendExchange}

/-- The intent is not open, or its deadline has passed. -/
def NotEarly (w : BackendWorld) (id : String) : Prop :=
  ∀ stored, w.intents.get id = some stored → stored.state = .open → stored.deadline ≤ w.clock / 1000

/-- No clock reading is ahead of the clock, what was loaded has the id it was loaded by, and what a program has
    seen overdue is not early. -/
structure ExpirySound (v : BackendView) : Prop where
  clock : ∀ pid ms, (⟨.now, ms⟩ : BackendExchange) ∈ past pid v.history → ms ≤ v.world.clock
  keyed : ∀ pid id intent,
    (⟨.intents (.findById id), some intent⟩ : BackendExchange) ∈ past pid v.history →
    intent.intentId = id
  overdue : ∀ pid id, Overdue (past pid v.history) id → NotEarly v.world id

variable {id : String}

namespace ExpirySound

variable {v : BackendView} {e : BackendEvent} {w : BackendWorld} {choice : BackendChoice}

theorem initial {w} : ExpirySound ⟨w, []⟩ where
  clock := by simp
  keyed := by simp
  overdue := by
    intro pid id overdue
    cases overdue

theorem drift (sound : ExpirySound v) {d} (drifted : drift d v.world = some w) : ExpirySound { v with world := w } := by
  have later := clock_drift drifted
  have same := intents_drift drifted
  constructor
  · intro pid ms read
    exact (sound.clock pid ms read).trans later
  · exact sound.keyed
  · intro pid id overdue stored present isOpen
    rw [same] at present
    have passed := sound.overdue pid id overdue stored present isOpen
    exact passed.trans (Nat.div_le_div_right later)

theorem notEarly_step (notEarly : NotEarly v.world id) (known : Knows cfg seen e.call)
    (performed : perform e.call choice v.world = some (e.reply, w)) : NotEarly w id := by
  intro stored present isOpen
  rw [perform_clock performed]
  rcases known.stored_after performed present with same | ⟨c, before, _, found, _, write⟩
  · exact notEarly stored same isOpen
  · obtain ⟨wasOpen, live⟩ := write.open_before isOpen
    exact absurd (notEarly before found wasOpen) (Nat.not_le.mpr live)

section

variable (sound : ExpirySound v)
include sound

section

variable (performed : perform e.call choice v.world = some (e.reply, w))
include performed

theorem clock_step (pid ms : Nat) (read : (⟨.now, ms⟩ : BackendExchange) ∈ past pid (v.after e w).history) :
    ms ≤ w.clock := by
  rw [perform_clock performed]
  rcases mem_past_cons.mp read with ⟨_, now⟩ | earlier
  · obtain ⟨actor, call, reply⟩ := e
    cases now
    cases performed
    exact le_rfl
  · exact sound.clock pid ms earlier

theorem keyed_step (pid : Nat) (id : String) (intent : Intent)
    (read : (⟨.intents (.findById id), some intent⟩ : BackendExchange) ∈ past pid (v.after e w).history) :
    intent.intentId = id := by
  rcases mem_past_cons.mp read with ⟨_, now⟩ | earlier
  · obtain ⟨actor, call, reply⟩ := e
    cases now
    simp only [perform, IntentStore.perform, Option.some.injEq, Prod.mk.injEq] at performed
    exact IntentStore.intentId_of_get performed.1
  · exact sound.keyed pid id intent earlier

end

variable {actor : Actor BackendRequest} {intent : Intent}

theorem notEarly_listed {list} (performed : perform (.intents (.findByState .open)) choice v.world = some (list, w))
    (member : intent ∈ list) {ms} (read : (⟨.now, ms⟩ : BackendExchange) ∈ past actor.pid v.history)
    (passed : intent.deadline ≤ ms / 1000) : NotEarly w intent.intentId := by
  cases performed
  intro stored present _
  obtain ⟨found, _⟩ := IntentStore.mem_findByState.mp member
  cases found.symm.trans present
  exact passed.trans (Nat.div_le_div_right (sound.clock actor.pid ms read))

/-- An intent that is overdue by the deadline that was loaded is overdue by the deadline that is stored, when
    that is the same. -/
theorem notEarly_loaded {ms} (performed : perform .now choice v.world = some (ms, w)) {key id}
    (loaded : justLoaded (past actor.pid v.history) = some (key, intent))
    (unamended : deadlineUnamended v ⟨actor, .now, ms⟩ = true) (names : id = key ∨ id = intent.intentId)
    (passed : intent.deadline ≤ ms / 1000) : NotEarly w id := by
  cases performed
  have isKey : id = key := by
    rcases names with isKey | isId
    · exact isKey
    · rw [isId]
      exact sound.keyed actor.pid key intent (justLoaded_mem loaded)
  subst isKey
  intro stored present isOpen
  simp only [deadlineUnamended, loaded] at unamended
  rw [present, Option.all_some, Bool.or_eq_true, bne_iff_ne, beq_iff_eq] at unamended
  rcases unamended with closed | same
  · exact absurd isOpen closed
  · rw [same]
    exact passed

theorem step (known : Knows cfg seen e.call) (unamended : deadlineUnamended v e = true)
    (performed : perform e.call choice v.world = some (e.reply, w)) : ExpirySound (v.after e w) where
  clock := sound.clock_step performed
  keyed := sound.keyed_step performed
  overdue := by
    intro pid id overdue
    by_cases own : e.actor.pid = pid
    · rw [past_own own] at overdue
      subst own
      obtain ⟨actor, call, reply⟩ := e
      cases overdue with
      | listed read member passed => exact sound.notEarly_listed performed member read passed
      | loaded loaded names passed => exact sound.notEarly_loaded performed loaded unamended names passed
      | later _ before => exact notEarly_step (sound.overdue actor.pid id before) known performed
    · rw [past_other own] at overdue
      exact notEarly_step (sound.overdue pid id overdue) known performed

end

end ExpirySound

/-! ### Whole runs -/

variable {t : BackendTransition}

theorem expiredDeadline_quiet (same : t.after.world.intents = t.before.world.intents) :
    expiredDeadline id t = none := by
  unfold expiredDeadline
  rw [same]
  split
  · rename_i before after isBefore isAfter
    cases isBefore.symm.trans isAfter
    rw [if_neg]
    rintro ⟨isOpen, isExpired⟩
    cases isOpen.symm.trans isExpired
  · rfl

theorem expiredDeadline_call {e} (sound : ExpirySound t.before.view)
    (step : Run.Allowed (backendService cfg) expirySetting (handlerDiscipline cfg) t.before.view e t.after.view)
    {deadline} (expired : expiredDeadline id t = some deadline) : deadline ≤ t.before.world.clock / 1000 := by
  obtain ⟨⟨⟨choice, w, performed, isAfter⟩, _⟩, known, _⟩ := step
  have isWorld : t.after.world = w := congrArg View.world isAfter
  unfold expiredDeadline at expired
  split at expired
  · rename_i before after present present'
    obtain ⟨⟨wasOpen, isExpired⟩, ⟨⟩⟩ := Option.ite_none_right_eq_some.mp expired
    rw [isWorld] at present'
    rcases known.stored_after performed present' with same | ⟨c, existing, _, found, _, write⟩
    · cases present.symm.trans same
      cases wasOpen.symm.trans isExpired
    · cases present.symm.trans found
      cases write with
      | expired overdue _ _ =>
        rw [IntentStore.intentId_of_get present] at overdue
        exact sound.overdue _ id overdue before present wasOpen
      | parked parks => exact absurd isExpired parks.pending.2.1
      | amended _ _ is | extended _ is | accepted _ _ _ is | filled _ _ _ is | cancelled _ _ _ is | slashed _ _ is =>
        cases is.symm.trans isExpired
  · cases expired

/-- For any interleaving of sweeps, expire jobs, accepts, amendments and cancels, an intent moves from open to
    expired only when the deadline that is stored on it has passed. -/
theorem no_early_expiry {ts : List BackendTransition} {c : BackendConfig}
    (run : Run (backendService cfg) expirySetting ts c) :
    ∀ t ∈ ts, ∀ id deadline, expiredDeadline id t = some deadline →
      deadline ≤ t.before.world.clock / 1000 := by
  have followed : (handlerDiscipline cfg).Followed (backendService cfg) expirySetting := by
    apply handlers_followed
    intro request admitted
    cases request with
    | sweep | expireJob | accept | amend | cancel => rfl
    | _ => cases admitted
  apply Run.steps (I := ExpirySound) (P := fun t => ∀ id deadline, expiredDeadline id t = some deadline →
    deadline ≤ t.before.world.clock / 1000) followed (fun _ _ => .initial)
      (fun _ _ _ sound => sound.drift) ?_ ?_ ?_ run
  · intro v e v' sound step
    obtain ⟨⟨⟨choice, w, performed, rfl⟩, unamended⟩, known, _⟩ := step
    exact sound.step known unamended performed
  · intro t moved id deadline expired
    rw [expiredDeadline_quiet (intents_quiet moved)] at expired
    cases expired
  · intro t e sound step id deadline expired
    exact expiredDeadline_call sound step expired

/-- A millisecond before the deadline of the sample intent. -/
private def lastMoment : BackendWorld where
  clock := 99999
  intents := IntentStore.empty.put sampleIntent

private def later : AmendIntentDto := { user := "U", minDstAmount := "90", deadline := 200, signature := "" }

/-- The user moves the deadline to 200, and a sweep of that time expires the intent. -/
theorem amended_then_expired :
    ∃ ts c, Run (backendService {}) expirySetting ts c ∧
      ∃ t ∈ ts, expiredDeadline "I" t = some 200 ∧ 200 ≤ t.before.world.clock / 1000 := by
  obtain ⟨ts, c, run, expires⟩ := Run.exists_of_trace (backendService {}) expirySetting lastMoment
    (List.flatten [[.arrive (.amend "I" later), .arrive .sweep], List.replicate 3 (.act 0 {}),
      [.drift (.tick 100001)], List.replicate 4 (.act 1 {})])
    (fun ts _ => ts.any fun t => expiredDeadline "I" t == some 200) trivial
    (by simp [expirySetting, expiryRuns]) (by decide +kernel)
  obtain ⟨t, member, expired⟩ := List.any_eq_true.mp expires
  have isDeadline := beq_iff_eq.mp expired
  exact ⟨ts, c, run, t, member, isDeadline, no_early_expiry run t member "I" 200 isDeadline⟩

/-- An accept loads the intent; the user moves the deadline from 100 to 200; the clock reaches 100, and the
    accept expires the intent by the deadline it loaded. -/
theorem amended_expired_early :
    ∃ ts c, Run (backendService {}) expiryRuns ts c ∧
      ∃ t ∈ ts, expiredDeadline "I" t = some 200 ∧ t.before.world.clock / 1000 = 100 := by
  obtain ⟨ts, c, run, expires⟩ := Run.exists_of_trace (backendService {}) expiryRuns lastMoment
    (List.flatten [[.arrive (.accept "I" ⟨"S", ""⟩), .arrive (.amend "I" later), .act 0 {}],
      List.replicate 3 (.act 1 {}),
      [.drift (.tick 1)], List.replicate 3 (.act 0 {})])
    (fun ts _ => ts.any fun t => expiredDeadline "I" t == some 200 && t.before.world.clock / 1000 == 100) trivial
    (by simp [expiryRuns]) (by decide +kernel)
  obtain ⟨t, member, expired⟩ := List.any_eq_true.mp expires
  rw [Bool.and_eq_true, beq_iff_eq, beq_iff_eq] at expired
  exact ⟨ts, c, run, t, member, expired⟩

end VortexBackend
