/-
Module: VortexBackend.Proofs.SignedReplays
Purpose: A replay changes nothing unless an older amendment brings its terms back.
Main exports: replays_change_nothing, amendsNothing_of_amendedLast
-/
import VortexBackend.Proofs.TrancheListing
import VortexBackend.Proofs.TrancheLock

namespace VortexBackend

open Async PartialFillService BackendWorld
open Async (calls_bind calls_attempt calls_pure calls_throwWhen)
open IntentsService (calls_plain calls_nowSeconds)

/-! ### Replays -/

/-- A request that has to be signed and changes terms or tranches. -/
def BackendRequest.isReplayable : BackendRequest → Bool
  | .amend .. | .reserve .. => true
  | _ => false

/-- The call by which a program accepted the request: it wrote the intent, or added the tranche. -/
def accepts (request : BackendRequest) (e : BackendEvent) : Bool :=
  e.actor.request == request && ((e.call.wrote e.reply).isSome || (e.call.tranche e.reply).isSome)

/-- The calls that were made before the first call of a program; all of them, if it has made none. -/
def earlierThan (pid : Nat) : List BackendEvent → List BackendEvent
  | [] => []
  | e :: history =>
    if history.any (·.actor.pid == pid) then earlierThan pid history
    else if e.actor.pid = pid then history
    else e :: history

/-- The program started after its very request had been accepted. -/
def replayed (actor : Actor BackendRequest) (history : List BackendEvent) : Bool :=
  actor.request.isReplayable && (earlierThan actor.pid history).any (accepts actor.request)

variable {pid : Nat} {history : List BackendEvent} {w : BackendWorld} {choice : BackendChoice}
  {call : BackendCall}

theorem earlierThan_of_none (none : history.any (·.actor.pid == pid) = false) : earlierThan pid history = history := by
  cases history with
  | nil => rfl
  | cons e history =>
    rw [List.any_cons, Bool.or_eq_false_iff] at none
    rw [earlierThan, if_neg (by simp [none.2]), if_neg (by simpa using none.1)]

variable {e : BackendEvent}

theorem earlierThan_cons (started : e.actor.pid = pid ∨ history.any (·.actor.pid == pid) = true) :
    earlierThan pid (e :: history) = earlierThan pid history := by
  cases any : history.any (·.actor.pid == pid) with
  | true => rw [earlierThan, if_pos any]
  | false =>
    have own : e.actor.pid = pid := started.resolve_right (by simp [any])
    rw [earlierThan, if_neg (by simp [any]), if_pos own, earlierThan_of_none any]

theorem any_of_past {x} (made : x ∈ past pid history) : history.any (·.actor.pid == pid) = true := by
  obtain ⟨e, member, own, _⟩ := mem_past.mp made
  exact List.any_eq_true.mpr ⟨e, member, beq_iff_eq.mpr own⟩

/-! ### What the two handlers do -/

/-- Calls that change neither intents nor tranches. -/
def BackendCall.Inert (call : BackendCall) : Prop := call.Plain ∨ call.lockFree = false

instance : AllowsPlain BackendCall.Plain := ⟨fun _ isPlain => isPlain⟩

/-- The rows and the terms allow the amount. -/
def planAllows (srcAmount : String) (minFillAmount : Option String) (rows : List IntentFill) (amount : String) : Bool :=
  match planReservation srcAmount minFillAmount rows amount with
  | some (.ok _) => true
  | _ => false

/-- Under the lock: the program has listed the tranches and then found the intent open, and on the terms of an intent
    that it read before, the listed tranches leave the amount. -/
def MayInsert (past : List BackendExchange) (amount : String) : Prop :=
  ∃ id key rows earlier, ∃ current intent : Intent,
    past = ⟨.intents (.findById id), some current⟩ :: ⟨.fills (.listByIntent key), rows⟩ :: earlier ∧
    current.state = .open ∧ (∃ id', ⟨.intents (.findById id'), some intent⟩ ∈ earlier) ∧
    planAllows intent.srcAmount intent.minFillAmount rows amount = true

/-- What an amendment and a reservation may write. -/
def ReplayRule : BackendRequest → List BackendExchange → BackendCall → Prop
  | .amend id dto, _, call => call.Inert ∨ call = .intents (.amendIfOpen id dto.minDstAmount dto.deadline none)
  | .reserve _ dto, past, call => call.Inert ∨ (∃ row, call = .fills (.insert row)) ∧ MayInsert past dto.amount
  | _, _, _ => True

def replayDiscipline : BackendDiscipline where
  allows := ReplayRule

section Handlers

variable {α β : Type} {cfg : BackendSettings} {allows : List BackendExchange → BackendCall → Prop}
  {past : List BackendExchange}

theorem follows_inert_bind {x} {f : α → Backend β} (inert : ∀ past call, call.Inert → allows past call)
    (calls : x.Calls BackendCall.Plain)
    (rest : ∀ value past', past <:+ past' → (f value).Follows allows (fun _ _ => True) past') :
    (x >>= f).Follows allows (fun _ _ => True) past := by
  apply follows_calls_bind calls
  · exact fun _ _ c plain => inert _ c (.inl plain)
  · exact fun _ _ _ => trivial
  · exact fun value recent _ => rest value _ (List.suffix_append _ _)

theorem follows_inert {x : Backend α} (inert : ∀ past call, call.Inert → allows past call)
    (calls : x.Calls BackendCall.Plain) : x.Follows allows (fun _ _ => True) past := by
  apply follows_of_calls calls
  · exact fun _ _ c plain => inert _ c (.inl plain)
  · exact fun _ _ _ => trivial

theorem amend_follows (id : String) (dto : AmendIntentDto) :
    (IntentsController.amend id dto).Follows (ReplayRule (.amend id dto)) (fun _ _ => True) past := by
  have inert : ∀ past call, call.Inert → ReplayRule (.amend id dto) past call := fun _ _ isInert => .inl isInert
  apply follows_inert_bind inert
  · refine calls_bind (calls_plain trivial) fun stored => ?_
    cases stored <;> trivial
  · intro intent past₁ _
    apply follows_inert_bind inert (calls_throwWhen _ _)
    intro _ past₂ _
    apply follows_inert_bind inert (calls_signatureCheck _ _ _)
    intro _ past₃ _
    refine .call_bind (.inr rfl) fun amended => ?_
    cases amended with
    | none | some =>
      apply follows_inert inert
      exact calls_bind (calls_plain trivial) fun _ => trivial

theorem calls_assertReservable (intent : Intent) (now : Nat) :
    (assertReservable intent now).Calls BackendCall.Plain := by
  refine calls_bind (calls_throwWhen _ _) fun _ => ?_
  refine calls_bind (calls_throwWhen _ _) fun _ => ?_
  exact calls_bind (calls_throwWhen _ _) fun _ => calls_throwWhen _ _

theorem reserveLocked_follows {id dto intent request key intentId now}
    (loaded : ⟨.intents (.findById key), some intent⟩ ∈ past)
    (asked : ∀ rows, planReservation request.srcAmount request.minFillAmount rows request.amount =
      planReservation intent.srcAmount intent.minFillAmount rows dto.amount) :
    (FillsRepository.reserveLocked request (stillOpen intentId now)).Follows
      (ReplayRule (.reserve id dto)) (fun _ _ => True) past := by
  refine .call_bind (.inl (.inl trivial)) fun rows => ?_
  refine (follows_bind _ _).mpr (.call_bind (.inl (.inl trivial)) fun current => ?_)
  rw [follows_pure, onOk_ok]
  split
  · trivial
  · rename_i stillOpen
    refine (follows_bind _ _).mpr ?_
    cases planned : planReservation request.srcAmount request.minFillAmount rows request.amount with
    | none => trivial
    | some plan =>
      cases plan with
      | rejected reason remaining => trivial
      | ok after =>
        refine (follows_bind _ _).mpr ?_
        cases newFillRow request with
        | none => trivial
        | some row =>
          refine .call_bind (.inr ⟨⟨row, rfl⟩, ?_⟩) fun _ => trivial
          cases current with
          | none => exact absurd rfl stillOpen
          | some current =>
            have isOpen : (current.state == .open && decide (now < current.deadline)) = true := by
              simpa using stillOpen
            refine ⟨_, _, rows, past, current, intent, rfl, ?_, ⟨key, loaded⟩, ?_⟩
            · exact eq_of_beq (Bool.and_eq_true_iff.mp isOpen).1
            · rw [planAllows, ← asked rows, planned]

theorem reserve_follows (id : String) (dto : ReserveTrancheDto) :
    (IntentFillsController.reserve cfg id dto).Follows (ReplayRule (.reserve id dto)) (fun _ _ => True) past := by
  have inert : ∀ past call, call.Inert → ReplayRule (.reserve id dto) past call := fun _ _ isInert => .inl isInert
  refine (follows_bind _ _).mpr (.call_bind (.inl (.inl trivial)) fun stored => ?_)
  cases stored with
  | none => trivial
  | some intent =>
    apply follows_inert_bind inert
    · refine calls_bind (calls_plain trivial) fun k => ?_
      split <;> trivial
    · intro _ past₁ longer₁
      apply follows_inert_bind inert (calls_signatureCheck _ _ _)
      intro _ past₂ longer₂
      apply follows_inert_bind inert (calls_eligibilityCheck _ _ _)
      intro _ past₃ longer₃
      apply follows_inert_bind inert (calls_deliveryCheck trivial)
      intro _ past₄ longer₄
      apply follows_inert_bind inert (calls_nowSeconds)
      intro now past₅ longer₅
      apply follows_inert_bind inert (calls_assertReservable intent now)
      intro _ past₆ longer₆
      have longer := longer₁.trans (longer₂.trans (longer₃.trans (longer₄.trans (longer₅.trans longer₆))))
      have loaded : ⟨.intents (.findById id), some intent⟩ ∈ past₆ := longer.mem (.head _)
      apply follows_bind_of (P := fun _ _ => True)
      · unfold FillsRepository.reserve FillsRepository.withLock
        refine .call_bind (.inl (.inr rfl)) fun ticket => ?_
        refine .call_bind (.inl (.inr rfl)) fun _ => ?_
        refine (follows_tryFinally _ _).mpr (follows_mono (fun outcome past' _ => ?_)
          (reserveLocked_follows (.tail _ (.tail _ loaded)) fun _ => rfl))
        refine ⟨.inl (.inr rfl), fun _ => ?_⟩
        cases outcome <;> trivial
      · intro result past₇ _ _
        cases result with
        | rejected reason remaining => trivial
        | ok fill =>
          apply follows_inert inert
          refine calls_bind (calls_plain trivial) fun _ => ?_
          refine calls_bind ?_ fun details => ?_
          · refine calls_bind (calls_plain trivial) fun rows => ?_
            refine calls_bind ?_ fun _ => trivial
            unfold Backend.bigInt
            split <;> trivial
          · exact calls_bind (calls_attempt (calls_plain trivial)) fun _ => trivial

end Handlers

theorem replayDiscipline_followed {cfg E} : replayDiscipline.Followed (backendService cfg) E := by
  intro request _
  cases request with
  | amend id dto => exact follows_respond (amend_follows id dto)
  | reserve id dto => exact follows_respond (reserve_follows id dto)
  | _ => exact Program.follows_free _

/-! ### Runs -/

/-- An amendment finds the intent closed, or its own terms. -/
def amendsNothing (w : BackendWorld) (id : String) (dto : AmendIntentDto) : Bool :=
  (w.intents.get id).all fun stored =>
    stored.state != .open || stored.deadline ≤ w.clock / 1000 || dto.deadline ≤ w.clock / 1000 ||
      (stored.minDstAmount == dto.minDstAmount && stored.deadline == dto.deadline)

/-- The terms of an intent that the program read refuse the amount beside these tranches. -/
def refusesAmount (rows : List IntentFill) (amount : String) : BackendExchange → Bool
  | ⟨.intents (.findById _), some intent⟩ => !planAllows intent.srcAmount intent.minFillAmount rows amount
  | _ => true

/-- A replayed amendment finds, when it writes, the intent closed or its own terms; and a replayed reservation finds,
    when it has listed the tranches under the lock and reads the intent again, the intent closed or too little left. -/
def replaysLate (v : BackendView) (e : BackendEvent) (_ : BackendWorld) : Bool :=
  if replayed e.actor v.history then
    match e.actor.request, e.call, past e.actor.pid v.history with
    | .amend _ dto, .intents (.amendIfOpen id ..), _ => amendsNothing v.world id dto
    | .reserve _ dto, .intents (.findById id), ⟨.fills (.listByIntent _), rows⟩ :: earlier =>
      (v.world.intents.get id).all (·.state != .open) || earlier.all (refusesAmount rows dto.amount)
    | _, _, _ => true
  else true

/-- Every run of the backend. -/
def anyBackend : BackendSetting where
  initial _ := True
  admits _ := True

/-- The runs whose replays come late. -/
def lateReplays : BackendSetting where
  initial _ := True
  admits _ := True
  meets := replaysLate

/-- No intent and no tranche changes in the step of a replay. -/
def ReplayInert (t : BackendTransition) : Prop :=
  ∀ e, t.event = some e → replayed e.actor t.before.history = true →
    (∀ id, t.after.world.intents.get id = t.before.world.intents.get id) ∧
      ∀ fillId, t.after.world.fills.get fillId = t.before.world.fills.get fillId

/-- A replayed reservation that has just read its intent again, behind a list of tranches, found it closed or too
    little left. -/
def Warned (v : BackendView) : Prop :=
  ∀ actor id dto, (∀ e ∈ v.history, e.actor.pid = actor.pid → e.actor = actor) →
    actor.request = .reserve id dto →
    replayed actor v.history = true → ∀ id' key rows earlier, ∀ current : Intent,
    past actor.pid v.history =
      ⟨.intents (.findById id'), some current⟩ :: ⟨.fills (.listByIntent key), rows⟩ :: earlier →
    current.state ≠ .open ∨ earlier.all (refusesAmount rows dto.amount) = true

theorem Warned.step {v} (warned : Warned v) (met : replaysLate v e w = true)
    (performed : perform e.call choice v.world = some (e.reply, w)) : Warned (v.after e w) := by
  intro actor id dto owns isReserve isReplay id' key rows earlier current shape
  by_cases own : e.actor.pid = actor.pid
  · have isActor : e.actor = actor := owns e (.head _) own
    subst isActor
    rw [past_own rfl] at shape
    obtain ⟨head, tail⟩ := List.cons.inj shape
    rw [View.after_history, replayed, earlierThan_cons (.inl rfl), ← replayed] at isReplay
    obtain ⟨actor, call, reply⟩ := e
    cases head
    have isStored : v.world.intents.get id' = some current := (Prod.mk.inj (Option.some.inj performed)).1
    simp only [replaysLate, isReplay, if_true] at met
    rw [isReserve, tail] at met
    rcases Bool.or_eq_true_iff.mp met with closed | refused
    · left
      simpa [isStored] using closed
    · exact .inr refused
  · rw [past_other own] at shape
    have made : (⟨.intents (.findById id'), some current⟩ : BackendExchange) ∈ past actor.pid v.history := by
      rw [shape]
      exact .head _
    rw [View.after_history, replayed, earlierThan_cons (.inr (any_of_past made)), ← replayed] at isReplay
    exact warned actor id dto (fun e' member => owns e' (.tail _ member)) isReserve isReplay id' key rows
      earlier current
      shape

theorem BackendCall.Inert.wrote (inert : call.Inert) (reply : BackendReply call) : call.wrote reply = none := by
  cases call with
  | intents c =>
    cases c with
    | findById | findAll | findByState | findByUser => rfl
    | _ => rcases inert with plain | lock <;> contradiction
  | _ => rfl

theorem BackendCall.Inert.tranche (inert : call.Inert) (reply : BackendReply call) : call.tranche reply = none := by
  cases call with
  | fills c =>
    cases c with
    | findById | listByIntent | findExpiredReservations | enter | wait | leave => rfl
    | _ => rcases inert with plain | lock <;> contradiction
  | _ => rfl

variable {w' : BackendWorld}

theorem perform_inert {reply} (inert : call.Inert) (performed : perform call choice w = some (reply, w')) :
    w'.intents = w.intents ∧ w'.fills = w.fills := by
  constructor
  · rcases perform_intents_cases performed with ⟨_, same⟩ | ⟨id, rfl, _⟩ | ⟨c, updated, rfl, wrote, _⟩
    · exact same
    · rcases inert with plain | lock <;> contradiction
    · rw [inert.wrote] at wrote
      cases wrote
  · rcases perform_tranche_cases performed with same | ⟨row, fill, fresh, rfl, _⟩ |
      ⟨c, current, updated, present, same, sameIntent, rfl, tranche, _⟩
    · exact same
    · rcases inert with plain | lock <;> contradiction
    · rw [inert.tranche] at tranche
      cases tranche

theorem perform_amend {id dto reply} (nothing : amendsNothing w id dto = true)
    (performed : perform (.intents (.amendIfOpen id dto.minDstAmount dto.deadline none)) choice w =
      some (reply, w')) : ∀ id', w'.intents.get id' = w.intents.get id' := by
  intro id'
  rcases perform_intents_cases performed with
    ⟨_, same⟩ | ⟨_, isDelete, _⟩ | ⟨c, updated, isCall, _, stored, how⟩
  · rw [same]
  · cases isDelete
  · cases isCall
    rcases how with isSave | ⟨existing, found, isId, isOpen, alive, later, rfl⟩
    · cases isSave
    · -- The write goes through, so the terms are the stored ones.
      have same : existing.minDstAmount = dto.minDstAmount ∧ existing.deadline = dto.deadline := by
        have target : w.intents.get id = some existing := isId ▸ found
        simp only [Option.getD_none] at alive later
        simp only [amendsNothing, target, Option.all_some, Bool.or_eq_true, bne_iff_ne, ne_eq, decide_eq_true_eq,
          Bool.and_eq_true, beq_iff_eq] at nothing
        rcases nothing with ((notOpen | late) | past) | same
        · exact absurd isOpen notOpen
        · omega
        · omega
        · exact same
      rw [stored, IntentStore.get_put]
      split
      · rename_i isTarget
        rw [isTarget, found, ← same.1, ← same.2]
      · rfl

/-- In every run in which replays come late, the replay of a signed amendment or reservation that was accepted once
    changes no intent and no tranche. -/
theorem replays_change_nothing {cfg : BackendSettings} {ts : List BackendTransition} {c : BackendConfig}
    (run : Run (backendService cfg) lateReplays ts c) : ∀ t ∈ ts, ReplayInert t := by
  have holds := (Run.invariant (I := Warned) replayDiscipline_followed
    (fun w _ actor id dto _ _ _ id' key rows earlier current shape => nomatch shape)
    (fun v d w warned drifted => warned) (fun v e v' warned allowed => by
      obtain ⟨choice, w, performed, rfl⟩ := allowed.performed
      exact warned.step allowed.met performed) run).2
  intro t member e isEvent isReplay
  obtain ⟨warned, _, each⟩ := holds t member
  have allowed := each e isEvent
  obtain ⟨choice, w, performed, after⟩ := allowed.performed
  have world : t.after.world = w := congrArg View.world after
  change perform e.call choice t.before.world = some (e.reply, w) at performed
  rw [world]
  have unchanged : ∀ inert : e.call.Inert, (∀ id, w.intents.get id = t.before.world.intents.get id) ∧
      ∀ fillId, w.fills.get fillId = t.before.world.fills.get fillId := by
    intro inert
    obtain ⟨intents, fills⟩ := perform_inert inert performed
    exact ⟨fun _ => by rw [intents], fun _ => by rw [fills]⟩
  have rule := allowed.allowed
  have met := allowed.met
  obtain ⟨actor, call, reply⟩ := e
  obtain ⟨pid, request⟩ := actor
  cases request with
  | amend id dto =>
    rcases rule with inert | rfl
    · exact unchanged inert
    · have nothing : amendsNothing t.before.world id dto = true := Eq.trans (if_pos isReplay).symm met
      refine ⟨perform_amend nothing performed, fun fillId => ?_⟩
      rw [fills_of_intents performed rfl]
  | reserve id dto =>
    rcases rule with
      inert | ⟨⟨row, rfl⟩, id', key, rows, earlier, current, intent, shape, isOpen, ⟨key', loaded⟩, allows⟩
    · exact unchanged inert
    · -- The program was warned when it read the intent again.
      exfalso
      have owns :
        ∀ e ∈ t.before.view.history, e.actor.pid = pid → e.actor = ⟨pid, .reserve id dto⟩ := allowed.actor
      rcases warned ⟨pid, .reserve id dto⟩ id dto owns rfl isReplay id' key rows earlier current shape with
        closed | refused
      · exact closed isOpen
      · have refusedHere := List.all_eq_true.mp refused _ loaded
        simp [refusesAmount, allows] at refusedHere
  | _ => cases isReplay

/-- The latest write of the intent was this amendment. -/
def AmendedLast (id : String) (dto : AmendIntentDto) : List BackendEvent → Prop
  | [] => False
  | e :: history =>
    if (e.call.wrote e.reply).any (·.intentId == id) then
      e.call = .intents (.amendIfOpen id dto.minDstAmount dto.deadline none)
    else AmendedLast id dto history

/-- The intent has the terms of an amendment that no other write of it has followed. -/
def TermsKept (id : String) (dto : AmendIntentDto) (v : BackendView) : Prop :=
  AmendedLast id dto v.history → (v.world.intents.get id).all (fun stored =>
    stored.minDstAmount == dto.minDstAmount && stored.deadline == dto.deadline) = true

theorem TermsKept.step {id dto e choice} {v : BackendView} {w : BackendWorld} (kept : TermsKept id dto v)
    (performed : perform e.call choice v.world = some (e.reply, w)) : TermsKept id dto (v.after e w) := by
  obtain ⟨pid, call, reply⟩ := e
  intro last
  rw [View.after_history, AmendedLast] at last
  change (w.intents.get id).all _ = true
  rcases perform_intents_cases performed with ⟨unwritten, same⟩ | ⟨id', rfl, deleted⟩ |
    ⟨c, updated, rfl, written, put, how⟩
  · rw [unwritten] at last
    rw [same]
    exact kept last
  · rw [deleted, IntentStore.get_delete]
    split
    · rfl
    · exact kept last
  · rw [written, Option.any_some] at last
    rw [put, IntentStore.get_put]
    split
    · rename_i isId
      rw [if_pos (by simp [isId])] at last
      cases last
      rcases how with isSave | ⟨existing, _, _, _, _, _, rfl⟩
      · cases isSave
      · simp
    · rename_i other
      rw [if_neg (by simpa using Ne.symm other)] at last
      exact kept last

/-- While that is so, a replay of the amendment finds its own terms. -/
theorem amendsNothing_of_amendedLast {cfg ts} {c : BackendConfig} {id dto}
    (run : Run (backendService cfg) anyBackend ts c) (last : AmendedLast id dto c.history) :
    amendsNothing c.world id dto = true := by
  have kept : TermsKept id dto c.view := by
    apply (run.invariant (I := TermsKept id dto) (Discipline.free_followed _ _) (fun _ _ => nofun) ?_ ?_).1
    · intro v d w kept drifted
      rw [TermsKept, intents_drift drifted]
      exact kept
    · intro v e v' kept allowed
      obtain ⟨choice, w, performed, rfl⟩ := allowed.performed
      exact kept.step performed
  have terms := kept last
  change (c.world.intents.get id).all _ = true at terms
  unfold amendsNothing
  cases isStored : c.world.intents.get id with
  | none => rfl
  | some stored =>
    rw [isStored, Option.all_some] at terms
    rw [Option.all_some, terms, Bool.or_true]

private def reserveMost : BackendRequest := .reserve "I" ⟨"A", "60", ""⟩

private def amendTo (minDstAmount : String) : BackendRequest := .amend "I" ⟨"U", minDstAmount, 100, ""⟩

/-- The step of a replay that leaves the intent at the least amount given. -/
def replaysTo (minDstAmount : String) (t : BackendTransition) : Bool :=
  (t.event.any fun e => replayed e.actor t.before.history) &&
    (t.after.world.intents.get "I").any (·.minDstAmount == minDstAmount)

/-- A tranche of 60 out of 100 is reserved and the amount to deliver is lowered; then both requests come again. -/
theorem replays_too_late :
    ∃ ts c, Run (backendService {}) lateReplays ts c ∧ (∃ t ∈ ts, replaysTo "80" t = true) ∧
      ∀ t ∈ ts, ReplayInert t := by
  obtain ⟨ts, c, run, comes⟩ := Run.exists_of_trace (backendService {}) lateReplays partialIntentWorld
    (List.flatten [[.arrive reserveMost, .arrive (amendTo "80"), .arrive reserveMost, .arrive (amendTo "80")],
      List.replicate 12 (.act 0 (bondedSolver "F1")), List.replicate 3 (.act 1 {}),
      List.replicate 9 (.act 2 (bondedSolver "F2")), List.replicate 3 (.act 3 {})])
    (fun ts _ => ts.any (replaysTo "80")) trivial (by simp [lateReplays]) (by decide +kernel)
  exact ⟨ts, c, run, List.any_eq_true.mp comes, replays_change_nothing run⟩

/-- The user asks for at least 80, then for at least 95, and the first request comes again: 80 is enough once more. -/
theorem replayed_amendment_restores_terms :
    ∃ ts c, Run (backendService {}) anyBackend ts c ∧ ∃ t ∈ ts, ∃ e, t.event = some e ∧
      replayed e.actor t.before.history = true ∧
      (t.before.world.intents.get "I").map (·.minDstAmount) = some "95" ∧
      (t.after.world.intents.get "I").map (·.minDstAmount) = some "80" := by
  obtain ⟨ts, c, run, comes⟩ := Run.exists_of_trace (backendService {}) anyBackend partialIntentWorld
    (List.flatten [[.arrive (amendTo "80"), .arrive (amendTo "95"), .arrive (amendTo "80")],
      List.replicate 3 (.act 0 {}), List.replicate 3 (.act 1 {}), List.replicate 3 (.act 2 {})])
    (fun ts _ => ts.any fun t => t.event.any fun e => replayed e.actor t.before.history &&
      (t.before.world.intents.get "I").map (·.minDstAmount) == some "95" &&
      (t.after.world.intents.get "I").map (·.minDstAmount) == some "80")
    trivial (by simp [anyBackend]) (by decide +kernel)
  obtain ⟨t, member, replays⟩ := List.any_eq_true.mp comes
  rw [Option.any_eq_true] at replays
  obtain ⟨e, isEvent, holds⟩ := replays
  simp only [Bool.and_eq_true, beq_iff_eq] at holds
  exact ⟨ts, c, run, t, member, e, isEvent, holds.1.1, holds.1.2, holds.2⟩

end VortexBackend
