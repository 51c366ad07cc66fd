/-
Module: VortexBackend.Proofs.CursorCompleteness
Purpose: A cursor poller skips no event, if answers are complete up to the latest ledger that they report.
Main exports: cursor_never_skips
-/
import VortexBackend.Soroban.CursorPollers

namespace VortexBackend

open Component

namespace CursorPoller

variable (history : List EventResponse)

/-- The answer to a poll has all events up to its latest ledger. -/
def Whole (latestLedger count : Nat) : Option (Option PollPhase) → Prop
  | some (some (.events startLedger)) =>
    (between EventResponse.ledger startLedger (latestLedger + 1) history).length ≤ count
  | _ => True

instance {history : List EventResponse} {latestLedger count : Nat} :
    (phase : Option (Option PollPhase)) → Decidable (Whole history latestLedger count phase)
  | some (some (.events startLedger)) =>
    inferInstanceAs (Decidable ((between EventResponse.ledger startLedger (latestLedger + 1) history).length ≤ count))
  | some (some .latestLedger) | some (some (.handler _ _)) | some none | none => inferInstanceAs (Decidable True)

/-- A poll that has no cursor to start from passes over no event behind the start point, and answers are whole. -/
def PollFits (poller : CursorPoller) (history : List EventResponse) (s : PollerState) : PollerOp → Prop
  | .latestLedger _ (some sequence) =>
    ∀ startPoint ∈ s.startPoint, ∀ e ∈ history, startPoint ≤ e.ledger →
      poller.startLedger sequence ≤ e.ledger
  | .events i (some (latestLedger, count)) => Whole history latestLedger count s.polls[i]?
  | _ => True

instance {poller : CursorPoller} {history : List EventResponse} {s : PollerState} :
    (op : PollerOp) → Decidable (PollFits poller history s op)
  | .latestLedger _ (some sequence) =>
    inferInstanceAs (Decidable (∀ startPoint ∈ s.startPoint, ∀ e ∈ history, startPoint ≤ e.ledger →
      poller.startLedger sequence ≤ e.ledger))
  | .events i (some (latestLedger, count)) => inferInstanceAs (Decidable (Whole history latestLedger count s.polls[i]?))
  | .poll | .latestLedger _ none | .events _ none | .handlerReturns _ | .handlerThrows _ =>
    inferInstanceAs (Decidable True)

/-- The events from the start point up to the ledger were handed over. -/
def HandedTo (startPoint ledger : Nat) (handed : List EventResponse) : Prop :=
  ∀ e ∈ history, startPoint ≤ e.ledger → e.ledger < ledger → e ∈ handed

/-- What a poll in progress has behind it. -/
def PhaseCovered (startPoint : Nat) (handed : List EventResponse) : PollPhase → Prop
  | .latestLedger => True
  | .events startLedger => HandedTo history startPoint startLedger handed
  | .handler left latestLedger => HandedTo history startPoint (latestLedger + 1) (handed ++ left)

/-- Until the first call of `getEvents` there is no cursor. From then on, cursor and polls have the events from the
    start point on behind them. -/
structure Covered (history : List EventResponse) (s : PollerState) : Prop where
  unstarted : s.startPoint = none → s.cursor = none ∧ ∀ phase, some phase ∈ s.polls → phase = .latestLedger
  cursor : ∀ startPoint, s.startPoint = some startPoint → ∀ c, s.cursor = some c →
    HandedTo history startPoint c s.handed
  polls : ∀ startPoint, s.startPoint = some startPoint → ∀ phase, some phase ∈ s.polls →
    PhaseCovered history startPoint s.handed phase

section Steps

variable {poller : CursorPoller} {history : List EventResponse} {s : PollerState}

variable {startPoint latestLedger : Nat} {handed : List EventResponse} {phase : PollPhase}
  {handed' : List EventResponse}

theorem HandedTo.mono {ledger} (covered : HandedTo history startPoint ledger handed) (more : handed ⊆ handed') :
    HandedTo history startPoint ledger handed' :=
  fun e member low high => more (covered e member low high)

theorem PhaseCovered.mono (covered : PhaseCovered history startPoint handed phase) (more : handed ⊆ handed') :
    PhaseCovered history startPoint handed' phase := by
  cases phase with
  | latestLedger => trivial
  | events startLedger => exact HandedTo.mono covered more
  | handler left latestLedger =>
    apply HandedTo.mono covered
    intro e member
    rcases List.mem_append.mp member with inHanded | inLeft
    · exact List.mem_append_left left (more inHanded)
    · exact List.mem_append_right handed' inLeft

variable {startLedger count : Nat}

theorem handedTo_answered (covered : HandedTo history startPoint startLedger handed)
    (whole : (between EventResponse.ledger startLedger (latestLedger + 1) history).length ≤ count) :
    HandedTo history startPoint (latestLedger + 1) (handed ++ answered history startLedger latestLedger count) := by
  intro e member low high
  rw [answered, List.take_of_length_le whole, List.mem_append]
  by_cases before : e.ledger < startLedger
  · exact .inl (covered e member low before)
  · exact .inr (mem_between.mpr ⟨member, Nat.not_lt.mp before, high⟩)

section

variable (covered : Covered history s)
include covered

theorem Covered.setPoll {i phase cursor} (isStart : s.startPoint = some startPoint) (more : s.handed ⊆ handed)
    (isCursor : ∀ c, cursor = some c → HandedTo history startPoint c handed)
    (isPhase : ∀ p, phase = some p → PhaseCovered history startPoint handed p) :
    Covered history { s with cursor, handed, polls := s.polls.set i phase } := by
  constructor
  · intro noStart
    cases isStart.symm.trans noStart
  · intro start isStart' c
    cases isStart.symm.trans isStart'
    exact isCursor c
  · intro start isStart' p member
    cases isStart.symm.trans isStart'
    rcases List.mem_or_eq_of_mem_set member with old | isNew
    · exact (covered.polls startPoint isStart p old).mono more
    · exact isPhase p isNew.symm

theorem Covered.started {i : Nat} (stored : s.polls[i]? = some (some phase)) (asks : phase ≠ .latestLedger) :
    ∃ startPoint, s.startPoint = some startPoint ∧ PhaseCovered history startPoint s.handed phase := by
  have member : some phase ∈ s.polls := List.mem_of_getElem? stored
  cases isStart : s.startPoint with
  | none => exact absurd ((covered.unstarted isStart).2 phase member) asks
  | some startPoint => exact ⟨startPoint, rfl, covered.polls startPoint isStart phase member⟩

theorem Covered.fail (i : Nat) : Covered history (fail s i) := by
  have old : ∀ p, some p ∈ s.polls.set i none → some p ∈ s.polls := by
    intro p member
    rcases List.mem_or_eq_of_mem_set member with old | isNew
    · exact old
    · cases isNew
  exact {
    unstarted := fun noStart =>
      ⟨(covered.unstarted noStart).1, fun p member => (covered.unstarted noStart).2 p (old p member)⟩
    cursor := covered.cursor
    polls := fun startPoint isStart p member => covered.polls startPoint isStart p (old p member) }

theorem Covered.handNext (isStart : s.startPoint = some startPoint) (i : Nat) {left}
    (behind : HandedTo history startPoint (latestLedger + 1) (s.handed ++ left)) :
    Covered history (handNext s i left latestLedger) := by
  cases left with
  | nil =>
    rw [List.append_nil] at behind
    apply covered.setPoll isStart (List.Subset.refl _)
    · rintro c ⟨⟩
      exact behind
    · exact nofun
  | cons event left =>
    have more : s.handed ⊆ s.handed ++ [event] := List.subset_append_left _ _
    apply covered.setPoll isStart more
    · exact fun c isCursor => (covered.cursor startPoint isStart c isCursor).mono more
    · rintro p ⟨⟩
      change HandedTo history startPoint (latestLedger + 1) (s.handed ++ [event] ++ left)
      rwa [List.append_assoc]

theorem Covered.receive (isStart : s.startPoint = some startPoint) (i : Nat)
    (behind : HandedTo history startPoint startLedger s.handed)
    (whole : (between EventResponse.ledger startLedger (latestLedger + 1) history).length ≤ count) :
    Covered history (receive poller s i (answered history startLedger latestLedger count) latestLedger) := by
  have all := handedTo_answered behind whole
  cases poller with
  | eventIngestion =>
    have more : s.handed ⊆ s.handed ++ answered history startLedger latestLedger count :=
      List.subset_append_left _ _
    apply covered.setPoll isStart more
    · rintro c ⟨⟩
      exact all
    · exact nofun
  | solverRegistry | guardian => exact covered.handNext isStart i all

end

theorem poll_of_none (noCursor : s.cursor = none) : poll s = { s with polls := s.polls ++ [some .latestLedger] } := by
  simp only [poll, noCursor]

theorem poll_of_some {c} (isCursor : s.cursor = some c) (isStart : s.startPoint = some startPoint) :
    poll s = { s with polls := s.polls ++ [some (.events c)] } := by
  simp only [poll, isCursor, isStart]
  rfl

section

variable (covered : Covered history s)
include covered

theorem Covered.addPoll (isPhase : s.startPoint = none → phase = .latestLedger)
    (behind : ∀ startPoint, s.startPoint = some startPoint → PhaseCovered history startPoint s.handed phase) :
    Covered history { s with polls := s.polls ++ [some phase] } := by
  have added : ∀ p, some p ∈ s.polls ++ [some phase] → some p ∈ s.polls ∨ p = phase := by
    intro p member
    rcases List.mem_append.mp member with old | isNew
    · exact .inl old
    · exact .inr (Option.some.inj (List.mem_singleton.mp isNew))
  constructor
  · intro noStart
    obtain ⟨noCursor, asking⟩ := covered.unstarted noStart
    refine ⟨noCursor, fun p member => ?_⟩
    rcases added p member with old | rfl
    · exact asking p old
    · exact isPhase noStart
  · exact covered.cursor
  · intro startPoint isStart p member
    rcases added p member with old | rfl
    · exact covered.polls startPoint isStart p old
    · exact behind startPoint isStart

theorem Covered.poll : Covered history (poll s) := by
  cases isCursor : s.cursor with
  | none =>
    rw [poll_of_none isCursor]
    exact covered.addPoll (fun _ => rfl) (fun _ _ => trivial)
  | some c =>
    cases isStart : s.startPoint with
    | none => cases (covered.unstarted isStart).1.symm.trans isCursor
    | some startPoint =>
      rw [poll_of_some isCursor isStart]
      apply covered.addPoll
      · intro noStart
        cases isStart.symm.trans noStart
      · exact fun start isStart' => covered.cursor start isStart' c isCursor

/-- The first poll that asks for events sets the start point. A later one without a cursor starts where it has no event
    between the start point and itself. -/
theorem Covered.startFrom (i : Nat) {sequence} (passes : PollFits poller history s (.latestLedger i (some sequence))) :
    Covered history (startFrom poller s i sequence) := by
  cases isStart : s.startPoint with
  | some startPoint =>
    have behind : HandedTo history startPoint (poller.startLedger sequence) s.handed := by
      intro e member low high
      have later := passes startPoint isStart e member low
      omega
    have sameStart : CursorPoller.startFrom poller s i sequence =
        { s with
          cursor := if poller = .guardian then some (poller.startLedger sequence) else s.cursor
          polls := s.polls.set i (some (.events (poller.startLedger sequence))) } := by
      simp only [CursorPoller.startFrom, isStart]
      rfl
    rw [sameStart]
    apply covered.setPoll isStart (List.Subset.refl _)
    · intro c isCursor
      split at isCursor
      · cases isCursor
        exact behind
      · exact covered.cursor startPoint isStart c isCursor
    · rintro p ⟨⟩
      exact behind
  | none =>
    obtain ⟨noCursor, asking⟩ := covered.unstarted isStart
    have isFirst : (CursorPoller.startFrom poller s i sequence).startPoint = some (poller.startLedger sequence) := by
      simp only [CursorPoller.startFrom, isStart]
      rfl
    have vacuous : HandedTo history (poller.startLedger sequence) (poller.startLedger sequence) s.handed := by
      intro e _ low high
      omega
    constructor
    · intro noStart
      cases isFirst.symm.trans noStart
    · intro start isStart' c isCursor
      cases isFirst.symm.trans isStart'
      simp only [CursorPoller.startFrom, noCursor] at isCursor
      split at isCursor
      · cases isCursor
        exact vacuous
      · cases isCursor
    · intro start isStart' p member
      cases isFirst.symm.trans isStart'
      rcases List.mem_or_eq_of_mem_set member with old | isNew
      · rw [asking p old]
        trivial
      · cases isNew
        exact vacuous

/-- Every operation that fits keeps the events covered. -/
theorem Covered.step {op : PollerOp} (fits : PollFits poller history s op) :
    Covered history (CursorPoller.step poller history s op).2 := by
  cases op with
  | poll => exact covered.poll
  | latestLedger i sequence =>
    simp only [CursorPoller.step]
    split
    · exact covered.startFrom i fits
    · exact covered.fail i
    · exact covered
  | events i answer =>
    simp only [CursorPoller.step]
    split
    · rename_i startLedger latestLedger count stored
      simp only [PollFits, stored] at fits
      obtain ⟨startPoint, isStart, behind⟩ := covered.started stored (by simp)
      exact covered.receive isStart i behind fits
    · exact covered.fail i
    · exact covered
  | handlerReturns i =>
    simp only [CursorPoller.step]
    split
    · rename_i stored
      obtain ⟨startPoint, isStart, behind⟩ := covered.started stored (by simp)
      exact covered.handNext isStart i behind
    · exact covered
  | handlerThrows i =>
    simp only [CursorPoller.step]
    split
    · exact covered.fail i
    · exact covered

end

end Steps

theorem covered_initial : Covered history {} where
  unstarted _ := ⟨rfl, nofun⟩
  cursor _ isStart := nomatch isStart
  polls _ isStart := nomatch isStart

/-- In every run of a poller whose answers are whole, and whose polls without a cursor pass over no event behind the
    start point, every event from the start point on was handed to the handler by the time the cursor is behind its
    ledger. -/
theorem cursor_never_skips {poller : CursorPoller} {history : List EventResponse} {ops : List PollerOp}
    (fits : Component.Meets (step poller history) (fun _ => PollFits poller history) [] {} ops) :
    ∀ s ∈ states (step poller history) {} ops,
      ∀ startPoint cursor, s.startPoint = some startPoint → s.cursor = some cursor →
        ∀ e ∈ history, startPoint ≤ e.ledger → e.ledger < cursor → e ∈ s.handed := by
  intro s reached startPoint cursor isStart isCursor
  have covered : Covered history s :=
    states_invariant (Covered history) (fun _ _ _ covered fits => covered.step fits) ops [] {}
      (covered_initial history) fits s reached
  exact covered.cursor startPoint isStart cursor isCursor

def eventAt (ledger index : Nat) : EventResponse where
  id := toString ledger ++ "-" ++ toString index
  ledger

/-- Two polls at once, and a handler that throws. -/
private def overlappingPolls : List PollerOp :=
  [.poll, .latestLedger 0 (some 20000), .events 0 (some (20000, 100)), .handlerReturns 0, .poll, .poll,
    .events 1 (some (20002, 100)), .events 2 none, .handlerThrows 1, .poll, .events 3 (some (20002, 100)),
    .handlerReturns 3]

theorem cursor_never_skips_overlapping :
    Component.Meets (step .guardian [eventAt 20000 0, eventAt 20001 0])
      (fun _ => PollFits .guardian [eventAt 20000 0, eventAt 20001 0]) [] {} overlappingPolls ∧
    ∀ s ∈ states (step .guardian [eventAt 20000 0, eventAt 20001 0]) {} overlappingPolls,
      ∀ startPoint cursor, s.startPoint = some startPoint → s.cursor = some cursor →
        ∀ e ∈ [eventAt 20000 0, eventAt 20001 0], startPoint ≤ e.ledger → e.ledger < cursor →
          e ∈ s.handed := by
  have fits : Component.Meets (step .guardian [eventAt 20000 0, eventAt 20001 0])
      (fun _ => PollFits .guardian [eventAt 20000 0, eventAt 20001 0]) [] {} overlappingPolls := by
    decide +kernel
  exact ⟨fits, cursor_never_skips fits⟩

/-- After an answer with the first of two events the cursor is behind both. -/
def SkipsSecond (poller : CursorPoller) : Prop :=
  (run (step poller [eventAt 20000 0, eventAt 20000 1]) {}
    [.poll, .latestLedger 0 (some 20000), .events 0 (some (20000, 1)), .handlerReturns 0]).2 =
  { cursor := some 20001
    polls := [none]
    handed := [eventAt 20000 0]
    startPoint := some (poller.startLedger 20000) }

/-- Each poller passes over the second of two events of its start ledger if the answer has only the first one. -/
theorem truncated_answer_skips :
    SkipsSecond .eventIngestion ∧ SkipsSecond .solverRegistry ∧ SkipsSecond .guardian := by
  unfold SkipsSecond
  decide +kernel

end CursorPoller

end VortexBackend
