/-
Module: VortexBackend.Proofs.FeedReplay
Purpose: When a replay sends what live delivery would have sent, over the WebSocket and over SSE.
Main exports: replay_eq_live_iff
-/
import VortexBackend.Intents.Feed

namespace VortexBackend.Feed

/-- The filter does not ask for the chain. -/
def ignoresChain (filter : SubscriberFilter) : Bool :=
  filter.wantAll || filter.solver.isSome || filter.chains.isNone

/-- The chain is among those of the filter. One that is not known counts as such. -/
def inChains (filter : SubscriberFilter) (chain : Option SupportedChain) : Bool :=
  filter.chains.all fun chains => chain.all chains.contains

/-- What has to hold of the events after a number so that a replay over the WebSocket is right: the filter does not go
    by the chain, or for each event the chain that it names itself and the one that is looked up are both among those
    of the filter or neither is. If the store calls the number too old, nobody waits for any of them. -/
def ReplayRight (get : String → Except String (Option Intent)) (store : ReplayStore) (buffer : List SequencedEvent)
    (fromSeq : Nat) (filter : SubscriberFilter) : Prop :=
  match store.since buffer fromSeq with
  | none => ∀ e ∈ since buffer fromSeq, admits filter (getEventChain get e.event) e.event = false
  | some _ => ignoresChain filter = true ∨ ∀ e ∈ since buffer fromSeq,
      inChains filter (getEventChainSync e.event) = inChains filter (getEventChain get e.event)

/-- The same for the resumption of an SSE stream: the filter lets the events through up to the one that takes the
    response over its limit, and none behind it. -/
def ResumeRight (get : String → Except String (Option Intent)) (buffer : List SequencedEvent) (fromSeq fits : Nat)
    (filter : FeedFilter) : Prop :=
  let passes e := delivers filter (getEventChain get e.event) e.event
  match ReplayStore.memory.since buffer fromSeq with
  | none => ∀ e ∈ since buffer fromSeq, passes e = false
  | some _ => (∀ e ∈ (since buffer fromSeq).take (fits + 1), passes e = true) ∧
      ∀ e ∈ (since buffer fromSeq).drop (fits + 1), passes e = false

variable {event : FeedEvent} {events buffer : List SequencedEvent} {fromSeq : Nat} {store : ReplayStore}

section

variable {α : Type} {p q : α → Bool} {l : List α}

theorem filter_eq_filter_iff : l.filter p = l.filter q ↔ ∀ x ∈ l, p x = q x := by
  constructor
  · intro same x member
    have either : p x = true ↔ q x = true := by
      have mem := congrArg (x ∈ ·) same
      simpa [List.mem_filter, member] using mem
    exact Bool.eq_iff_iff.mpr either
  · exact List.filter_congr

/-- A part of a list is what a filter leaves of it, if the filter leaves that part and nothing behind it. -/
theorem take_eq_filter_iff {n : Nat} :
    l.take n = l.filter p ↔ (∀ x ∈ l.take n, p x = true) ∧ ∀ x ∈ l.drop n, p x = false := by
  have parts : l.filter p = (l.take n).filter p ++ (l.drop n).filter p := by
    rw [← List.filter_append, List.take_append_drop]
  constructor
  · intro same
    have all : ∀ x ∈ l.take n, p x = true := by
      intro x member
      rw [same] at member
      exact (List.mem_filter.mp member).2
    refine ⟨all, ?_⟩
    rw [parts, List.filter_eq_self.mpr all, List.self_eq_append_right, List.filter_eq_nil_iff] at same
    simpa using same
  · rintro ⟨all, none⟩
    rw [parts, List.filter_eq_self.mpr all, List.filter_eq_nil_iff.mpr (by simpa using none), List.append_nil]

end

variable {filter : SubscriberFilter}

theorem admits_eq_inChains (asks : ignoresChain filter = false) (chain : Option SupportedChain) :
    admits filter chain event = inChains filter chain := by
  simp only [ignoresChain, Bool.or_eq_false_iff, Option.isSome_eq_false_iff, Option.isNone_iff_eq_none] at asks
  simp [admits, inChains, asks.1.1, asks.1.2]

theorem admits_eq_of_ignoresChain (ignores : ignoresChain filter = true) (chain chain' : Option SupportedChain) :
    admits filter chain event = admits filter chain' event := by
  unfold ignoresChain at ignores
  unfold admits
  split
  · rfl
  · cases isSolver : filter.solver with
    | some «matches» => rfl
    | none => simp_all

theorem eq_since (kept : store.since buffer fromSeq = some events) : events = since buffer fromSeq := by
  cases store with
  | memory =>
    simp only [ReplayStore.since] at kept
    split at kept
    · cases kept
    · exact (Option.some.inj kept).symm
  | redis =>
    simp only [ReplayStore.since] at kept
    cases isSince : since buffer fromSeq with
    | nil => simp_all
    | cons first rest => simp_all

theorem sent_map_event (events : List SequencedEvent) :
    (events.map ReplayFrame.event).filterMap ReplayFrame.sent = events := by
  induction events with
  | nil => rfl
  | cons e events ih => simp [ReplayFrame.sent, ih]

theorem sent_handleReplay (kept : store.since buffer fromSeq = some events) :
    (handleReplay store buffer (some filter) fromSeq).filterMap ReplayFrame.sent =
      (since buffer fromSeq).filter fun e => admits filter (getEventChainSync e.event) e.event := by
  have answered := eq_since kept
  subst answered
  simp only [handleReplay, kept, Option.all_some, List.cons_append]
  change List.filterMap ReplayFrame.sent (_ ++ [.ended _]) = _
  rw [List.filterMap_append, sent_map_event]
  exact List.append_nil _

variable {get : String → Except String (Option Intent)}

theorem handleReplay_right_iff : (handleReplay store buffer (some filter) fromSeq).filterMap ReplayFrame.sent =
      (since buffer fromSeq).filter (fun e => admits filter (getEventChain get e.event) e.event) ↔
    ReplayRight get store buffer fromSeq filter := by
  unfold ReplayRight
  cases kept : store.since buffer fromSeq with
  | none =>
    have nothing : (handleReplay store buffer (some filter) fromSeq).filterMap ReplayFrame.sent = [] := by
      simp only [handleReplay, kept]
      rfl
    rw [nothing, eq_comm, List.filter_eq_nil_iff]
    simp
  | some events =>
    rw [sent_handleReplay kept, filter_eq_filter_iff]
    cases asks : ignoresChain filter with
    | true =>
      simp only [true_or, iff_true]
      exact fun e _ => admits_eq_of_ignoresChain asks _ _
    | false => simp only [admits_eq_inChains asks, Bool.false_eq_true, false_or]

theorem resume_right_iff {fits : Nat} {filter : FeedFilter} : (resume buffer fromSeq fits).filterMap ReplayFrame.sent =
      (since buffer fromSeq).filter (fun e => delivers filter (getEventChain get e.event) e.event) ↔
    ResumeRight get buffer fromSeq fits filter := by
  unfold ResumeRight
  cases kept : ReplayStore.memory.since buffer fromSeq with
  | none =>
    have nothing : (resume buffer fromSeq fits).filterMap ReplayFrame.sent = [] := by
      simp only [resume, kept]
      rfl
    rw [nothing, eq_comm, List.filter_eq_nil_iff]
    simp
  | some events =>
    have answered := eq_since kept
    subst answered
    have written : (resume buffer fromSeq fits).filterMap ReplayFrame.sent =
        (since buffer fromSeq).take (fits + 1) := by
      simp only [resume, kept]
      exact sent_map_event _
    rw [written]
    exact take_eq_filter_iff

/-- For every buffer, filter, number and answer of the lookup: a replay sends what live delivery would have sent since,
    in the same order, if and only if the events are right for it. -/
theorem replay_eq_live_iff (get : String → Except String (Option Intent)) (buffer : List SequencedEvent)
    (fromSeq : Nat) :
    (∀ (store : ReplayStore) (filter : SubscriberFilter),
      (handleReplay store buffer (some filter) fromSeq).filterMap ReplayFrame.sent =
          (since buffer fromSeq).filter (fun e => admits filter (getEventChain get e.event) e.event) ↔
        ReplayRight get store buffer fromSeq filter) ∧
    ∀ (fits : Nat) (filter : FeedFilter),
      (resume buffer fromSeq fits).filterMap ReplayFrame.sent =
          (since buffer fromSeq).filter (fun e => delivers filter (getEventChain get e.event) e.event) ↔
        ResumeRight get buffer fromSeq fits filter :=
  ⟨fun _ _ => handleReplay_right_iff, fun _ _ => resume_right_iff⟩

/-- A fill of an intent, of which the event has the id only. -/
private def fill : SequencedEvent := ⟨2, { type := "intent_filled", intentId := some "a" }⟩

/-- A client that follows one chain, over the WebSocket or over SSE, is not sent the fill of an intent of another chain.
    After a reconnect it is. -/
theorem replay_sends_more : ∃ get : String → Except String (Option Intent),
    (handleReplay .memory [fill] (some { chains := some [.stellar] }) 1).filterMap ReplayFrame.sent = [fill] ∧
    (resume [fill] 1 10).filterMap ReplayFrame.sent = [fill] ∧
    admits { chains := some [.stellar] } (getEventChain get fill.event) fill.event = false ∧
    delivers { chains := some [.stellar] } (getEventChain get fill.event) fill.event = false :=
  ⟨fun _ => .ok (some { (default : Intent) with srcChain := .base }), by decide⟩

end VortexBackend.Feed
