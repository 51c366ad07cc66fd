/-
Module: VortexBackend.Proofs.BroadcastOrder
Purpose: Every client is sent increasing numbers if no broadcast starts while another is under way.
Main exports: broadcasts_in_order
-/
import VortexBackend.Intents.Feed
import VortexBackend.Async.Discipline

namespace VortexBackend.Feed

open Async

abbrev GatewayView := View GatewayReply GatewayWorld FeedEvent
abbrev GatewayHistory := List (Event GatewayReply FeedEvent)

/-- How many broadcasts were delivered. -/
def delivered (history : GatewayHistory) : Nat :=
  history.countP fun e => e.call matches .deliver ..

/-- A number is taken only when every number taken before was delivered. -/
def oneAtATime (v : GatewayView) (e : Event GatewayReply FeedEvent) (_ : GatewayWorld) : Bool :=
  match e.call with
  | .number _ => v.world.nextSeq == delivered v.history + 1
  | _ => true

/-- A gateway that has just started, with any subscribers. -/
def feedSetting (meets : GatewayView → Event GatewayReply FeedEvent → GatewayWorld → Bool) :
    Setting GatewayReply GatewayWorld FeedEvent where
  initial w := w.nextSeq = 1 ∧ ∀ client, w.sent client = []
  admits _ := True
  meets

/-! ### What a broadcast remembers -/

/-- The number of a broadcast, from when it has taken it until it has delivered its event. -/
def observe (number : Option Nat) : Exchange GatewayReply → Option Nat
  | ⟨.number _, seq⟩ => some seq
  | ⟨.deliver .., _⟩ => none
  | _ => number

abbrev underway : List (Exchange GatewayReply) → Option Nat := remember observe none

/-- An event is delivered under the number that was taken for it. -/
def inTurn : Discipline GatewayReply FeedEvent (Except String Unit) where
  allows _ past
    | .number _ => past = []
    | .deliver e _ => underway past = some e.seq
    | _ => True

/-- Calls in between. -/
def Between : GatewayCall → Prop
  | .number _ | .deliver .. => False
  | _ => True

theorem observe_between {number c} (reply : GatewayReply c) (between : Between c) :
    observe number ⟨c, reply⟩ = number := by
  cases c with
  | number | deliver => exact between.elim
  | _ => rfl

theorem calls_appendTo (replayStore : Bool) (e : SequencedEvent) : (appendTo replayStore e).Calls Between := by
  cases replayStore with
  | false => trivial
  | true => exact calls_bind ((calls_call _).mpr trivial) fun _ => calls_pure _

theorem calls_resolveChain (event : FeedEvent) : (resolveChain event).Calls Between := by
  unfold resolveChain
  split
  · exact calls_bind ((calls_call _).mpr trivial) fun _ => calls_pure _
  · exact calls_bind ((calls_call _).mpr trivial) fun _ => calls_pure _

theorem broadcast_followed (replayStore : Bool)
    (meets : GatewayView → Event GatewayReply FeedEvent → GatewayWorld → Bool) :
    inTurn.Followed (gatewayService replayStore) (feedSetting meets) := by
  intro event _
  change (broadcast replayStore event).Follows _ _ []
  have allowed {past : List (Exchange GatewayReply)} (c : GatewayCall) (between : Between c) :
      inTurn.allows event past c := by
    cases c with
    | number | deliver => exact between.elim
    | _ => trivial
  refine .call_bind rfl fun (seq : Nat) => ?_
  have aside {α : Type} {x : Gateway α} {past : List (Exchange GatewayReply)} (calls : x.Calls Between)
      (holds : underway past = some seq) :
      x.Follows (inTurn.allows event) (fun _ past' => underway past' = some seq) past := by
    refine follows_of_calls calls (fun _ _ c between => allowed c between) fun _ recent made => ?_
    exact (remember_append (fun _ _ reply between => observe_between reply between) made).trans holds
  refine .andThen (aside (calls_appendTo _ _) rfl) (fun _ _ _ => trivial) fun _ past₁ numbered => ?_
  refine .andThen (aside (calls_resolveChain _) numbered) (fun _ _ _ => trivial) fun chain past₂ numbered => ?_
  exact ⟨numbered, fun _ => trivial⟩

/-! ### The order -/

/-- Nobody was sent a number that is not delivered yet, and at most one broadcast is under way, with the newest
    number. -/
structure InOrder (v : GatewayView) : Prop where
  bound : ∀ client, ∀ e ∈ v.world.sent client, e.seq ≤ delivered v.history
  ordered : ∀ client, ((v.world.sent client).map (·.seq)).Pairwise (· > ·)
  newest : ∀ pid seq, underway (past pid v.history) = some seq →
    seq = delivered v.history + 1 ∧ v.world.nextSeq = delivered v.history + 2
  alone : ∀ pid pid' seq seq', underway (past pid v.history) = some seq →
    underway (past pid' v.history) = some seq' → pid = pid'

namespace InOrder

variable {v : GatewayView} {e : Event GatewayReply FeedEvent} {w : GatewayWorld} {choice : GatewayChoice}

section

variable (inOrder : InOrder v)
include inOrder

theorem between (aside : Between e.call) (same : w = v.world) : InOrder (v.after e w) := by
  have count : delivered (v.after e w).history = delivered v.history := by
    refine List.countP_cons_of_neg ?_
    obtain ⟨actor, call, reply⟩ := e
    cases call with
    | number | deliver => exact aside.elim
    | _ => simp
  have stays (pid : Nat) : underway (past pid (v.after e w).history) = underway (past pid v.history) := by
    by_cases own : e.actor.pid = pid
    · rw [past_own own]
      exact observe_between e.reply aside
    · rw [past_other own]
  subst same
  refine ⟨?_, inOrder.ordered, ?_, ?_⟩
  · rw [count]
    exact inOrder.bound
  · intro pid seq isUnderway
    rw [count]
    exact inOrder.newest pid seq ((stays pid).symm.trans isUnderway)
  · intro pid pid' seq seq' first second
    exact inOrder.alone pid pid' seq seq' ((stays pid).symm.trans first) ((stays pid').symm.trans second)

variable {actor : Actor FeedEvent}

theorem number {event} (free : v.world.nextSeq = delivered v.history + 1) :
    InOrder (v.after ⟨actor, .number event, v.world.nextSeq⟩ { v.world with
      nextSeq := v.world.nextSeq + 1, ringBuffer := push v.world.ringBuffer ⟨v.world.nextSeq, event⟩ }) := by
  have count {w : GatewayWorld} :
      delivered (v.after ⟨actor, .number event, v.world.nextSeq⟩ w).history = delivered v.history :=
    List.countP_cons_of_neg (by simp)
  have own {w : GatewayWorld} {pid seq : Nat} (isUnderway : underway
      (past pid (v.after ⟨actor, .number event, v.world.nextSeq⟩ w).history) = some seq) :
      actor.pid = pid ∧ seq = v.world.nextSeq := by
    by_cases own : actor.pid = pid
    · rw [past_own own] at isUnderway
      exact ⟨own, (Option.some.inj isUnderway).symm⟩
    · rw [past_other own] at isUnderway
      have busy := (inOrder.newest pid seq isUnderway).2
      omega
  refine ⟨?_, inOrder.ordered, ?_, ?_⟩
  · rw [count]
    exact inOrder.bound
  · intro pid seq isUnderway
    rw [count, (own isUnderway).2]
    exact ⟨free, congrArg (· + 1) free⟩
  · intro pid pid' seq seq' first second
    exact (own first).1.symm.trans (own second).1

/-- The broadcast that is under way is delivered. -/
theorem deliver {x chain} (turn : underway (past actor.pid v.history) = some x.seq) :
    InOrder (v.after ⟨actor, .deliver x chain, ()⟩ (deliverToMatchingSubscribers v.world x chain)) := by
  obtain ⟨newest, _⟩ := inOrder.newest actor.pid x.seq turn
  have count {w : GatewayWorld} :
      delivered (v.after ⟨actor, .deliver x chain, ()⟩ w).history = delivered v.history + 1 :=
    List.countP_cons_of_pos rfl
  have idle {w : GatewayWorld} {pid seq : Nat}
      (isUnderway : underway (past pid (v.after ⟨actor, .deliver x chain, ()⟩ w).history) = some seq) : False := by
    by_cases own : actor.pid = pid
    · rw [past_own own] at isUnderway
      cases isUnderway
    · rw [past_other own] at isUnderway
      exact own (inOrder.alone _ _ _ _ turn isUnderway)
  refine ⟨fun client e member => ?_, fun client => ?_, fun _ _ h => (idle h).elim, fun _ _ _ _ h => (idle h).elim⟩
  · rw [count]
    simp only [deliverToMatchingSubscribers, View.after_world] at member
    split at member
    · rcases List.mem_cons.mp member with rfl | earlier
      · exact Nat.le_of_eq newest
      · exact Nat.le_succ_of_le (inOrder.bound client e earlier)
    · exact Nat.le_succ_of_le (inOrder.bound client e member)
  · simp only [deliverToMatchingSubscribers, View.after_world]
    split
    · refine List.pairwise_cons.mpr ⟨fun seq member => ?_, inOrder.ordered client⟩
      obtain ⟨e, sent, rfl⟩ := List.mem_map.mp member
      exact Nat.lt_of_le_of_lt (inOrder.bound client e sent) (Nat.le_of_eq newest.symm)
    · exact inOrder.ordered client

theorem step (allowed : inTurn.allows e.actor.request (past e.actor.pid v.history) e.call)
    (met : oneAtATime v e w = true) (performed : GatewayWorld.perform e.call choice v.world = some (e.reply, w)) :
    InOrder (v.after e w) := by
  obtain ⟨actor, call, reply⟩ := e
  cases call with
  | number event =>
    cases performed
    exact inOrder.number (beq_iff_eq.mp met)
  | deliver x chain =>
    cases performed
    exact inOrder.deliver allowed
  | append | get | settle =>
    cases performed
    exact inOrder.between trivial rfl

end

end InOrder

/-- If no broadcast starts while another is under way, the numbers that a client is sent are strictly increasing,
    whatever the replay store and the lookups do, and however the filters change. -/
theorem broadcasts_in_order {replayStore : Bool}
    {ts : List (Transition GatewayReply GatewayWorld GatewayChoice (Nat → Option SubscriberFilter) FeedEvent
      (Except String Unit))} {c : Config GatewayReply GatewayWorld FeedEvent (Except String Unit)}
    (run : Run (gatewayService replayStore) (feedSetting oneAtATime) ts c) (client : Nat) :
    ((c.world.sent client).map (·.seq)).Pairwise (· > ·) := by
  refine (Run.invariant (broadcast_followed replayStore oneAtATime) (I := InOrder) ?_ ?_ ?_ run).1.ordered client
  · rintro w ⟨_, unsent⟩
    exact ⟨by simp [unsent], by simp [unsent], nofun, nofun⟩
  · intro v subscribers w inOrder drifted
    cases drifted
    exact { inOrder with }
  · rintro v e v' inOrder ⟨⟨⟨choice, w, performed, rfl⟩, met⟩, allowed, _⟩
    exact inOrder.step allowed met performed

/-- Two broadcasts one after the other, to a client without a filter. -/
theorem broadcasts_in_order_two :
    ∃ ts c, Run (gatewayService false) (feedSetting oneAtATime) ts c ∧ (c.world.sent 0).map (·.seq) = [2, 1] ∧
      ((c.world.sent 0).map (·.seq)).Pairwise (· > ·) := by
  obtain ⟨ts, c, run, sent⟩ := Run.exists_of_trace (gatewayService false) (feedSetting oneAtATime)
    { subscribers := fun _ => some {} }
    [.arrive { type := "intent_created" }, .act 0 {}, .act 0 {}, .act 0 {},
      .arrive { type := "intent_created" }, .act 1 {}, .act 1 {}, .act 1 {}]
    (fun _ c => (c.world.sent 0).map (·.seq) == [2, 1]) ⟨rfl, fun _ => rfl⟩ (fun _ _ => trivial)
      (by decide +kernel)
  exact ⟨ts, c, run, beq_iff_eq.mp sent, broadcasts_in_order run 0⟩

/-- The replay store answers the append of the first event late, so that the second one is delivered before it. -/
theorem slow_append_reorders :
    ∃ ts c, Run (gatewayService true) (feedSetting fun _ _ _ => true) ts c ∧
      (c.world.sent 0).map (·.seq) = [1, 2] := by
  obtain ⟨ts, c, run, sent⟩ := Run.exists_of_trace (gatewayService true) (feedSetting fun _ _ _ => true)
    { subscribers := fun _ => some {} }
    [.arrive { type := "intent_created" }, .arrive { type := "intent_created" }, .act 0 {}, .act 1 {}, .act 1 {},
      .act 1 {}, .act 1 {}, .act 0 {}, .act 0 {}, .act 0 {}]
    (fun _ c => (c.world.sent 0).map (·.seq) == [1, 2]) ⟨rfl, fun _ => rfl⟩ (fun _ _ => trivial)
      (by decide +kernel)
  exact ⟨ts, c, run, beq_iff_eq.mp sent⟩

end VortexBackend.Feed
