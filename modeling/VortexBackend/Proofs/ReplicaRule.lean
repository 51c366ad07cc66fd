/-
Module: VortexBackend.Proofs.ReplicaRule
Purpose: A program shows what it has listed, marks what it has probed, and settles its own reload.
Main exports: Reload, Flight
-/
import VortexBackend.Async.Discipline
import VortexBackend.KillSwitch.Service

namespace VortexBackend

open Async Replica ReplicaWorld

abbrev ReplicaExchange := Exchange ReplicaReply

abbrev ReplicaView := View ReplicaReply ReplicaWorld ReplicaRequest

abbrev ReplicaEvent := Event ReplicaReply ReplicaRequest

abbrev ReplicaConfig := Config ReplicaReply ReplicaWorld ReplicaRequest (Except String ReplicaResponse)

abbrev ReplicaTransition := Transition ReplicaReply ReplicaWorld ReplicaChoice ReplicaWorld.Drift ReplicaRequest
  (Except String ReplicaResponse)

abbrev ReplicaSetting := Setting ReplicaReply ReplicaWorld ReplicaRequest

/-! ### Where a program is -/

/-- Where a program is in `refresh`: before it, waiting for the reload of another, or in its own, which has begun,
    listed the records, shown them, probed the newest timestamp, marked it, or is over. -/
inductive Reload where
  | outside
  | joined
  | began (ticket : Nat)
  | listed (ticket : Nat) (records : List KillSwitchRecord)
  | shown (ticket : Nat)
  | probed (ticket : Nat) (latest : Nat)
  | marked (ticket : Nat)
  | finished

namespace Reload

/-- The reload that the program has under way. -/
def ticket : Reload → Option Nat
  | .outside | .joined | .finished => none
  | .began t | .listed t _ | .shown t | .probed t _ | .marked t => some t

/-- A call takes the program further. -/
def observe : Reload → ReplicaExchange → Reload
  | .outside, ⟨.beginRefresh, .started t⟩ => .began t
  | .outside, ⟨.beginRefresh, .joined _⟩ => .joined
  | .began t, ⟨.listAll, .ok records⟩ => .listed t records
  | .listed t _, ⟨.setSnapshot _, _⟩ => .shown t
  | .shown t, ⟨.maxUpdatedAt, .ok latest⟩ => .probed t latest
  | .probed t _, ⟨.setLastUpdatedAt _, _⟩ => .marked t
  | _, ⟨.settle .., _⟩ => .finished
  | s, _ => s

end Reload

variable {ticket : Nat} {outcome : Except String Unit} (s : Reload)

theorem Reload.observe_settle {reply} : s.observe ⟨.settle ticket outcome, reply⟩ = .finished := by
  cases s <;> rfl

/-- Where a program is, by its past. -/
def reloadOf : List ReplicaExchange → Reload := remember Reload.observe .outside

@[simp] theorem reloadOf_cons (x : ReplicaExchange) (past : List ReplicaExchange) :
    reloadOf (x :: past) = (reloadOf past).observe x := rfl

/-- A refresh has come to a good end: its own reload has listed the scheduled windows, or the one it joined did. -/
def Reloaded (past : List ReplicaExchange) : Prop :=
  ⟨.listScheduledWindows, .ok ()⟩ ∈ past ∨ ∃ ticket, ⟨.joinRefresh ticket, .ok ()⟩ ∈ past

/-- What a program may call. -/
def ReplicaRule (past : List ReplicaExchange) : ReplicaCall → Prop
  | .beginRefresh => reloadOf past = .outside
  | .listAll => ∃ ticket, reloadOf past = .began ticket
  | .setSnapshot rows => ∃ ticket records, reloadOf past = .listed ticket records ∧ rows = records.map (·.cached)
  | .setLastUpdatedAt latest => ∃ ticket, reloadOf past = .probed ticket latest
  | .setReady => Reloaded past
  | .settle ticket outcome =>
    (reloadOf past).ticket = some ticket ∧ (outcome = .ok () → ⟨.listScheduledWindows, .ok ()⟩ ∈ past)
  | _ => True

def replicaDiscipline : Discipline ReplicaReply ReplicaRequest (Except String ReplicaResponse) where
  allows _ past call := ReplicaRule past call
  returns
    | .pause _, .ok _, past => Reloaded past
    | _, _, _ => True

/-! ### What the programs do -/

section Programs

variable {α : Type} {past : List ReplicaExchange}

/-- A function that keeps to the rule. -/
abbrev Reloads (x : Replica α) (Q : Except String α → List ReplicaExchange → Prop) (past : List ReplicaExchange) :
    Prop :=
  x.Follows ReplicaRule Q past

/-- How a reload ends, on the good way or another. -/
def ReloadEnds (ticket : Nat) (outcome : Except String Unit) (past : List ReplicaExchange) : Prop :=
  (reloadOf past).ticket = some ticket ∧ (outcome = .ok () → ⟨.listScheduledWindows, .ok ()⟩ ∈ past)

theorem reloads_reload (began : reloadOf past = .began ticket) : Reloads reload (ReloadEnds ticket) past := by
  refine .attempt_bind ⟨⟨ticket, began⟩, fun | .error e => ?_ | .ok records => ?_⟩
  · refine ⟨?_, nofun⟩
    rw [reloadOf_cons, began]
    rfl
  have listed : reloadOf (⟨.listAll, .ok records⟩ :: past) = .listed ticket records := by
    rw [reloadOf_cons, began]
    rfl
  refine .call_bind ⟨ticket, records, listed, rfl⟩ fun _ => ?_
  refine .attempt_bind ⟨trivial, fun | .error e => ?_ | .ok latest => ?_⟩
  · refine ⟨?_, nofun⟩
    rw [reloadOf_cons, reloadOf_cons, listed]
    rfl
  have probed : reloadOf (⟨.maxUpdatedAt, .ok latest⟩ :: ⟨.setSnapshot (records.map (·.cached)), ()⟩ ::
      ⟨.listAll, .ok records⟩ :: past) = .probed ticket latest := by
    rw [reloadOf_cons, reloadOf_cons, listed]
    rfl
  refine .call_bind ⟨ticket, probed⟩ fun _ => ?_
  refine .attempt_bind ⟨trivial, fun | .error e => ?_ | .ok _ => ?_⟩
  · refine ⟨?_, nofun⟩
    rw [reloadOf_cons, reloadOf_cons, probed]
    rfl
  · refine ⟨.inl (.head _), fun _ => ⟨?_, fun _ => .tail _ (.head _)⟩⟩
    rw [reloadOf_cons, reloadOf_cons, reloadOf_cons, probed]
    rfl

/-- How a refresh ends. -/
def RefreshEnds (outcome : Except String Unit) (past : List ReplicaExchange) : Prop :=
  outcome = .ok () → Reloaded past

theorem reloads_refresh (outside : reloadOf past = .outside) : Reloads refresh RefreshEnds past := by
  refine .call_bind outside fun ticket => ?_
  cases ticket with
  | joined ticket =>
    rw [follows_attempt, follows_call]
    refine ⟨trivial, fun reply => ?_⟩
    cases reply with
    | error e => exact nofun
    | ok _ => exact fun _ => .inr ⟨ticket, .head _⟩
  | started ticket =>
    have began : reloadOf (⟨.beginRefresh, .started ticket⟩ :: past) = .began ticket := by
      rw [reloadOf_cons, outside]
      rfl
    rw [follows_tryCatch, follows_bind]
    refine follows_mono (fun outcome past' ends => ?_) (reloads_reload began)
    obtain ⟨held, listed⟩ := ends
    cases outcome with
    | error e => exact ⟨⟨held, nofun⟩, fun _ => nofun⟩
    | ok _ => exact ⟨⟨held, fun _ => listed rfl⟩, fun _ _ => .inl (.tail _ (listed rfl))⟩

variable {Q : Except String Unit → List ReplicaExchange → Prop}

theorem reloads_broadcast (next : ∀ reply, Q (.ok ()) (⟨.publish, reply⟩ :: past)) :
    Reloads broadcast Q past := by
  unfold broadcast
  rw [Reloads, follows_tryCatch, follows_attempt, follows_call]
  refine ⟨trivial, fun reply => ?_⟩
  cases reply <;> exact next _

theorem reloads_announce {paused record}
    (next : ∀ reply, Q (.ok ()) (⟨.broadcastStatus paused record, reply⟩ :: past)) :
    Reloads (announce paused record) Q past := by
  unfold announce
  rw [Reloads, follows_tryCatch, follows_attempt, follows_call]
  refine ⟨trivial, fun reply => ?_⟩
  cases reply <;> exact next _

theorem reloads_refresh_bind {f : Unit → Replica α} (outside : reloadOf past = .outside)
    (rest : ∀ past', Reloads (f ()) (fun _ _ => True) past') : Reloads (refresh >>= f) (fun _ _ => True) past :=
  .andThen (reloads_refresh outside) (fun _ _ _ => trivial) fun _ past' _ => rest past'

theorem Reloaded.cons {x} (reloaded : Reloaded past) : Reloaded (x :: past) := by
  rcases reloaded with listed | ⟨ticket, joined⟩
  · exact .inl (.tail _ listed)
  · exact .inr ⟨ticket, .tail _ joined⟩

theorem reloads_pause {input} :
    Reloads (pause input) (onOk (fun _ _ => True) fun _ past' => Reloaded past') [] := by
  unfold pause
  rw [Reloads, follows_bind, follows_ofExcept]
  cases normaliseScope input with
  | error e => trivial
  | ok normalised =>
    rw [onOk_ok]
    refine .call_bind trivial fun now => ?_
    refine .attempt_bind ⟨trivial, fun | .error _ => trivial | .ok record => ?_⟩
    refine .andThen (reloads_refresh rfl) (fun _ _ _ => trivial) fun _ past' reloaded => ?_
    rw [follows_bind]
    refine reloads_broadcast fun published => ?_
    rw [onOk_ok, follows_bind]
    exact reloads_announce fun announced => (reloaded rfl).cons.cons

theorem reloads_approveResume {id approver approvalsRequired note} :
    Reloads (approveResume id approver approvalsRequired note) (fun _ _ => True) [] := by
  refine .call_bind trivial fun now => ?_
  refine .attempt_bind ⟨trivial, fun | .error _ => trivial | .ok record => ?_⟩
  refine .call_bind trivial fun approvals => ?_
  refine reloads_refresh_bind rfl fun past' => ?_
  cases record.active with
  | true => trivial
  | false =>
    apply (follows_bind _ _).mpr
    refine reloads_broadcast fun published => ?_
    apply (follows_bind _ _).mpr
    exact reloads_announce fun announced => trivial

theorem reloads_poll : Reloads poll (fun _ _ => True) [] := by
  apply (follows_tryCatch _ _).mpr
  refine .attempt_bind ⟨trivial, fun | .error _ => trivial | .ok latest => ?_⟩
  refine .call_bind trivial fun last => ?_
  split
  · refine follows_mono (fun outcome past' _ => ?_) (reloads_refresh rfl)
    cases outcome <;> trivial
  · trivial

theorem reloads_notice : Reloads notice (fun _ _ => True) [] := by
  unfold notice
  rw [Reloads, follows_tryCatch]
  refine follows_mono (fun outcome past' _ => ?_) (reloads_refresh rfl)
  cases outcome <;> trivial

theorem reloads_onModuleInit : Reloads onModuleInit (fun _ _ => True) [] := by
  apply (follows_tryCatch _ _).mpr
  exact .andThen (reloads_refresh rfl) (fun _ _ _ => trivial) fun _ _ reloaded => ⟨reloaded rfl, fun _ => trivial⟩

theorem reloads_remote {op} : Reloads (remote op) (fun _ _ => True) [] := by
  exact .attempt_bind ⟨trivial, fun | .error _ => trivial | .ok _ => trivial⟩

theorem reloads_respond {wrap : α → ReplicaResponse} {x} {P : List ReplicaExchange → Prop}
    (h : Reloads x (onOk (fun _ _ => True) fun _ past' => P past') past) :
    Reloads (respond wrap x) (onOk (fun _ _ => True) fun _ past' => P past') past :=
  .andThen h (fun _ _ _ => trivial) fun _ _ holds => holds

end Programs

theorem replicaDiscipline_followed {E} : replicaDiscipline.Followed replicaService E := by
  have anyway : ∀ {α : Type} {wrap : α → ReplicaResponse} {x : Replica α}, Reloads x (fun _ _ => True) [] →
      Reloads (respond wrap x) (fun _ _ => True) [] := by
    intro α wrap x h
    refine follows_mono (fun _ _ _ => trivial) (reloads_respond (P := fun _ => True) ?_)
    refine follows_mono (fun outcome _ _ => ?_) h
    cases outcome <;> trivial
  intro request _
  cases request with
  | onModuleInit => exact anyway reloads_onModuleInit
  | pause input =>
    refine follows_mono (fun outcome past' ends => ?_) (reloads_respond reloads_pause)
    cases outcome with
    | error e => trivial
    | ok response => exact ends
  | approveResume id approver approvalsRequired note => exact anyway reloads_approveResume
  | poll => exact anyway reloads_poll
  | notice => exact anyway reloads_notice
  | remote op => exact anyway reloads_remote

/-! ### One reload at a time -/

variable {s : Reload} {x : ReplicaExchange} {t : Nat} {records : List KillSwitchRecord}

theorem Reload.ticket_of_observe (held : (s.observe x).ticket = some t) :
    x = ⟨.beginRefresh, .started t⟩ ∨ s.ticket = some t := by
  unfold Reload.observe at held
  split at held
  case h_1 =>
    cases held
    exact .inl rfl
  case h_2 | h_7 => cases held
  all_goals exact .inr held

theorem started_of_ticket {past} (held : (reloadOf past).ticket = some t) :
    ⟨.beginRefresh, .started t⟩ ∈ past := by
  induction past with
  | nil => cases held
  | cons x past ih =>
    rcases Reload.ticket_of_observe held with rfl | earlier
    · exact .head _
    · exact .tail _ (ih earlier)

/-- The calls that neither start nor settle a reload. -/
def ReplicaCall.Aside : ReplicaCall → Prop
  | .beginRefresh | .settle .. => False
  | _ => True

theorem Reload.ticket_observe {call reply} (aside : call.Aside) : (s.observe ⟨call, reply⟩).ticket = s.ticket := by
  cases call with
  | beginRefresh | settle => cases aside
  | listAll | maxUpdatedAt => cases s <;> cases reply <;> rfl
  | _ => cases s <;> rfl

theorem perform_aside {call choice w w' reply} (aside : call.Aside)
    (performed : perform call choice w = some (reply, w')) :
    w'.refreshInFlight = w.refreshInFlight ∧ w'.reloads = w.reloads := by
  cases call with
  | beginRefresh | settle => cases aside
  | joinRefresh ticket =>
    obtain ⟨outcome, _, answered⟩ := Option.map_eq_some_iff.mp performed
    cases answered
    exact ⟨rfl, rfl⟩
  | _ =>
    cases performed
    exact ⟨rfl, rfl⟩

/-- Reloads have distinct numbers, and a program that has one under way has the one in flight. -/
structure Flight (v : ReplicaView) : Prop where
  held : ∀ pid t, (reloadOf (past pid v.history)).ticket = some t → v.world.refreshInFlight = some t
  below : ∀ pid t, ⟨.beginRefresh, .started t⟩ ∈ past pid v.history → t < v.world.reloads
  once : ∀ p q t, ⟨.beginRefresh, .started t⟩ ∈ past p v.history →
    ⟨.beginRefresh, .started t⟩ ∈ past q v.history →
    p = q

namespace Flight

variable {v : ReplicaView} {e : ReplicaEvent} {choice : ReplicaChoice} {w : ReplicaWorld}

theorem initial {w} : Flight ⟨w, []⟩ where
  held _ _ held := nomatch held
  below _ _ made := nomatch made
  once _ _ _ made := nomatch made

theorem drift {d} (flight : Flight v) (drifted : drift d v.world = some w) : Flight { v with world := w } := by
  cases drifted
  exact { flight with }

theorem alone (flight : Flight v) {p q s t} (first : (reloadOf (past p v.history)).ticket = some s)
    (second : (reloadOf (past q v.history)).ticket = some t) : p = q := by
  have same : s = t := Option.some.inj ((flight.held p s first).symm.trans (flight.held q t second))
  subst same
  exact flight.once p q s (started_of_ticket first) (started_of_ticket second)

variable {pid : Nat} {actor : Actor ReplicaRequest}

section

variable (flight : Flight v)
include flight

theorem step_aside (aside : e.call.Aside) (performed : perform e.call choice v.world = some (e.reply, w)) :
    Flight (v.after e w) := by
  obtain ⟨inFlight, reloads⟩ := perform_aside aside performed
  have notBegun :
    ∀ {pid t}, (⟨.beginRefresh, .started t⟩ : ReplicaExchange) ∈ past pid (v.after e w).history →
      ⟨.beginRefresh, .started t⟩ ∈ past pid v.history := by
    intro pid t made
    rcases mem_past_cons.mp made with ⟨_, isLast⟩ | earlier
    · have isBegin : ReplicaCall.beginRefresh = e.call := congrArg Exchange.call isLast
      rw [← isBegin] at aside
      exact aside.elim
    · exact earlier
  have ticket :
    ∀ pid, (reloadOf (past pid (v.after e w).history)).ticket = (reloadOf (past pid v.history)).ticket := by
    intro pid
    by_cases own : e.actor.pid = pid
    · rw [past_own own]
      exact Reload.ticket_observe aside
    · rw [past_other own]
  constructor
  · intro pid t held
    rw [View.after_world, inFlight]
    exact flight.held pid t ((ticket pid).symm.trans held)
  · intro pid t made
    rw [View.after_world, reloads]
    exact flight.below pid t (notBegun made)
  · intro p q t first second
    exact flight.once p q t (notBegun first) (notBegun second)

section

variable (outside : reloadOf (past actor.pid v.history) = .outside)
include outside

theorem step_join : Flight (v.after ⟨actor, .beginRefresh, .joined ticket⟩ v.world) := by
  have notBegun : ∀ {pid s}, (⟨.beginRefresh, .started s⟩ : ReplicaExchange) ∈
      past pid (v.after ⟨actor, .beginRefresh, .joined ticket⟩ v.world).history →
      ⟨.beginRefresh, .started s⟩ ∈ past pid v.history := by
    intro pid s made
    rcases mem_past_cons.mp made with ⟨_, isLast⟩ | earlier
    · cases isLast
    · exact earlier
  constructor
  · intro pid s held
    by_cases own : actor.pid = pid
    · rw [past_own own, reloadOf_cons, ← own, outside] at held
      cases held
    · rw [past_other own] at held
      exact flight.held pid s held
  · exact fun pid s made => flight.below pid s (notBegun made)
  · exact fun p q s first second => flight.once p q s (notBegun first) (notBegun second)

theorem step_start (free : v.world.refreshInFlight = none) :
    Flight (v.after ⟨actor, .beginRefresh, .started v.world.reloads⟩
      { v.world with refreshInFlight := some v.world.reloads, reloads := v.world.reloads + 1 }) := by
  have begun : ∀ {pid s w}, (⟨.beginRefresh, .started s⟩ : ReplicaExchange) ∈
      past pid (v.after ⟨actor, .beginRefresh, .started v.world.reloads⟩ w).history →
      ⟨.beginRefresh, .started s⟩ ∈ past pid v.history ∨ actor.pid = pid ∧ s = v.world.reloads := by
    intro pid s w made
    rcases mem_past_cons.mp made with ⟨own, isLast⟩ | earlier
    · cases isLast
      exact .inr ⟨own, rfl⟩
    · exact .inl earlier
  constructor
  · intro pid s held
    by_cases own : actor.pid = pid
    · rw [past_own own, reloadOf_cons, ← own, outside] at held
      cases held
      rfl
    · rw [past_other own] at held
      rw [flight.held pid s held] at free
      cases free
  · intro pid s made
    rcases begun made with earlier | ⟨_, rfl⟩
    · exact Nat.lt_succ_of_lt (flight.below pid s earlier)
    · exact Nat.lt_succ_self _
  · intro p q s first second
    rcases begun first with earlier | ⟨isP, isNew⟩ <;> rcases begun second with earlier' | ⟨isQ, isNew'⟩
    · exact flight.once p q s earlier earlier'
    · exact absurd (flight.below p s earlier) (by omega)
    · exact absurd (flight.below q s earlier') (by omega)
    · exact isP.symm.trans isQ

theorem step_begin {ticket} (performed : perform .beginRefresh choice v.world = some (ticket, w)) :
    Flight (v.after ⟨actor, .beginRefresh, ticket⟩ w) := by
  simp only [perform] at performed
  split at performed
  · cases performed
    exact flight.step_join outside
  · rename_i free
    cases performed
    exact flight.step_start outside free

end

theorem step_settle (held : (reloadOf (past actor.pid v.history)).ticket = some ticket)
    (performed : perform (.settle ticket outcome) choice v.world = some ((), w)) :
    Flight (v.after ⟨actor, .settle ticket outcome, ()⟩ w) := by
  cases performed
  have notBegun : ∀ {pid t w}, (⟨.beginRefresh, .started t⟩ : ReplicaExchange) ∈
      past pid (v.after ⟨actor, .settle ticket outcome, ()⟩ w).history →
      ⟨.beginRefresh, .started t⟩ ∈ past pid v.history := by
    intro pid t w made
    rcases mem_past_cons.mp made with ⟨_, isLast⟩ | earlier
    · cases isLast
    · exact earlier
  constructor
  · intro pid t held'
    by_cases own : actor.pid = pid
    · rw [past_own own, reloadOf_cons, Reload.observe_settle] at held'
      cases held'
    · rw [past_other own] at held'
      exact absurd (flight.alone held held') own
  · exact fun pid t made => flight.below pid t (notBegun made)
  · exact fun p q t first second => flight.once p q t (notBegun first) (notBegun second)

theorem step (rule : ReplicaRule (past e.actor.pid v.history) e.call)
    (performed : perform e.call choice v.world = some (e.reply, w)) : Flight (v.after e w) := by
  obtain ⟨actor, call, reply⟩ := e
  cases call with
  | beginRefresh => exact flight.step_begin rule performed
  | settle ticket outcome => exact flight.step_settle rule.1 performed
  | _ => exact flight.step_aside trivial performed

end

end Flight

end VortexBackend
