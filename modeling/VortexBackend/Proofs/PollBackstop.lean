/-
Module: VortexBackend.Proofs.PollBackstop
Purpose: A replica whose mark is the newest timestamp has the store's records, if timestamps only grow.
Main exports: poll_misses_nothing
-/
import VortexBackend.Proofs.ReplicaRule

namespace VortexBackend

open ReplicaWorld

/-! ### A copy and its mark -/

/-- A copy of a source with the mark it was taken at: not ahead of the source, and equal to it as long as the source has
    the same mark. -/
def Current {α : Type} (copy : α) (mark : Nat) (source : α) (newest : Nat) : Prop :=
  mark ≤ newest ∧ (mark = newest → copy = source)

namespace Current

variable {α : Type} {copy source source' : α} {mark mark' newest newest' : Nat}

theorem refl (source : α) (newest : Nat) : Current source newest source newest := ⟨Nat.le_refl _, fun _ => rfl⟩

theorem of_copy (notAhead : mark ≤ newest) : Current source mark source newest := ⟨notAhead, fun _ => rfl⟩

theorem advance (current : Current copy mark source newest) (higher : newest < newest') :
    Current copy mark source' newest' :=
  ⟨Nat.le_of_lt (Nat.lt_of_le_of_lt current.1 higher), fun same => absurd current.1 (by omega)⟩

end Current

/-! ### What shows of the store -/

/-- The later of two timestamps, as the loop of `maxUpdatedAt` keeps it. -/
theorem foldl_newest (times : List Nat) (start : Nat) :
    start ≤ times.foldl (fun max time => if max < time then time else max) start ∧
      ∀ time ∈ times, time ≤ times.foldl (fun max time => if max < time then time else max) start := by
  induction times generalizing start with
  | nil => exact ⟨Nat.le_refl _, nofun⟩
  | cons first times ih =>
    obtain ⟨above, all⟩ := ih (if start < first then first else start)
    rw [List.foldl_cons]
    have bounds : start ≤ (if start < first then first else start) ∧
        first ≤ (if start < first then first else start) := by
      split <;> omega
    refine ⟨Nat.le_trans bounds.1 above, fun time member => ?_⟩
    rcases List.mem_cons.mp member with rfl | later
    · exact Nat.le_trans bounds.2 above
    · exact all time later

namespace InMemoryKillSwitches

variable {s : InMemoryKillSwitches} {op : KillSwitchOp}

/-- What a snapshot of the store shows. -/
def cachedRows (s : InMemoryKillSwitches) : List CachedSwitch := s.listAll.map (·.cached)

theorem maxUpdatedAt_eq (s : InMemoryKillSwitches) :
    s.maxUpdatedAt = (s.cachedRows.map (·.updatedAt)).foldl (fun max time => if max < time then time else max) 0 := by
  rw [maxUpdatedAt, cachedRows, List.foldl_map, List.foldl_map]
  rfl

theorem updatedAt_le_max {record} (member : record ∈ s.listAll) : record.updatedAt ≤ s.maxUpdatedAt := by
  rw [maxUpdatedAt_eq]
  apply (foldl_newest _ _).2
  exact List.mem_map.mpr ⟨record.cached, List.mem_map.mpr ⟨record, member, rfl⟩, rfl⟩

theorem maxUpdatedAt_congr {s' : InMemoryKillSwitches} (same : s'.cachedRows = s.cachedRows) :
    s'.maxUpdatedAt = s.maxUpdatedAt := by
  rw [maxUpdatedAt_eq, maxUpdatedAt_eq, same]

end InMemoryKillSwitches

/-- The time that a write records. -/
def KillSwitchOp.now : KillSwitchOp → Nat
  | .activate input _ => input.now
  | .resumeIfApproved _ _ _ _ now => now

namespace InMemoryKillSwitches

variable {s : InMemoryKillSwitches} {op : KillSwitchOp}

theorem mem_listAll {key record} (stored : s.list.rows.get key = some record) : record ∈ s.listAll :=
  JsMap.mem_values.mpr ⟨key, stored⟩

theorem step_shows (s : InMemoryKillSwitches) (op : KillSwitchOp) :
    (s.step op).2.cachedRows = s.cachedRows ∨ ∃ record ∈ (s.step op).2.listAll, record.updatedAt = op.now := by
  cases op with
  | activate input uuid =>
    right
    change ∃ record ∈ (s.activate input).2.listAll, record.updatedAt = input.now
    unfold activate
    split
    · exact ⟨_, mem_listAll (JsMap.get_set_self _ _ _), rfl⟩
    · exact ⟨_, mem_listAll (JsMap.get_set_self _ _ _), rfl⟩
  | resumeIfApproved id approver approvalsRequired note now =>
    change (s.resumeIfApproved id approver approvalsRequired now).2.cachedRows = _ ∨
      ∃ record ∈ (s.resumeIfApproved id approver approvalsRequired now).2.listAll, record.updatedAt = now
    unfold resumeIfApproved
    split
    · exact .inl rfl
    · rename_i key record found
      dsimp only
      split
      · exact .inl rfl
      · split
        · -- An approval does not show.
          left
          exact JsMap.map_values_set (Table.entry_eq_some.mp found).1 rfl
        · exact .inr ⟨_, mem_listAll (JsMap.get_set_self _ _ _), rfl⟩

theorem now_le_max (shows : (s.step op).2.cachedRows ≠ s.cachedRows) : op.now ≤ (s.step op).2.maxUpdatedAt := by
  obtain ⟨record, member, isNow⟩ := (step_shows s op).resolve_left shows
  rw [← isNow]
  exact updatedAt_le_max member

end InMemoryKillSwitches

/-! ### Runs -/

/-- The program has listed the records and not yet probed the newest timestamp. -/
def Reload.between : Reload → Bool
  | .listed .. | .shown .. => true
  | _ => false

/-- A write that shows carries a timestamp above all stored ones, and falls between the two reads of no reload. -/
def writesInOrder (v : ReplicaView) (e : ReplicaEvent) (_ : ReplicaWorld) : Bool :=
  match e.call with
  | .write op =>
    (v.world.store.step op).2.cachedRows = v.world.store.cachedRows ||
      v.world.store.maxUpdatedAt < op.now &&
        v.history.all fun x => !(reloadOf (past x.actor.pid v.history)).between
  | _ => true

/-- A replica that starts beside an empty store. -/
def freshReplica : ReplicaSetting where
  initial w := ∃ guardianPause, w = { guardianPause }
  admits _ := True

/-- The runs whose writes come in order. -/
def orderedWrites : ReplicaSetting where
  initial := freshReplica.initial
  admits _ := True
  meets := writesInOrder

/-- What a reload under way knows of the store. -/
def Reload.Agrees (w : ReplicaWorld) : Reload → Prop
  | .listed _ records => records.map (·.cached) = w.store.cachedRows
  | .shown _ => w.snapshot = w.store.cachedRows
  | .probed _ latest => Current w.snapshot latest w.store.cachedRows w.store.maxUpdatedAt
  | _ => True

/-- The snapshot is current for its mark, and every reload agrees with the store. -/
structure Backstop (v : ReplicaView) : Prop where
  flight : Flight v
  cache : Current v.world.snapshot v.world.lastUpdatedAt v.world.store.cachedRows v.world.store.maxUpdatedAt
  reloads : ∀ pid, (reloadOf (past pid v.history)).Agrees v.world

/-- Calls that read nothing of the store and set nothing of the snapshot. -/
def ReplicaCall.Quiet : ReplicaCall → Prop
  | .write _ | .listAll | .maxUpdatedAt | .setSnapshot _ | .setLastUpdatedAt _ => False
  | _ => True

variable {w : ReplicaWorld}

theorem Reload.Agrees.observe {s : Reload} {call : ReplicaCall} {reply : ReplicaReply call} (agrees : s.Agrees w)
    (quiet : call.Quiet) : (s.observe ⟨call, reply⟩).Agrees w := by
  cases call with
  | write | listAll | maxUpdatedAt | setSnapshot | setLastUpdatedAt => cases quiet
  | beginRefresh => cases s <;> cases reply <;> trivial
  | settle ticket outcome =>
    rw [Reload.observe_settle]
    trivial
  | _ => cases s <;> exact agrees

theorem Reload.Agrees.congr {w w' : ReplicaWorld} {s : Reload} (agrees : s.Agrees w)
    (rows : w'.store.cachedRows = w.store.cachedRows) (snapshot : w'.snapshot = w.snapshot) : s.Agrees w' := by
  have newest := InMemoryKillSwitches.maxUpdatedAt_congr rows
  cases s with
  | listed | shown | probed =>
    simp only [Reload.Agrees, rows, newest, snapshot] at agrees ⊢
    exact agrees
  | _ => trivial

theorem Reload.agrees_of_none {s : Reload} (none : s.ticket = none) : s.Agrees w := by
  cases s with
  | outside | joined | finished => trivial
  | _ => cases none

theorem perform_quiet {call choice w w' reply} (quiet : call.Quiet)
    (performed : perform call choice w = some (reply, w')) :
    w'.store = w.store ∧ w'.snapshot = w.snapshot ∧ w'.lastUpdatedAt = w.lastUpdatedAt := by
  cases call with
  | write | listAll | maxUpdatedAt | setSnapshot | setLastUpdatedAt => cases quiet
  | joinRefresh ticket =>
    obtain ⟨outcome, _, answered⟩ := Option.map_eq_some_iff.mp performed
    cases answered
    exact ⟨rfl, rfl, rfl⟩
  | beginRefresh =>
    simp only [perform] at performed
    split at performed <;> cases performed <;> exact ⟨rfl, rfl, rfl⟩
  | _ =>
    cases performed
    exact ⟨rfl, rfl, rfl⟩

namespace Backstop

variable {v : ReplicaView} {e : ReplicaEvent} {choice : ReplicaChoice} {w : ReplicaWorld}

theorem initial (fresh : freshReplica.initial w) : Backstop ⟨w, []⟩ := by
  obtain ⟨guardianPause, rfl⟩ := fresh
  exact ⟨.initial, .refl _ _, fun _ => trivial⟩

theorem drift {d : ReplicaWorld.Drift} (backstop : Backstop v) (drifted : drift d v.world = some w) :
    Backstop { v with world := w } := by
  have flight := backstop.flight.drift drifted
  cases drifted
  exact ⟨flight, backstop.cache, fun pid => (backstop.reloads pid).congr rfl rfl⟩

theorem agrees_after (others : ∀ pid, pid ≠ e.actor.pid → (reloadOf (past pid v.history)).Agrees w)
    (caller : ((reloadOf (past e.actor.pid v.history)).observe ⟨e.call, e.reply⟩).Agrees w) :
    ∀ pid, (reloadOf (past pid (v.after e w).history)).Agrees w := by
  intro pid
  by_cases own : e.actor.pid = pid
  · rw [past_own own, ← own]
    exact caller
  · rw [past_other own]
    exact others pid (Ne.symm own)

theorem step_quiet (backstop : Backstop v) (quiet : e.call.Quiet) (flight : Flight (v.after e w))
    (performed : perform e.call choice v.world = some (e.reply, w)) : Backstop (v.after e w) := by
  obtain ⟨store, snapshot, mark⟩ := perform_quiet quiet performed
  have rows : w.store.cachedRows = v.world.store.cachedRows := congrArg _ store
  refine ⟨flight, ?_, agrees_after (fun pid _ => (backstop.reloads pid).congr rows snapshot) ?_⟩
  · rw [View.after_world, store, snapshot, mark]
    exact backstop.cache
  · exact ((backstop.reloads _).observe quiet).congr rows snapshot

section Calls

variable {actor : Actor ReplicaRequest}

section

variable (backstop : Backstop v)
include backstop

/-- A write that does not show changes nothing here; one that shows has a higher timestamp, and no reload is between its
    two reads. -/
theorem step_write {op : KillSwitchOp} {reply : Except String KillSwitchRecord}
    (met : writesInOrder v ⟨actor, .write op, reply⟩ w = true)
    (flight : Flight (v.after ⟨actor, .write op, reply⟩ w))
    (performed : perform (.write op) choice v.world = some (reply, w)) :
    Backstop (v.after ⟨actor, .write op, reply⟩ w) := by
  cases performed
  have aside : ∀ s : Reload, s.observe ⟨.write op, (v.world.store.step op).1⟩ = s := by
    intro s
    cases s <;> rfl
  by_cases same : (v.world.store.step op).2.cachedRows = v.world.store.cachedRows
  · refine ⟨flight, ?_, agrees_after (fun pid _ => (backstop.reloads pid).congr same rfl) ?_⟩
    · rw [View.after_world, same, InMemoryKillSwitches.maxUpdatedAt_congr same]
      exact backstop.cache
    · rw [aside]
      exact (backstop.reloads _).congr same rfl
  · simp only [writesInOrder, same, decide_false, Bool.false_or, Bool.and_eq_true, decide_eq_true_eq] at met
    have risen : v.world.store.maxUpdatedAt < (v.world.store.step op).2.maxUpdatedAt :=
      Nat.lt_of_lt_of_le met.1 (InMemoryKillSwitches.now_le_max same)
    have later :
      ∀ pid, (reloadOf (past pid v.history)).Agrees { v.world with store := (v.world.store.step op).2 } := by
      intro pid
      have notBetween := past_of_all (p := fun past => !(reloadOf past).between) rfl met.2 pid
      have agrees := backstop.reloads pid
      cases reload : reloadOf (past pid v.history) with
      | listed | shown =>
        rw [reload] at notBetween
        cases notBetween
      | probed ticket latest =>
        rw [reload] at agrees
        exact agrees.advance risen
      | _ => trivial
    refine ⟨flight, backstop.cache.advance risen, agrees_after (fun pid _ => later pid) ?_⟩
    rw [aside]
    exact later _

theorem step_listAll {reply} (rule : ∃ ticket, reloadOf (past actor.pid v.history) = .began ticket)
    (flight : Flight (v.after ⟨actor, .listAll, reply⟩ w))
    (performed : perform .listAll choice v.world = some (reply, w)) :
    Backstop (v.after ⟨actor, .listAll, reply⟩ w) := by
  obtain ⟨ticket, began⟩ := rule
  cases performed
  refine ⟨flight, backstop.cache, agrees_after (fun pid _ => backstop.reloads pid) ?_⟩
  rw [began, answer]
  cases choice.throws with
  | some message => trivial
  | none => exact rfl

theorem step_maxUpdatedAt {reply} (flight : Flight (v.after ⟨actor, .maxUpdatedAt, reply⟩ w))
    (performed : perform .maxUpdatedAt choice v.world = some (reply, w)) :
    Backstop (v.after ⟨actor, .maxUpdatedAt, reply⟩ w) := by
  cases performed
  refine ⟨flight, backstop.cache, agrees_after (fun pid _ => backstop.reloads pid) ?_⟩
  have agrees := backstop.reloads actor.pid
  rw [answer]
  cases reload : reloadOf (past actor.pid v.history) with
  | shown ticket =>
    rw [reload] at agrees
    cases choice.throws with
    | some message => exact agrees
    | none => exact ⟨Nat.le_refl _, fun _ => agrees⟩
  | _ =>
    rw [reload] at agrees
    cases choice.throws <;> exact agrees

theorem step_setSnapshot {rows : List CachedSwitch}
    (rule : ∃ ticket records, reloadOf (past actor.pid v.history) = .listed ticket records ∧
      rows = records.map (·.cached)) (flight : Flight (v.after ⟨actor, .setSnapshot rows, ()⟩ w))
    (performed : perform (.setSnapshot rows) choice v.world = some ((), w)) :
    Backstop (v.after ⟨actor, .setSnapshot rows, ()⟩ w) := by
  obtain ⟨ticket, records, listed, rfl⟩ := rule
  cases performed
  have agrees := backstop.reloads actor.pid
  rw [listed] at agrees
  have copied : records.map (·.cached) = v.world.store.cachedRows := agrees
  refine ⟨flight, ?_, agrees_after (fun pid other => ?_) ?_⟩
  · rw [View.after_world, copied]
    exact .of_copy backstop.cache.1
  · -- Nobody else has a reload under way.
    cases held : (reloadOf (past pid v.history)).ticket with
    | none => exact Reload.agrees_of_none held
    | some t => exact absurd (backstop.flight.alone held (by rw [listed]; rfl)) other
  · rw [listed]
    exact copied

theorem step_setLastUpdatedAt {latest : Nat}
    (rule : ∃ ticket, reloadOf (past actor.pid v.history) = .probed ticket latest)
    (flight : Flight (v.after ⟨actor, .setLastUpdatedAt latest, ()⟩ w))
    (performed : perform (.setLastUpdatedAt latest) choice v.world = some ((), w)) :
    Backstop (v.after ⟨actor, .setLastUpdatedAt latest, ()⟩ w) := by
  obtain ⟨ticket, probed⟩ := rule
  cases performed
  have agrees := backstop.reloads actor.pid
  rw [probed] at agrees
  refine ⟨flight, agrees, agrees_after (fun pid _ => (backstop.reloads pid).congr rfl rfl) ?_⟩
  rw [probed]
  trivial

end

end Calls

theorem step (backstop : Backstop v) (rule : ReplicaRule (past e.actor.pid v.history) e.call)
    (met : writesInOrder v e w = true)
    (performed : perform e.call choice v.world = some (e.reply, w)) : Backstop (v.after e w) := by
  have flight := backstop.flight.step rule performed
  obtain ⟨actor, call, reply⟩ := e
  cases call with
  | write op => exact backstop.step_write met flight performed
  | listAll => exact backstop.step_listAll rule flight performed
  | maxUpdatedAt => exact backstop.step_maxUpdatedAt flight performed
  | setSnapshot rows => exact backstop.step_setSnapshot rule flight performed
  | setLastUpdatedAt latest => exact backstop.step_setLastUpdatedAt rule flight performed
  | _ => exact backstop.step_quiet trivial flight performed

end Backstop

/-- In every run whose writes come in order, a replica whose mark is the newest timestamp of the store has the store's
    records, whether a reload is under way or not: a poll that sees no change has nothing to load. -/
theorem poll_misses_nothing {ts : List ReplicaTransition} {c : ReplicaConfig}
    (run : Run replicaService orderedWrites ts c)
    (unmoved : c.world.lastUpdatedAt = c.world.store.maxUpdatedAt) : c.world.snapshot = c.world.store.cachedRows := by
  have backstop : Backstop c.view := by
    apply (Run.invariant (I := Backstop) replicaDiscipline_followed ?_ ?_ ?_ run).1
    · exact fun w fresh => .initial fresh
    · exact fun v d w backstop drifted => backstop.drift drifted
    · intro v e v' backstop allowed
      obtain ⟨choice, w, performed, rfl⟩ := allowed.performed
      exact backstop.step allowed.allowed allowed.met performed
  exact backstop.cache.2 unmoved

/-- Another replica pauses everything. -/
def remotePause (now : Nat) : ReplicaRequest :=
  .remote (.activate { scope := .global, reasonCode := "INCIDENT", reason := "halt", activatedBy := "op", now } "")

/-- The answer of `listScheduledWindows`, which no repository has. -/
def notAFunction : ReplicaChoice where
  throws := some "this.repo.listScheduledWindows is not a function"

/-- A pause by another replica and a reload on its notice: the mark is that of the pause, and the snapshot shows it. -/
theorem noticed_pause_is_cached :
    ∃ ts c, Run replicaService orderedWrites ts c ∧ c.world.lastUpdatedAt = c.world.store.maxUpdatedAt ∧
      c.world.store.maxUpdatedAt = 5 ∧ c.world.snapshot = c.world.store.cachedRows := by
  obtain ⟨ts, c, run, marked⟩ := Run.exists_of_trace replicaService orderedWrites {}
    (List.flatten [[.arrive (remotePause 5), .arrive .notice, .act 0 {}], List.replicate 5 (.act 1 {}),
      [.act 1 notAFunction, .act 1 {}]])
    (fun _ c => c.world.lastUpdatedAt == c.world.store.maxUpdatedAt && c.world.store.maxUpdatedAt == 5)
    ⟨none, rfl⟩ (by simp [orderedWrites]) (by decide +kernel)
  simp only [Bool.and_eq_true, beq_iff_eq] at marked
  exact ⟨ts, c, run, marked.1, marked.2, poll_misses_nothing run marked.1⟩

/-- A reload lists no record; another replica pauses everything; the reload then reads the timestamp of that pause. It
    ends with that mark and without the pause, so no poll will load it. -/
theorem write_between_the_reads :
    ∃ ts c, Run replicaService freshReplica ts c ∧ c.world.refreshInFlight = none ∧
      c.world.lastUpdatedAt = c.world.store.maxUpdatedAt ∧ c.world.snapshot ≠ c.world.store.cachedRows := by
  obtain ⟨ts, c, run, marked⟩ := Run.exists_of_trace replicaService freshReplica {}
    ([.arrive .notice, .arrive (remotePause 5), .act 0 {}, .act 0 {}, .act 1 {}, .act 0 {}, .act 0 {}, .act 0 {},
      .act 0 notAFunction, .act 0 {}])
    (fun _ c => c.world.refreshInFlight.isNone && c.world.lastUpdatedAt == c.world.store.maxUpdatedAt &&
      c.world.snapshot != c.world.store.cachedRows)
    ⟨none, rfl⟩ (by simp [freshReplica]) (by decide +kernel)
  simp only [Bool.and_eq_true, Option.isNone_iff_eq_none, beq_iff_eq, bne_iff_ne] at marked
  exact ⟨ts, c, run, marked.1.1, marked.1.2, marked.2⟩

end VortexBackend
