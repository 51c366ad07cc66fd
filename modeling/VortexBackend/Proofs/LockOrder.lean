/-
Module: VortexBackend.Proofs.LockOrder
Purpose: The calls of `withLock`, for any keys and functions, each cut where it waits.
Main exports: fill_locks_in_call_order, fill_locks_progress
-/
import VortexBackend.Js.PromiseChain
import VortexBackend.Sequential.Run

namespace VortexBackend

/-- How far a call of `withLock` is; `ended` has what its caller gets. -/
inductive LockPhase (ρ : Type) where
  | waiting
  | inside
  | ended (outcome : ρ)
deriving DecidableEq

/-- The lock table, and the key and the phase of each call by its ticket. Later calls have larger tickets. -/
structure FillLocks (κ ρ : Type) [DecidableEq κ] where
  locks : PromiseChain κ := .empty
  calls : JsMap Nat (κ × LockPhase ρ) := .empty

inductive LockOp (κ ρ : Type) where
  | call (key : κ)
  | start (ticket : Nat)
  /-- the function returns or throws -/
  | finish (ticket : Nat) (outcome : ρ)

namespace FillLocks

open PromiseChain Component JsMap

variable {κ ρ : Type} [DecidableEq κ]

/-- The synchronous parts of `withLock`. A call starts only when its ticket is ready, and finishes once. -/
def step (s : FillLocks κ ρ) : LockOp κ ρ → Unit × FillLocks κ ρ
  | .call key => ((), ⟨(s.locks.enter key).2, s.calls.set (s.locks.enter key).1 (key, .waiting)⟩)
  | .start ticket => ((),
    match s.calls.get ticket with
    | some (key, .waiting) =>
      if s.locks.ready ticket then { s with calls := s.calls.set ticket (key, .inside) } else s
    | _ => s)
  | .finish ticket outcome => ((),
    match s.calls.get ticket with
    | some (key, .inside) => ⟨s.locks.leave key ticket, s.calls.set ticket (key, .ended outcome)⟩
    | _ => s)

/-- The call has not ended. -/
def pending (s : FillLocks κ ρ) (key : κ) (t : Nat) : Prop :=
  s.calls.get t = some (key, .waiting) ∨ s.calls.get t = some (key, .inside)

/-- The queue of a key holds its pending calls, the newest first. A call inside is at its end, behind a pending call
    every call waits, and the entry of the table is in the queue. -/
structure Orderly (s : FillLocks κ ρ) : Prop where
  known : ∀ t call, s.calls.get t = some call → t < s.locks.next
  queued : ∀ key t, t ∈ s.locks.waiting key ↔ s.pending key t
  sorted : ∀ key, (s.locks.waiting key).Pairwise (· > ·)
  held : ∀ key t, s.calls.get t = some (key, .inside) → s.locks.holder key = some t
  ordered : ∀ key t t' phase, s.pending key t → s.calls.get t' = some (key, phase) → t < t' → phase = .waiting
  live : ∀ key t, s.locks.locks.get key = some t → t ∈ s.locks.waiting key

namespace Orderly

variable {s : FillLocks κ ρ} {key : κ} {t : Nat}

theorem initial : Orderly ({} : FillLocks κ ρ) := by
  constructor <;> simp [pending, PromiseChain.empty, waiting, before]

variable (orderly : Orderly s)
include orderly

theorem call (key : κ) : Orderly (s.step (.call key)).2 := by
  obtain ⟨known, queued, sorted, held, ordered, live⟩ := orderly
  have newest : (s.locks.next :: s.locks.waiting key).Pairwise (· > ·) :=
    List.pairwise_cons.mpr ⟨fun _ member => waiting_lt member, sorted key⟩
  constructor <;> simp only [step, pending, waiting_enter] at *
  · grind [get_set, enter]
  · grind [get_set, enter]
  · grind
  · grind [get_set, enter, holder_enter]
  · grind [get_set, enter]
  · grind [get_set, enter]

theorem first {t'} (holds : s.locks.holder key = some t) (isPending : s.pending key t') : t ≤ t' := by
  obtain ⟨front, queue⟩ := List.getLast?_eq_some_iff.mp holds
  have member := (orderly.queued key t').mpr isPending
  have sorted := orderly.sorted key
  rw [queue] at member sorted
  rcases List.mem_append.mp member with later | same
  · exact Nat.le_of_lt ((List.pairwise_append.mp sorted).2.2 t' later t (.head _))
  · exact Nat.le_of_eq (List.mem_singleton.mp same).symm

theorem start (waits : s.calls.get t = some (key, .waiting)) (ready : s.locks.ready t = true) :
    Orderly { s with calls := s.calls.set t (key, .inside) } := by
  have holds := holder_of_ready ((orderly.queued key t).mpr (.inl waits)) ready
  have first : ∀ t', s.pending key t' → t ≤ t' := fun t' => orderly.first holds
  obtain ⟨known, queued, sorted, held, ordered, live⟩ := orderly
  refine ⟨?_, ?_, sorted, ?_, ?_, live⟩ <;> simp only [pending, get_set] at * <;> grind

theorem finish (inside : s.calls.get t = some (key, .inside)) (outcome : ρ) :
    Orderly ⟨s.locks.leave key t, s.calls.set t (key, .ended outcome)⟩ := by
  have holds := orderly.held key t inside
  obtain ⟨known, queued, sorted, held, ordered, live⟩ := orderly
  constructor <;> simp only [pending, get_set, waiting_leave holds] at *
  · grind [leave]
  · grind
  · exact fun key' => (sorted key').filter _
  · grind [holder_leave]
  · grind
  · -- The entry of the table is dropped unless a later call has taken its place.
    grind [leave, get_delete]

theorem step (op : LockOp κ ρ) : Orderly (s.step op).2 := by
  cases op with
  | call key => exact orderly.call key
  | start ticket =>
    simp only [FillLocks.step]
    split
    · split
      · exact orderly.start ‹_› ‹_›
      · exact orderly
    · exact orderly
  | finish ticket outcome =>
    simp only [FillLocks.step]
    split
    · exact orderly.finish ‹_› outcome
    · exact orderly

end Orderly

theorem ended_step {s : FillLocks κ ρ} {op key t outcome}
    (ended : (s.step op).2.calls.get t = some (key, .ended outcome)) :
    s.calls.get t = some (key, .ended outcome) ∨ op = .finish t outcome := by
  cases op <;> grind [step, get_set]

/-- Whatever the order of the calls and of their ends: a call of `withLock` is past its waiting only if every earlier
    call of its key has ended; a caller gets what its own function returned or threw; and a key whose calls have all
    ended has no entry in the table. -/
theorem fill_locks_in_call_order (ops : List (LockOp κ ρ)) :
    (∀ key t t' phase phase', t < t' → (run step {} ops).2.calls.get t = some (key, phase) →
      (run step {} ops).2.calls.get t' = some (key, phase') → phase' ≠ .waiting →
        ∃ outcome, phase = .ended outcome) ∧
    (∀ key t outcome, (run step {} ops).2.calls.get t = some (key, .ended outcome) → .finish t outcome ∈ ops) ∧
    ∀ key,
      (∀ t phase, (run step {} ops).2.calls.get t = some (key, phase) → ∃ outcome, phase = .ended outcome) →
      (run step {} ops).2.locks.locks.get key = none := by
  obtain ⟨orderly, own⟩ := run_invariant
    (fun _ s => Orderly s ∧ ∀ key t outcome, s.calls.get t = some (key, .ended outcome) →
      .finish t outcome ∈ ops)
    (fun _ _ s op kept member => ⟨kept.1.step op, fun key t outcome ended =>
      (ended_step ended).elim (kept.2 key t outcome) fun isFinish => isFinish ▸ member⟩)
    ops [] [] _ ⟨.initial, by simp⟩ (meets_of_forall ops [] _ fun _ member => member)
  refine ⟨?_, own, ?_⟩
  · intro key t t' phase phase' earlier found found' started
    cases phase with
    | ended outcome => exact ⟨outcome, rfl⟩
    | waiting => exact absurd (orderly.ordered key t t' phase' (.inl found) found' earlier) started
    | inside => exact absurd (orderly.ordered key t t' phase' (.inr found) found' earlier) started
  · intro key allEnded
    refine Option.eq_none_iff_forall_ne_some.mpr fun t last => ?_
    rcases (orderly.queued key t).mp (orderly.live key t last) with found | found <;>
      cases (allEnded t _ found).choose_spec

/-- Two calls of one key: the second comes inside once the first has ended. -/
theorem second_call_follows_first :
    let ops : List (LockOp String String) := [.call "I", .call "I", .start 0, .finish 0 "done", .start 1]
    (run step {} ops).2.calls.get 1 = some ("I", .inside) ∧
      ∀ phase, (run step {} ops).2.calls.get 0 = some ("I", phase) → ∃ outcome, phase = .ended outcome := by
  intro ops
  have inside : (run step {} ops).2.calls.get 1 = some ("I", .inside) := by decide
  refine ⟨inside, fun phase found => ?_⟩
  exact (fill_locks_in_call_order ops).1 "I" 0 1 phase .inside (by decide) found inside (by decide)

theorem Orderly.ready_of_holder {s : FillLocks κ ρ} {key t} (orderly : Orderly s)
    (holds : s.locks.holder key = some t) : s.locks.ready t = true := by
  have queued := List.mem_of_getLast? holds
  obtain ⟨recent, earlier, found, chain⟩ := linked_before (List.mem_filter.mp queued).1
  have sorted := orderly.sorted key
  rw [waiting, chain, List.pairwise_filter, List.pairwise_append, List.pairwise_cons] at sorted
  simp only [ready, found, Option.getD_some, List.tail_cons, List.all_eq_true]
  intro t' member
  by_contra shut
  have later := orderly.first holds ((orderly.queued key t').mp (by grind [waiting]))
  have smaller := sorted.2.1.1 t' member
  grind [waiting]

/-- No deadlock: in every state reached, if a key has pending calls then the first of them is inside or may start. -/
theorem fill_locks_progress (ops : List (LockOp κ ρ)) (key : κ) :
    (∀ t, ¬(run step {} ops).2.pending key t) ∨
      ∃ t, (∀ t', (run step {} ops).2.pending key t' → t ≤ t') ∧
      ((run step {} ops).2.calls.get t = some (key, .inside) ∨
        (run step {} ops).2.calls.get t = some (key, .waiting) ∧ (run step {} ops).2.locks.ready t = true) := by
  have orderly := run_invariant (fun _ s => Orderly s) (fun _ _ _ op kept _ => kept.step op) ops [] [] _ .initial
    (meets_of_forall ops [] _ fun _ _ => trivial)
  generalize (run step {} ops).2 = s at *
  cases holds : s.locks.holder key with
  | none =>
    left
    simp [← orderly.queued, List.getLast?_eq_none_iff.mp holds]
  | some t =>
    refine .inr ⟨t, fun t' => orderly.first holds, ?_⟩
    rcases (orderly.queued key t).mp (List.mem_of_getLast? holds) with waits | inside
    · exact .inr ⟨waits, orderly.ready_of_holder holds⟩
    · exact .inl inside

end FillLocks

end VortexBackend
