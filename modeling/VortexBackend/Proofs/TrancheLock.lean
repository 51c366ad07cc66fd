/-
Module: VortexBackend.Proofs.TrancheLock
Purpose: Two programs are never inside the same lock, if each enters one at a time.
Main exports: LockSafe
-/
import VortexBackend.Proofs.ServiceCalls

namespace VortexBackend

open PromiseChain BackendWorld View

/-- The lock that a program has entered and not left, by its past. -/
def lockOf : List BackendExchange → Option (String × Nat)
  | [] => none
  | ⟨.fills (.enter key), ticket⟩ :: _ => some (key, ticket)
  | ⟨.fills (.leave ..), _⟩ :: _ => none
  | _ :: earlier => lockOf earlier

/-- The program is past the waiting of its lock. -/
def waited : List BackendExchange → Bool
  | [] => false
  | ⟨.fills (.wait _), _⟩ :: _ => true
  | ⟨.fills (.enter _), _⟩ :: _ | ⟨.fills (.leave ..), _⟩ :: _ => false
  | _ :: earlier => waited earlier

/-- The protocol of the lock. -/
def LockCall (past : List BackendExchange) : BackendCall → Prop
  | .fills (.enter _) => lockOf past = none
  | .fills (.wait ticket) => ∃ key, lockOf past = some (key, ticket)
  | .fills (.leave key ticket) => lockOf past = some (key, ticket) ∧ waited past = true
  | _ => True

/-- Calls that are not part of the protocol. -/
def BackendCall.lockFree : BackendCall → Bool
  | .fills (.enter _) | .fills (.wait _) | .fills (.leave ..) => false
  | _ => true

variable {x : BackendExchange}

theorem lockOf_cons_of_lockFree (free : x.call.lockFree = true) (earlier : List BackendExchange) :
    lockOf (x :: earlier) = lockOf earlier := by
  obtain ⟨call, reply⟩ := x
  cases call with
  | fills c => cases c <;> first | rfl | cases free
  | _ => rfl

theorem waited_cons_of_lockFree (free : x.call.lockFree = true) (earlier : List BackendExchange) :
    waited (x :: earlier) = waited earlier := by
  obtain ⟨call, reply⟩ := x
  cases call with
  | fills c => cases c <;> first | rfl | cases free
  | _ => rfl

/-- Every lock that a program entered and did not leave is queued; a program that has waited is the holder;
    and no two programs have the same ticket. -/
structure LockSafe (v : BackendView) : Prop where
  queued : ∀ pid key ticket, lockOf (past pid v.history) = some (key, ticket) →
    ticket ∈ v.world.locks.waiting key
  held : ∀ pid key ticket, lockOf (past pid v.history) = some (key, ticket) →
    waited (past pid v.history) = true → v.world.locks.holder key = some ticket
  distinct : ∀ pid pid' key key' ticket, lockOf (past pid v.history) = some (key, ticket) →
    lockOf (past pid' v.history) = some (key', ticket) → pid = pid'

namespace LockSafe

variable {w : BackendWorld} {v : BackendView} {key : String} {ticket : Nat} {actor : Actor BackendRequest}

theorem initial : LockSafe ⟨w, []⟩ := by
  constructor <;> simp [lockOf]

section

variable (safe : LockSafe v)
include safe

theorem congr (same : w.locks = v.world.locks) :
    LockSafe { v with world := w } where
  queued := by rw [same]; exact safe.queued
  held := by rw [same]; exact safe.held
  distinct := safe.distinct

theorem alone {pid pid' ticket'} (lock : lockOf (past pid v.history) = some (key, ticket))
    (inside : waited (past pid v.history) = true) (lock' : lockOf (past pid' v.history) = some (key, ticket'))
    (inside' : waited (past pid' v.history) = true) : pid = pid' := by
  have same := (safe.held pid key ticket lock inside).symm.trans (safe.held pid' key ticket' lock' inside')
  cases same
  exact safe.distinct pid pid' key key ticket lock lock'

variable {e : BackendEvent}

theorem free_step (free : e.call.lockFree = true) (same : w.locks = v.world.locks) : LockSafe (v.after e w) := by
  have lock : ∀ pid, lockOf (past pid (v.after e w).history) = lockOf (past pid v.history) := by
    intro pid
    by_cases own : e.actor.pid = pid
    · rw [past_own own]
      exact lockOf_cons_of_lockFree free _
    · rw [past_other own]
  have inside : ∀ pid, waited (past pid (v.after e w).history) = waited (past pid v.history) := by
    intro pid
    by_cases own : e.actor.pid = pid
    · rw [past_own own]
      exact waited_cons_of_lockFree free _
    · rw [past_other own]
  constructor
  · intro pid key ticket
    rw [lock, after_world, same]
    exact safe.queued pid key ticket
  · intro pid key ticket
    rw [lock, inside, after_world, same]
    exact safe.held pid key ticket
  · intro pid pid' key key' ticket
    rw [lock, lock]
    exact safe.distinct pid pid' key key' ticket

theorem enter_step :
    LockSafe (v.after ⟨actor, .fills (.enter key), (v.world.locks.enter key).1⟩
      { v.world with locks := (v.world.locks.enter key).2 }) := by
  -- The new ticket is not in any queue yet.
  have new : ∀ pid k ticket, lockOf (past pid v.history) = some (k, ticket) → ticket ≠ v.world.locks.next :=
    fun pid k ticket lock => Nat.ne_of_lt (waiting_lt (safe.queued pid k ticket lock))
  constructor
  · intro pid k ticket lock
    rw [after_world, waiting_enter]
    by_cases own : actor.pid = pid
    · rw [past_own own] at lock
      cases lock
      rw [if_pos rfl]
      exact List.mem_cons_self
    · rw [past_other own] at lock
      have before := safe.queued pid k ticket lock
      split
      · rename_i same
        exact List.mem_cons_of_mem _ (same ▸ before)
      · exact before
  · intro pid k ticket lock inside
    by_cases own : actor.pid = pid
    · rw [past_own own] at inside
      cases inside
    · rw [past_other own] at lock inside
      exact holder_enter (safe.held pid k ticket lock inside) key
  · intro pid pid' k k' ticket lock lock'
    by_cases own : actor.pid = pid <;> by_cases own' : actor.pid = pid'
    · exact own.symm.trans own'
    · rw [past_own own] at lock
      rw [past_other own'] at lock'
      cases lock
      exact absurd rfl (new pid' k' _ lock')
    · rw [past_own own'] at lock'
      rw [past_other own] at lock
      cases lock'
      exact absurd rfl (new pid k _ lock)
    · rw [past_other own] at lock
      rw [past_other own'] at lock'
      exact safe.distinct pid pid' k k' ticket lock lock'

theorem wait_step (allowed : ∃ key, lockOf (past actor.pid v.history) = some (key, ticket))
    (ready : v.world.locks.ready ticket = true) :
    LockSafe (v.after ⟨actor, .fills (.wait ticket), ()⟩ v.world) := by
  have lock : ∀ pid, lockOf (past pid (v.after ⟨actor, .fills (.wait ticket), ()⟩ v.world).history) =
      lockOf (past pid v.history) := by
    intro pid
    by_cases own : actor.pid = pid
    · rw [past_own own]
      rfl
    · rw [past_other own]
  constructor
  · intro pid k t
    rw [lock]
    exact safe.queued pid k t
  · intro pid k t
    rw [lock]
    intro isLock inside
    by_cases own : actor.pid = pid
    · subst own
      obtain ⟨key, entered⟩ := allowed
      rw [entered] at isLock
      cases isLock
      exact holder_of_ready (safe.queued actor.pid k ticket entered) ready
    · rw [past_other own] at inside
      exact safe.held pid k t isLock inside
  · intro pid pid' k k' t
    rw [lock, lock]
    exact safe.distinct pid pid' k k' t

theorem leave_step (own : lockOf (past actor.pid v.history) = some (key, ticket))
    (inside : waited (past actor.pid v.history) = true) :
    LockSafe (v.after ⟨actor, .fills (.leave key ticket), ()⟩
      { v.world with locks := v.world.locks.leave key ticket }) := by
  have holds := safe.held actor.pid key ticket own inside
  -- The leaver has no lock any more, so every other lock has another ticket.
  have others : ∀ pid k t, lockOf (past pid
      (v.after ⟨actor, .fills (.leave key ticket), ()⟩ v.world).history) = some (k, t) →
      past pid (v.after ⟨actor, .fills (.leave key ticket), ()⟩ v.world).history = past pid v.history ∧
        t ≠ ticket := by
    intro pid k t lock
    by_cases isOwn : actor.pid = pid
    · rw [past_own isOwn] at lock
      cases lock
    · rw [past_other isOwn] at lock
      refine ⟨past_other isOwn, ?_⟩
      rintro rfl
      exact isOwn (safe.distinct actor.pid pid key k t own lock)
  constructor
  · intro pid k t lock
    obtain ⟨same, differs⟩ := others pid k t lock
    rw [after_history] at same
    rw [after_history, same] at lock
    rw [after_world, waiting_leave holds, List.mem_filter]
    exact ⟨safe.queued pid k t lock, decide_eq_true differs⟩
  · intro pid k t lock isInside
    obtain ⟨same, differs⟩ := others pid k t lock
    rw [after_history] at same
    rw [after_history, same] at lock isInside
    exact holder_leave holds (safe.held pid k t lock isInside) differs
  · intro pid pid' k k' t lock lock'
    have same := (others pid k t lock).1
    have same' := (others pid' k' t lock').1
    rw [after_history] at same same'
    rw [after_history, same] at lock
    rw [after_history, same'] at lock'
    exact safe.distinct pid pid' k k' t lock lock'

/-- Any call that keeps to the protocol keeps the locks safe. -/
theorem step {choice} (allowed : LockCall (past e.actor.pid v.history) e.call)
    (performed : perform e.call choice v.world = some (e.reply, w)) : LockSafe (v.after e w) := by
  obtain ⟨actor, call, reply⟩ := e
  cases call with
  | fills c =>
    cases c with
    | enter key =>
      cases performed
      exact safe.enter_step
    | wait ticket =>
      obtain ⟨ready, ⟨⟩⟩ := Option.ite_none_right_eq_some.mp performed
      exact safe.wait_step allowed ready
    | leave key ticket =>
      cases performed
      exact safe.leave_step allowed.1 allowed.2
    | insert row =>
      simp only [perform, performFill] at performed
      split at performed
      · cases performed
        exact safe.free_step rfl rfl
      · cases performed
    | findById | listByIntent | findExpiredReservations | markFilled | markSlashed | markReleased =>
      cases performed
      exact safe.free_step rfl rfl
  | _ =>
    rcases perform_fills performed with ⟨_, same⟩ | ⟨c, isCall⟩
    · exact safe.free_step rfl same
    · cases isCall

end

end LockSafe

end VortexBackend
