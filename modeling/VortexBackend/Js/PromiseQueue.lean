/-
Module: VortexBackend.Js.PromiseQueue
Purpose: A lock made of one chain of promises: a counter of the open gates says who is inside.
Main exports: PromiseQueue.Orderly
-/
import Mathlib.Tactic.Common

namespace VortexBackend

/-- The gates of the lock, numbered as they are made. -/
structure PromiseQueue where
  /-- the number of the next gate -/
  next : Nat := 0
  /-- the gates that are open -/
  released : List Nat := []
deriving Repr, DecidableEq

namespace PromiseQueue

/-- Make a gate: everything before the `await`. -/
def enter (q : PromiseQueue) : Nat × PromiseQueue := (q.next, { q with next := q.next + 1 })

/-- The gate before this one is open; before the first there is a promise that was resolved from the start. -/
def ready (q : PromiseQueue) : Nat → Bool
  | 0 => true
  | ticket + 1 => q.released.contains ticket

/-- Open a gate. -/
def leave (q : PromiseQueue) (ticket : Nat) : PromiseQueue := { q with released := ticket :: q.released }

/-- The open gates are the first `served` ones. -/
structure Orderly (q : PromiseQueue) (served : Nat) : Prop where
  made : served ≤ q.next
  opened : ∀ ticket, ticket ∈ q.released ↔ ticket < served

namespace Orderly

variable {q : PromiseQueue} {served : Nat}

theorem empty : Orderly {} 0 := by
  constructor <;> simp

theorem enter (orderly : Orderly q served) : Orderly q.enter.2 served :=
  ⟨Nat.le_succ_of_le orderly.made, orderly.opened⟩

theorem served_of_ready (orderly : Orderly q served) {ticket} (shut : served ≤ ticket)
    (ready : q.ready ticket = true) :
    ticket = served := by
  cases ticket with
  | zero => exact (Nat.le_zero.mp shut).symm
  | succ before =>
    have earlier : before < served := (orderly.opened before).mp (by simpa [PromiseQueue.ready] using ready)
    omega

theorem leave (orderly : Orderly q served) (made : served < q.next) : Orderly (q.leave served) (served + 1) where
  made := made
  opened := by
    intro ticket
    simp only [PromiseQueue.leave, List.mem_cons, orderly.opened]
    omega

end Orderly

end PromiseQueue

end VortexBackend
