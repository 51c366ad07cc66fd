/-
Module: VortexBackend.Solvers.Service
Purpose: The penalties of `SolversService`: a counter that is read and written back in two calls.
Trusted boundary: cache invalidation is left out, and of a solver's record everything but the counter
Main exports: recordFailedFill, rollbackPenalty
-/
import VortexBackend.Backend.Interface

namespace VortexBackend.SolversService

open Backend

/-- Add to the counter of a registered solver; was there one? -/
def countFailure (address : String) (change : Nat → Nat) : Backend Bool := do
  let solver : Option Nat ← fallible (solvers (.findByAddress address))
  match solver with
  | none => pure false
  | some fillsFailed =>
    fallible (solvers (.save address (change fillsFailed)))
    pure true

/-- Count a missed fill at once, as a pending penalty. -/
def recordFailedFill (address intentId : String) : Backend Unit := do
  let counted ← countFailure address (· + 1)
  if counted then solvers (.setPenalty intentId ⟨address, .pending⟩) else pure ()

/-- Take a pending penalty back. Without a pending entry the counter of the given solver is lowered. -/
def rollbackPenalty (intentId solverAddress : String) : Backend Unit := do
  let penalty : Option PendingPenalty ← solvers (.penalty intentId)
  match penalty with
  | none =>
    if solverAddress.isEmpty then pure ()
    else
      let _ ← countFailure solverAddress (· - 1)
      pure ()
  | some penalty =>
    if penalty.state ≠ .pending then pure ()
    else
      let counted ← countFailure penalty.solverAddress (· - 1)
      if counted then solvers (.setPenalty intentId { penalty with state := .failed }) else pure ()

end VortexBackend.SolversService
