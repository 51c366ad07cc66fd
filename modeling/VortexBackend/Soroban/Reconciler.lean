/-
Module: VortexBackend.Soroban.Reconciler
Purpose: The reconciliation worker, which repairs differences through the same service writes as everybody.
Trusted boundary: the contract's answers; logs and the reports of divergences are left out
Main exports: Reconciler.reconcile
-/
import VortexBackend.Intents.Service

namespace VortexBackend.Reconciler

open Backend

variable (cfg : BackendSettings)

inductive DivergenceClass where
  | stateMismatch
  | solverMismatch
  | amountMismatch
deriving Repr, DecidableEq

structure ReconcileResult where
  checkedCount : Nat := 0
  divergences : Nat := 0
  repairedCount : Nat := 0
  skippedCount : Nat := 0
  dryRun : Bool
deriving Repr, DecidableEq

/-- Is the local state the one the chain reports? A pending state never is. -/
def sameState : IntentState → OnChainIntentState → Bool
  | .open, .open | .accepted, .accepted | .filled, .filled | .cancelled, .cancelled | .expired, .expired
  | .slashed, .slashed => true
  | _, _ => false

/-- The first difference between the local record and the chain's. -/
def classifyDivergence (intent : Intent) (onChain : OnChainIntent) : Option DivergenceClass :=
  let solvers := (onChain.solver.filter (!·.isEmpty)).bind fun chain =>
    (intent.solver.filter (!·.isEmpty)).map fun mine => (mine.toLower, chain.toLower)
  if solvers.any fun pair => pair.1 != pair.2 then some .solverMismatch
  else if !sameState intent.state onChain.state && onChain.state != .unknown then some .stateMismatch
  -- A local amount that is `undefined` differs from every amount on chain.
  else if onChain.fillAmount.any fun amount => intent.fillAmount != some (BigInt.toText amount) then
    some .amountMismatch
  else none

/-- Mirror the chain through the service. -/
def applyRepair (divergence : DivergenceClass) (intentId : String) (onChain : OnChainIntent) :
    Backend Bool :=
  match divergence with
  | .stateMismatch =>
    match onChain.state with
    | .filled => do
      let now ← nowSeconds
      let result ← IntentsService.fillIfAccepted cfg intentId (onChain.solver.getD "")
        { fillAmount := some (some ((onChain.fillAmount.map BigInt.toText).getD "0"))
          filledAt := some (some now) } none
        { actor := some "reconciler", reason := some "reconciler: state_mismatch repair" }
      pure result.isSome
    | .cancelled => do
      let result ← IntentsService.cancelIfOpen cfg intentId
        { actor := some "reconciler", reason := some "reconciler: state_mismatch repair" }
      pure result.isSome
    | _ => pure false
  | .solverMismatch => do
    let result ← IntentsService.acceptIfOpen cfg intentId (onChain.solver.getD "") none
      { actor := some "reconciler", reason := some "reconciler: solver_mismatch repair" }
    pure result.isSome
  | .amountMismatch => pure false

/-- One candidate, with the chain's answers. -/
def reconcileOne (dryRun : Bool) (answers : List (String × OnChainIntent)) (result : ReconcileResult)
    (intent : Intent) : Backend ReconcileResult :=
  match (answers.find? (·.1 == intent.intentId)).map (·.2) with
  | none => pure { result with skippedCount := result.skippedCount + 1 }
  | some onChain =>
    match classifyDivergence intent onChain with
    | none => pure result
    | some divergence =>
      let counted := { result with divergences := result.divergences + 1 }
      if dryRun || divergence == .amountMismatch then pure counted
      else do
        let repaired ← applyRepair cfg divergence intent.intentId onChain
        pure (if repaired then { counted with repairedCount := counted.repairedCount + 1 } else counted)

/-- An intent that ingestion has not touched for a while. -/
def isStale (now : Nat) (stale : List Intent) (intent : Intent) : Backend (List Intent) := do
  let updated : Option Nat ← external (.lastIntentUpdate intent.intentId)
  pure (if cfg.staleSeconds < now - updated.getD intent.createdAt then stale ++ [intent] else stale)

/-- One reconciliation cycle over the stale open and accepted intents. -/
def reconcile (dryRun : Option Bool) : Backend ReconcileResult := do
  let effectiveDryRun := dryRun.getD cfg.dryRun
  let empty : ReconcileResult := { dryRun := effectiveDryRun }
  let now ← nowSeconds
  let configured : Bool ← external .settlementConfigured
  if !configured then pure empty
  else
    let openIntents ← IntentsService.getByState .open
    let acceptedIntents ← IntentsService.getByState .accepted
    let candidates ← Async.onEachWith (isStale cfg now) [] (openIntents ++ acceptedIntents)
    if candidates.isEmpty then pure empty
    else
      let answers ← Async.attempt (external (.getManyIntents (candidates.map (·.intentId))))
      Async.onEachWith (reconcileOne cfg effectiveDryRun answers)
        { empty with checkedCount := candidates.length } candidates

end VortexBackend.Reconciler
