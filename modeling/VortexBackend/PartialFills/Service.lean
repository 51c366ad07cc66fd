/-
Module: VortexBackend.PartialFills.Service
Purpose: The tranche store with its lock, and `PartialFillService` on top of it.
Trusted boundary: the payloads of broadcasts and the metadata of audit entries are left out
Main exports: FillsRepository.withLock, PartialFillService.fillTranche
-/
import VortexBackend.Intents.Service
import VortexBackend.Solvers.Service

namespace VortexBackend

open Backend Async BigInt

namespace FillsRepository

/-- Run `fn` once every earlier holder of the key has finished. -/
def withLock {α : Type} (key : String) (fn : Backend α) : Backend α := do
  let ticket : Nat ← fills (.enter key)
  fills (.wait ticket)
  Async.tryFinally fn (fills (.leave key ticket))

/-- Why a reservation was refused: its plan, or the intent is not open any more. -/
inductive ReserveRejection where
  | plan (reason : ReservationRejection)
  | intentNotOpen
deriving Repr, DecidableEq

inductive ReserveResult where
  | ok (fill : IntentFill)
  | rejected (reason : ReserveRejection) (remaining : String)
deriving Repr, DecidableEq

/-- What `reserve` does while it holds the lock. -/
def reserveLocked (request : ReserveRequest) (isOpen : Backend Bool) : Backend ReserveResult := do
  let current : List IntentFill ← fills (.listByIntent request.intentId)
  let stillOpen ← isOpen
  if !stillOpen then pure (.rejected .intentNotOpen "0")
  else
    let plan ← bigInt (planReservation request.srcAmount request.minFillAmount current request.amount)
    match plan with
    | .rejected reason remaining => pure (.rejected (.plan reason) (toText remaining))
    | .ok _ =>
      let row ← bigInt (newFillRow request)
      let fill : IntentFill ← fills (.insert row)
      pure (.ok fill)

/-- Reserve a tranche if the plan allows it; `isOpen` is evaluated under the lock. -/
def reserve (request : ReserveRequest) (isOpen : Backend Bool) : Backend ReserveResult :=
  withLock request.intentId (reserveLocked request isOpen)

/-- A status change of a known row, under the lock of its intent. -/
def lockedChange (fillId : String) (change : Backend (Option IntentFill)) : Backend (Option IntentFill) := do
  let known : Option IntentFill ← fills (.findById fillId)
  match known with
  | none => pure none
  | some fill => withLock fill.intentId change

def markFilled (fillId solver : String) (patch : FillPatch) : Backend (Option IntentFill) :=
  lockedChange fillId (fills (.markFilled fillId solver patch))

def markSlashed (fillId : String) (now : Nat) : Backend (Option IntentFill) :=
  lockedChange fillId (fills (.markSlashed fillId now))

def markReleased (fillId : String) (now : Nat) : Backend (Option IntentFill) :=
  lockedChange fillId (fills (.markReleased fillId now))

end FillsRepository

/-- An intent as it is returned to clients, with the progress of a partial fill. -/
structure IntentView where
  intent : Intent
  fillProgress : Option FillProgress := none
deriving Repr, DecidableEq

namespace PartialFillService

variable (cfg : BackendSettings)

/-- 5 bps of a delivered amount. -/
def protocolFee (dstAmount : Int) : Int := (dstAmount * 5).tdiv 10000

variable (intent : Intent)

/-- The tranches of an intent, and its progress. -/
def details : Backend (List IntentFill × FillProgress) := do
  let rows : List IntentFill ← fills (.listByIntent intent.intentId)
  let progress ← bigInt (computeFillProgress intent.srcAmount intent.state rows)
  pure (rows, progress)

/-- Attach the progress of a partial-fill intent. -/
def withProgress : Backend IntentView :=
  if !intent.partialFills then pure { intent }
  else do
    let (_, progress) ← details intent
    pure { intent, fillProgress := some progress }

/-! ### Reserve -/

/-- The exception of a refused reservation. -/
def rejection (amount remaining : String) : FillsRepository.ReserveRejection → BackendError
  | .plan .invalidAmount => .http 400 "amount must be a positive integer string" detail
  | .plan .belowMinFill =>
    .http 400 "Reservation below minFillAmount"
      (("minFillAmount", intent.minFillAmount.getD "1") :: detail)
  | .plan .exceedsRemaining => .http 409 "Reservation exceeds the unreserved remainder" detail
  | .plan .nothingRemaining => .http 409 "Nothing left to reserve on this intent" detail
  | .intentNotOpen => .http 409 "Intent is no longer open" detail
where
  detail : List (String × String) :=
    [("intentId", intent.intentId), ("requested", amount), ("remainingAmount", remaining)]

/-- What a reservation asks of the store: the terms are those of the intent the caller read. -/
def reserveRequest (solver amount : String) (now : Nat) : ReserveRequest where
  intentId := intent.intentId
  srcAmount := intent.srcAmount
  minDstAmount := intent.minDstAmount
  minFillAmount := intent.minFillAmount
  solver
  amount
  deadline := min (now + cfg.fillWindow intent.srcChain) intent.deadline
  now

/-- The `isOpen` callback: the state and the deadline of the stored intent. -/
def stillOpen (intentId : String) (now : Nat) : Backend Bool := do
  let current ← IntentsService.get intentId
  pure (current.any fun i => i.state == .open && now < i.deadline)

/-- The checks on the intent the caller read. -/
def assertReservable (now : Nat) : Backend Unit := do
  throwWhen (!intent.partialFills)
    (.plain 409 "Intent does not allow partial fills — accept it via POST /intents/:id/accept")
  let state := intent.state.name
  throwWhen (intent.state != .open) (.plain 409 s!"Intent is {state}, cannot reserve")
  throwWhen (intent.deadline ≤ now) (.plain 410 "Intent has expired")
  throwWhen (intent.srcVerified == some false)
    (.plain 409 "Source deposit is not verified yet; the intent cannot be reserved")

def reserve (intent : Intent) (solver amount : String) (now : Nat) : Backend (IntentFill × IntentView) := do
  assertReservable intent now
  let result ← FillsRepository.reserve (reserveRequest cfg intent solver amount now)
    (stillOpen intent.intentId now)
  match result with
  | .rejected reason remaining => throw (rejection intent amount remaining reason)
  | .ok fill =>
    IntentsService.appendAuditEntry intent.intentId .open solver "solver reserved tranche"
    let (_, progress) ← details intent
    attempt (external (.broadcast .trancheReserved intent.intentId))
    pure (fill, { intent, fillProgress := some progress })

/-! ### Settle -/

/-- The sum of an amount over the given tranches. -/
def total (amount : IntentFill → Option String) (rows : List IntentFill) : Option Int :=
  rows.foldlM (fun sum f => (parse ((amount f).getD "0")).map (sum + ·)) 0

/-- The most recently filled of the given tranches. -/
def lastFilled (rows : List IntentFill) : Option IntentFill :=
  (rows.insertionSort fun a b => b.filledAt.getD 0 ≤ a.filledAt.getD 0).head?

/-- Settle the intent with the sums over the listed tranches that are filled. -/
def settle (rows : List IntentFill) (solver reason : String) (now : Nat) : Backend (Option Intent) := do
  let filled := rows.filter (·.status == .filled)
  let dstTotal ← bigInt (total (·.dstAmount) filled)
  let feeTotal ← bigInt (total (·.feeAmount) filled)
  let lastTx := (lastFilled filled).bind (·.txHash)
  let settled ← IntentsService.settlePartialFill cfg intent.intentId solver
    { fillAmount := some (some (toText dstTotal)), feeAmount := some (some (toText feeTotal))
      txHash := some lastTx, filledAt := some (some now) } now
  match settled with
  | none => pure none
  | some updated =>
    IntentsService.appendAuditEntry intent.intentId .filled solver reason
    let _ ← bigInt (computeFillProgress updated.srcAmount updated.state rows)
    attempt (external (.broadcast .filled intent.intentId))
    pure (some updated)

/-! ### Fill -/

/-- The checks on the tranche the caller read, and the amount it delivers. -/
def assertFillable (existing : IntentFill) (solver dstAmount : String) (now : Nat) : Backend Int := do
  throwWhen (existing.solver != solver) (.plain 403 "Tranche is reserved by a different solver")
  let status := existing.status.name
  throwWhen (existing.status != .reserved) (.plain 409 s!"Tranche is {status}, cannot fill")
  throwWhen (existing.deadline ≤ now) (.plain 410 "Tranche fill window has expired")
  match parse dstAmount with
  | none => throw (.plain 400 "dstAmount must be an integer string")
  | some delivered =>
    let minimum ← bigInt (parse existing.minDstAmount)
    throwWhen (delivered < minimum) (.http 400 "Tranche delivery below its pro-rata minimum"
      [("dstAmount", dstAmount), ("minDstAmount", existing.minDstAmount)])
    pure delivered

/-- What a delivery writes on its tranche. -/
def deliveryPatch (delivered : Int) (txHash : Option String) (now : Nat) : FillPatch where
  dstAmount := toText delivered
  feeAmount := toText (protocolFee delivered)
  txHash
  filledAt := now

/-- After a tranche was filled: settle the intent when nothing is reserved or remaining. -/
def settleIfComplete (solver : String) (now : Nat) : Backend (List IntentFill × Bool) := do
  let (rows, _) ← details intent
  attempt (external (.broadcast .partiallyFilled intent.intentId))
  let alloc ← bigInt (allocation intent.srcAmount rows)
  if alloc.remaining = 0 ∧ alloc.reserved = 0 then
    let settled ← settle cfg intent rows solver "all tranches filled" now
    pure (rows, settled.isSome)
  else pure (rows, false)

structure TrancheFilled where
  fill : IntentFill
  intent : IntentView
  settled : Bool
deriving Repr, DecidableEq

def fillTranche (fillId solver dstAmount : String) (txHash : Option String) (now : Nat) : Backend TrancheFilled := do
  let known : Option IntentFill ← fills (.findById fillId)
  match known.filter (·.intentId == intent.intentId) with
  | none => throw (.plain 404 "Tranche not found")
  | some existing =>
    let delivered ← assertFillable existing solver dstAmount now
    let marked ← FillsRepository.markFilled fillId solver (deliveryPatch delivered txHash now)
    match marked with
    | none =>
      let current : Option IntentFill ← fills (.findById fillId)
      let status := (current.map (·.status.name)).getD "unknown"
      throw (.plain 409 s!"Tranche is {status}, cannot fill")
    | some fill =>
      attempt (external (.recordSuccessfulFill solver (fill.dstAmount.getD "")))
      IntentsService.appendAuditEntry intent.intentId .open solver "solver filled tranche"
      let (rows, settled) ← settleIfComplete cfg intent solver now
      let stored ← IntentsService.get intent.intentId
      let current := stored.getD intent
      let progress ← bigInt (computeFillProgress current.srcAmount current.state rows)
      pure { fill, intent := { intent := current, fillProgress := some progress }, settled }

/-! ### Cancel -/

/-- User cancel: nothing filled is an ordinary cancel, something filled settles the intent, and live
    reservations block it. -/
def cancelRemainder (user : String) (now : Nat) : Backend (Option IntentView × Bool) := do
  let rows : List IntentFill ← fills (.listByIntent intent.intentId)
  let alloc ← bigInt (allocation intent.srcAmount rows)
  if 0 < alloc.reserved then
    throw (.http 409 "Cannot cancel while tranche reservations are outstanding"
      [("intentId", intent.intentId), ("reservedAmount", toText alloc.reserved),
        ("activeReservations", toString (rows.countP (·.status == .reserved)))])
  else if alloc.filled = 0 then
    let cancelled ← IntentsService.cancelIfOpen cfg intent.intentId {}
    pure (cancelled.map ({ intent := · }), false)
  else
    match lastFilled (rows.filter (·.status == .filled)) with
    | none => throw (.other "Cannot read properties of undefined" false)
    | some last =>
      let settled ← settle cfg intent rows last.solver s!"remainder cancelled by {user}" now
      match settled with
      | none => pure (none, false)
      | some updated =>
        let progress ← bigInt (computeFillProgress updated.srcAmount updated.state rows)
        pure (some { intent := updated, fillProgress := some progress }, true)

/-! ### Slash -/

variable (fill : IntentFill)

/-- The reason recorded for a slashed tranche. -/
def slashReason : String :=
  let fillId := fill.fillId
  let amount := fill.reservedAmount
  s!"partial-fill tranche {fillId} ({amount} reserved) not filled before deadline"

/-- The bookkeeping of a slashed tranche. -/
def recordTrancheSlash (now : Nat) : Backend Unit := do
  SolversService.recordFailedFill fill.solver fill.intentId
  attempt (external (.recordSlash fill.solver fill.intentId (slashReason fill) now))
  if cfg.partialFillsOnchain then
    let _ ← attempt (external (.slashSolver fill.solver fill.intentId (slashReason fill)))
    pure ()
  else pure ()

/-- The progress in the broadcast, for an intent that exists. -/
def progressOf (stored : Option Intent) (rows : List IntentFill) : Backend (Option FillProgress) :=
  match stored with
  | some intent => do
    let progress ← bigInt (computeFillProgress intent.srcAmount intent.state rows)
    pure (some progress)
  | none => pure none

/-- What follows the slash of a tranche; a failure of the bookkeeping does not stop the sweep. -/
def penalise (now : Nat) : Backend Unit := do
  IntentsService.appendAuditEntry fill.intentId .open "system" "tranche reservation slashed"
  tryCatch (recordTrancheSlash cfg fill now) fun _ => pure ()
  let rows : List IntentFill ← fills (.listByIntent fill.intentId)
  let stored ← IntentsService.get fill.intentId
  let _ ← progressOf stored rows
  attempt (external (.broadcast .trancheSlashed fill.intentId))

/-- Slash one candidate, unless it was filled in the meantime. -/
def slashCandidate (now slashed : Nat) (candidate : IntentFill) : Backend Nat := do
  let marked ← FillsRepository.markSlashed candidate.fillId now
  match marked with
  | none => pure slashed
  | some fill =>
    penalise cfg fill now
    pure (slashed + 1)

/-- Slash every live reservation whose deadline has passed, of one intent or of all. -/
def slashExpiredReservations (now : Nat) (intentId : Option String) : Backend Nat :=
  match intentId with
  | some id => do
    let rows : List IntentFill ← fills (.listByIntent id)
    onEachWith (slashCandidate cfg now) 0
      (rows.filter fun f => f.status == .reserved && f.deadline ≤ now)
  | none => do
    let rows : List IntentFill ← fills (.findExpiredReservations now 500)
    onEachWith (slashCandidate cfg now) 0 rows

end PartialFillService

end VortexBackend
