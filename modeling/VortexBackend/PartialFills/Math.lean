/-
Module: VortexBackend.PartialFills.Math
Purpose: Accounting on base-unit strings. `none` is a parse that throws.
Main exports: planReservation, proRataMinDst, computeFillProgress
-/
import VortexBackend.Intents.Types
import VortexBackend.Js.BigInt

namespace VortexBackend

open BigInt

/-- Tranches that hold part of the source amount. -/
def isHolding (fill : IntentFill) : Bool := fill.status == .reserved || fill.status == .filled

structure Allocation where
  srcAmount : Int
  reserved : Int
  filled : Int
  remaining : Int
deriving Repr, DecidableEq

/-- Add one tranche to the running totals of `allocation`. -/
def addTranche (totals : Int × Int) (fill : IntentFill) : Option (Int × Int) :=
  match fill.status with
  | .reserved => (parse fill.reservedAmount).map fun amount => (totals.1 + amount, totals.2)
  | .filled => (parse fill.reservedAmount).map fun amount => (totals.1, totals.2 + amount)
  | _ => some totals

/-- Split the source amount into reserved, filled and remaining. -/
def allocation (srcAmount : String) (fills : List IntentFill) : Option Allocation := do
  let total ← parse srcAmount
  let (reserved, filled) ← fills.foldlM addTranche (0, 0)
  some ⟨total, reserved, filled, total - reserved - filled⟩

inductive ReservationRejection where
  | invalidAmount
  | nothingRemaining
  | exceedsRemaining
  | belowMinFill
deriving Repr, DecidableEq

inductive ReservationPlan where
  | ok (remainingAfter : Int)
  | rejected (reason : ReservationRejection) (remaining : Int)
deriving Repr, DecidableEq

/-- Decide whether `amount` may be reserved given the existing tranches. -/
def planReservation (srcAmount : String) (minFillAmount : Option String) (fills : List IntentFill)
    (amount : String) : Option ReservationPlan := do
  let ⟨_, _, _, remaining⟩ ← allocation srcAmount fills
  match parse amount with
  | none => some (.rejected .invalidAmount remaining)
  | some amount =>
    if amount ≤ 0 then some (.rejected .invalidAmount remaining)
    else if remaining ≤ 0 then some (.rejected .nothingRemaining remaining)
    else if remaining < amount then some (.rejected .exceedsRemaining remaining)
    else do
      let min ← parse (minFillAmount.getD "1")
      -- The whole remainder may be taken even if it is below the minimum: that clears dust.
      if amount < min ∧ amount ≠ remaining then some (.rejected .belowMinFill remaining)
      else some (.ok (remaining - amount))

/-- The pro-rata share of the minimum destination amount, rounded up. -/
def proRataMinDst (minDstAmount reservedAmount srcAmount : String) : Option String := do
  let min ← parse minDstAmount
  let part ← parse reservedAmount
  let total ← parse srcAmount
  if total = 0 then some "0"
  else some (toText ((min * part + total - 1).tdiv total))

inductive FillProgressStatus where
  | none
  | partiallyFilled
  | filled
deriving Repr, DecidableEq

structure FillProgress where
  status : FillProgressStatus
  srcAmount : String
  reservedAmount : String
  filledAmount : String
  remainingAmount : String
  dstFilledAmount : String
  fillCount : Nat
  activeReservations : Nat
  remainderCancelled : Option Bool
deriving Repr, DecidableEq

/-- Add what one tranche delivered. -/
def addDelivered (total : Int) (fill : IntentFill) : Option Int :=
  if fill.status = .filled then (parse (fill.dstAmount.getD "0")).map (total + ·) else some total

/-- Aggregate progress of an intent. -/
def computeFillProgress (srcAmount : String) (state : IntentState) (fills : List IntentFill) : Option FillProgress := do
  let alloc ← allocation srcAmount fills
  let dstFilled ← fills.foldlM addDelivered 0
  let settled := state = .filled ∨ state = .pendingFilled
  some
    { status :=
        if alloc.filled = 0 then .none
        else if alloc.srcAmount ≤ alloc.filled then .filled
        else .partiallyFilled
      srcAmount := toText alloc.srcAmount
      reservedAmount := toText alloc.reserved
      filledAmount := toText alloc.filled
      remainingAmount := toText alloc.remaining
      dstFilledAmount := toText dstFilled
      fillCount := fills.countP (·.status == .filled)
      activeReservations := fills.countP (·.status == .reserved)
      remainderCancelled :=
        if settled ∧ alloc.filled < alloc.srcAmount ∧ 0 < alloc.filled then some true else none }

/-! ### Allocation of well-formed tranches -/

/-- The amount a tranche was reserved for; tranches are stored with what `BigInt` printed. -/
def IntentFill.amount (fill : IntentFill) : Int := (parse fill.reservedAmount).getD 0

variable (status : IntentFillStatus)

/-- The amounts of the tranches in a status. -/
def sumIn (fills : List IntentFill) : Int :=
  ((fills.filter (·.status == status)).map IntentFill.amount).sum

/-- Every reserved amount is an integer. -/
def Parses (fills : List IntentFill) : Prop :=
  ∀ fill ∈ fills, (parse fill.reservedAmount).isSome = true

@[simp] theorem sumIn_nil : sumIn status [] = 0 := rfl

theorem sumIn_cons (fill : IntentFill) (fills : List IntentFill) :
    sumIn status (fill :: fills) = (if fill.status = status then fill.amount else 0) + sumIn status fills := by
  by_cases same : fill.status = status <;> simp [sumIn, same]

theorem sumIn_append (first rest : List IntentFill) :
    sumIn status (first ++ rest) = sumIn status first + sumIn status rest := by
  simp [sumIn]

variable {fills : List IntentFill} {srcAmount : String}

theorem foldlM_addTranche (parses : Parses fills) (totals : Int × Int) :
    fills.foldlM addTranche totals = some (totals.1 + sumIn .reserved fills, totals.2 + sumIn .filled fills) := by
  induction fills generalizing totals with
  | nil => simp
  | cons fill rest ih =>
    obtain ⟨amount, isAmount⟩ := Option.isSome_iff_exists.mp (parses fill (.head _))
    have amountEq : fill.amount = amount := by simp [IntentFill.amount, isAmount]
    have ihRest := ih fun f hf => parses f (.tail _ hf)
    rw [List.foldlM_cons, sumIn_cons, sumIn_cons, addTranche]
    cases status : fill.status <;> simp [isAmount, amountEq, ihRest] <;> omega

theorem allocation_eq {total} (isTotal : parse srcAmount = some total) (parses : Parses fills) :
    allocation srcAmount fills = some ⟨total, sumIn .reserved fills, sumIn .filled fills,
      total - sumIn .reserved fills - sumIn .filled fills⟩ := by
  simp [allocation, isTotal, foldlM_addTranche parses]

/-- Every tranche holds a positive amount. -/
def Positive (fills : List IntentFill) : Prop :=
  ∀ fill ∈ fills, ∃ amount : Nat, 0 < amount ∧ parse fill.reservedAmount = some (amount : Int)

section

variable (positive : Positive fills)
include positive

theorem Positive.parses : Parses fills := by
  intro fill member
  obtain ⟨amount, _, parsed⟩ := positive fill member
  rw [parsed, Option.isSome_some]

theorem Positive.amount_pos {fill} (member : fill ∈ fills) : 0 < fill.amount := by
  obtain ⟨amount, isPos, parsed⟩ := positive fill member
  rw [IntentFill.amount, parsed, Option.getD_some]
  exact Int.natCast_pos.mpr isPos

theorem Positive.sumIn_nonneg (status : IntentFillStatus) : 0 ≤ sumIn status fills := by
  induction fills with
  | nil => exact Int.le_refl 0
  | cons fill rest ih =>
    have first := positive.amount_pos (.head _)
    have others := ih fun f hf => positive f (.tail _ hf)
    rw [sumIn_cons]
    split <;> omega

theorem Positive.none_in {status} (nothing : sumIn status fills ≤ 0) :
    ∀ fill ∈ fills, fill.status ≠ status := by
  induction fills with
  | nil => exact fun _ member => nomatch member
  | cons fill rest ih =>
    have first := positive.amount_pos (.head _)
    have restPositive : Positive rest := fun f hf => positive f (.tail _ hf)
    have others := restPositive.sumIn_nonneg status
    rw [sumIn_cons] at nothing
    rw [List.forall_mem_cons]
    split at nothing
    · omega
    · rename_i differs
      exact ⟨differs, ih restPositive (by omega)⟩

end

theorem allocation_sums {alloc} (h : allocation srcAmount fills = some alloc) (parses : Parses fills) :
    alloc.reserved = sumIn .reserved fills ∧ alloc.filled = sumIn .filled fills := by
  cases isTotal : parse srcAmount with
  | none => simp [allocation, isTotal] at h
  | some total =>
    rw [allocation_eq isTotal parses] at h
    cases h
    exact ⟨rfl, rfl⟩

theorem planReservation_ok {minFillAmount amount after}
    (h : planReservation srcAmount minFillAmount fills amount = some (.ok after)) :
    ∃ alloc n, allocation srcAmount fills = some alloc ∧ parse amount = some n ∧ 0 < n ∧
      n ≤ alloc.remaining ∧ ∀ min, parse (minFillAmount.getD "1") = some min → min ≤ n ∨
        n = alloc.remaining := by
  unfold planReservation at h
  cases split : allocation srcAmount fills with
  | none => simp [split] at h
  | some alloc =>
    simp only [split, Option.bind_eq_bind, Option.bind_some] at h
    cases isAmount : parse amount with
    | none => simp [isAmount] at h
    | some n =>
      simp only [isAmount] at h
      split at h
      · cases h
      · split at h
        · cases h
        · split at h
          · cases h
          · cases min : parse (minFillAmount.getD "1") with
            | none => simp [min] at h
            | some min' =>
              simp only [min, Option.bind_some] at h
              split at h
              · cases h
              · cases h
                refine ⟨alloc, n, rfl, rfl, by omega, by omega, ?_⟩
                rintro _ ⟨⟩
                omega

end VortexBackend
