/-
Module: VortexBackend.Proofs.TrancheCover
Purpose: The minimums of tranches cover that of the intent, and the rest can be reserved in one tranche.
Main exports: tranches_cover_intent
-/
import Mathlib.Algebra.Order.BigOperators.Group.List
import Mathlib.Algebra.Order.Ring.Int
import VortexBackend.PartialFills.Math

namespace VortexBackend

open BigInt

section Shares

variable {min total : Int}

/-- A share of the minimum, rounded up. -/
private def share (min total part : Int) : Int := (min * part + total - 1).tdiv total

variable (isMin : 0 ≤ min) (isTotal : 0 < total)
include isMin isTotal

theorem share_bounds {part : Int} (isPart : 0 < part) :
    min * part ≤ share min total part * total ∧ share min total part * total ≤ min * part + (total - 1) := by
  have nonneg : 0 ≤ min * part := Int.mul_nonneg isMin isPart.le
  rw [share, Int.tdiv_eq_ediv_of_nonneg (by omega), Int.mul_comm _ total]
  have whole := Int.mul_ediv_add_emod (min * part + total - 1) total
  have low := Int.emod_nonneg (min * part + total - 1) isTotal.ne'
  have high := Int.emod_lt_of_pos (min * part + total - 1) isTotal
  constructor <;> omega

theorem shares_bounds {parts : List Int} (positive : ∀ part ∈ parts, 0 < part) :
    min * parts.sum ≤ (parts.map (share min total)).sum * total ∧
      (parts.map (share min total)).sum * total ≤ min * parts.sum + parts.length * (total - 1) := by
  induction parts with
  | nil => simp
  | cons part parts ih =>
    obtain ⟨first, rest⟩ := List.forall_mem_cons.mp positive
    have here := share_bounds isMin isTotal first
    have others := ih rest
    simp only [List.map_cons, List.sum_cons, List.length_cons, Nat.cast_succ, mul_add, add_mul, one_mul]
    constructor <;> omega

end Shares

/-- Tranches that were accepted one behind the other and are still reserved, or filled. -/
inductive Accepted (srcAmount : String) (minFillAmount : Option String) : List IntentFill → Prop
  | nil : Accepted srcAmount minFillAmount []
  | reserve {fills fill after} (earlier : Accepted srcAmount minFillAmount fills) (holding : isHolding fill = true)
      (planned : planReservation srcAmount minFillAmount fills fill.reservedAmount = some (.ok after)) :
      Accepted srcAmount minFillAmount (fills ++ [fill])

/-- What is known of tranches that were accepted. -/
structure Fitting (total min : Int) (fills : List IntentFill) : Prop where
  positive : Positive fills
  held : sumIn .reserved fills + sumIn .filled fills = (fills.map IntentFill.amount).sum
  within : (fills.map IntentFill.amount).sum ≤ total
  large : ∀ fill ∈ fills.dropLast, min ≤ fill.amount
  last : (fills.map IntentFill.amount).sum < total → ∀ fill ∈ fills, min ≤ fill.amount

section Planner

variable {srcAmount : String} {minFillAmount : Option String} {fills : List IntentFill} {total min : Int}
  (isTotal : parse srcAmount = some total) (isMin : parse (minFillAmount.getD "1") = some min)
include isTotal isMin

theorem Fitting.reserve {fill after} (fitting : Fitting total min fills) (holding : isHolding fill = true)
    (planned : planReservation srcAmount minFillAmount fills fill.reservedAmount = some (.ok after)) :
    Fitting total min (fills ++ [fill]) := by
  obtain ⟨alloc, n, isAlloc, isAmount, positive, fits, enough⟩ := planReservation_ok planned
  rw [allocation_eq isTotal fitting.positive.parses] at isAlloc
  cases isAlloc
  dsimp only at fits enough
  have amount : fill.amount = n := by simp [IntentFill.amount, isAmount]
  have held := fitting.held
  simp only [isHolding, Bool.or_eq_true, beq_iff_eq] at holding
  constructor
  · refine List.forall_mem_append.mpr ⟨fitting.positive, List.forall_mem_singleton.mpr ⟨n.toNat, by omega, ?_⟩⟩
    rw [isAmount, Int.toNat_of_nonneg positive.le]
  · rw [sumIn_append, sumIn_append, sumIn_cons, sumIn_cons]
    rcases holding with status | status <;> simp [status] <;> omega
  · simp only [List.map_append, List.map_singleton, List.sum_append, List.sum_singleton]
    omega
  · simpa using fitting.last (by omega)
  · simp only [List.map_append, List.map_singleton, List.sum_append, List.sum_singleton, List.forall_mem_append,
      List.forall_mem_singleton]
    intro left
    refine ⟨fitting.last (by omega), ?_⟩
    rcases enough min isMin with large | whole <;> omega

theorem Accepted.fitting (isAmount : 0 ≤ total) (accepted : Accepted srcAmount minFillAmount fills) :
    Fitting total min fills := by
  induction accepted with
  | nil => exact ⟨nofun, rfl, isAmount, nofun, nofun⟩
  | reserve _ holding planned ih => exact ih.reserve isTotal isMin holding planned

theorem Fitting.reserve_rest (fitting : Fitting total min fills) (left : (fills.map IntentFill.amount).sum < total) :
    planReservation srcAmount minFillAmount fills (toText (total - (fills.map IntentFill.amount).sum)) =
      some (.ok 0) := by
  have positive : ¬total - (fills.map IntentFill.amount).sum ≤ 0 := by omega
  simp [planReservation, allocation_eq isTotal fitting.positive.parses, Int.sub_sub, fitting.held,
    parse_toText_int, positive, isMin]

end Planner

/-- The minimums of tranches that make up the whole amount add up to the minimum of the intent and less than one unit
    more for each tranche; and tranches that were accepted, none of them released, are completed by at most one more,
    which leaves no other one below the least amount. -/
theorem tranches_cover_intent {srcAmount minDstAmount : String} {minFillAmount : Option String} {total minDst : Nat}
    {min : Int} (isTotal : parse srcAmount = some (total : Int))
    (isMinDst : parse minDstAmount = some (minDst : Int))
    (isMin : parse (minFillAmount.getD "1") = some min) :
    (∀ fills, fills ≠ [] → Positive fills → (fills.map IntentFill.amount).sum = total → ∃ shares : List Int,
      fills.map (fun fill => (proRataMinDst minDstAmount fill.reservedAmount srcAmount).bind parse) =
        shares.map some ∧ minDst ≤ shares.sum ∧ shares.sum < minDst + fills.length) ∧
    ∀ fills, Accepted srcAmount minFillAmount fills → ∃ more, more.length ≤ 1 ∧
      Accepted srcAmount minFillAmount (fills ++ more) ∧ ((fills ++ more).map IntentFill.amount).sum = total ∧
      ∀ fill ∈ (fills ++ more).dropLast, min ≤ fill.amount := by
  constructor
  · intro fills nonempty positive isSum
    have parts : ∀ part ∈ fills.map IntentFill.amount, 0 < part :=
      List.forall_mem_map.mpr fun fill member => positive.amount_pos member
    have isPos : 0 < (total : Int) := isSum ▸ List.sum_pos _ parts (by simpa using nonempty)
    refine ⟨(fills.map IntentFill.amount).map (share minDst total), ?_, ?_⟩
    · rw [List.map_map, List.map_map]
      refine List.map_congr_left fun fill member => ?_
      obtain ⟨amount, _, parsed⟩ := positive fill member
      have nonzero : total ≠ 0 := by omega
      simp [proRataMinDst, isTotal, isMinDst, parsed, nonzero, parse_toText_int, share, IntentFill.amount]
    · obtain ⟨low, high⟩ := shares_bounds (Int.natCast_nonneg minDst) isPos parts
      rw [isSum] at low high
      rw [List.length_map] at high
      have any : 0 < fills.length := List.length_pos_iff.mpr nonempty
      constructor
      · exact le_of_mul_le_mul_right low isPos
      · refine lt_of_mul_lt_mul_right (lt_of_le_of_lt high ?_) isPos.le
        rw [add_mul, mul_sub, mul_one]
        omega
  · intro fills accepted
    have fitting := accepted.fitting isTotal isMin (Int.natCast_nonneg total)
    by_cases whole : (fills.map IntentFill.amount).sum = total
    · exact ⟨[], by simp, by simpa using accepted, by simpa using whole, by simpa using fitting.large⟩
    · have left : (fills.map IntentFill.amount).sum < total := lt_of_le_of_ne fitting.within whole
      have planned := fitting.reserve_rest isTotal isMin left
      refine ⟨[{ (default : IntentFill) with
        status := .reserved, reservedAmount := toText (total - (fills.map IntentFill.amount).sum) }], le_rfl,
        accepted.reserve rfl planned, ?_, ?_⟩
      · simp [IntentFill.amount, parse_toText_int]
      · simpa using fitting.last left

/-- One half of an intent of 7 is reserved, with a least fill of 3. -/
theorem tranches_cover_intent_seven : ∃ fills, fills.length = 1 ∧ ∃ more, more.length ≤ 1 ∧
    Accepted "7" (some "3") (fills ++ more) ∧ ((fills ++ more).map IntentFill.amount).sum = (7 : Nat) := by
  let half : IntentFill := { (default : IntentFill) with reservedAmount := "3", status := .reserved }
  have planned : planReservation "7" (some "3") [] half.reservedAmount = some (.ok 4) := by decide
  have covered := tranches_cover_intent (show parse "7" = some ((7 : Nat) : Int) by decide)
    (show parse "5" = some ((5 : Nat) : Int) by decide) (show parse ((some "3").getD "1") = some 3 by decide)
  obtain ⟨more, short, accepted, isSum, _⟩ := covered.2 _ (.reserve .nil rfl planned)
  exact ⟨_, rfl, more, short, accepted, isSum⟩

end VortexBackend
