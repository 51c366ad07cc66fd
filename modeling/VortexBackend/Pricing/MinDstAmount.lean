/-
Module: VortexBackend.Pricing.MinDstAmount
Purpose: `validateMinDstAmount`: the minimum of a user against the fair value. Divisions drop their remainder.
Trusted boundary: `JSON.stringify` is a parameter; decimals and times are integers
Main exports: validateMinDstAmount
-/
import VortexBackend.Js.BigInt

namespace VortexBackend.Pricing

/-- `string | bigint` -/
inductive Amount where
  | text (value : String)
  | bigint (value : Int)

variable (stringify : String → String)

def parseBaseUnits : Amount → Except String Int
  | .bigint value =>
    if value < 0 then .error s!"base-unit amount must be non-negative, received {value}" else .ok value
  | .text value =>
    match BigInt.decimal (BigInt.trim value.toList) with
    | some n => .ok n
    | none => .error s!"invalid base-unit amount: {stringify value}"

variable (input : MinDstValidationInput)

variable (config : OracleMinDstConfig)

end VortexBackend.Pricing
