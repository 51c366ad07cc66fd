/-
Module: VortexBackend.Proofs.StaticParams
Purpose: The parameters are defaults or reported values if no response lacks a value or is out of bounds.
Main exports: params_fail_static
-/
import VortexBackend.Governance.Params

namespace VortexBackend

open ProtocolParamsService BigInt Component

/-- The parameters that are retained. -/
inductive Param where
  | feeBps
  | slashAmount
  | deadline (chain : SupportedChain)
  | fillWindow (chain : SupportedChain)

namespace Param

def low : Param → Int
  | feeBps | slashAmount => 0
  | deadline _ => 60
  | fillWindow _ => 30

def high : Param → Int
  | feeBps => 1000
  | slashAmount => SLASH_AMOUNT_MAX
  | deadline _ => 86400
  | fillWindow _ => 43200

/-- The code default. -/
def default : Param → Int
  | feeBps => 30
  | slashAmount => 100000000
  | deadline chain => chain.deadline
  | fillWindow chain => chain.fillWindow

/-- The number that a response carries for the parameter. -/
def parsed (raw : ContractState) : Param → Option Int
  | feeBps => (raw "fee_bps").bind parseInt
  | slashAmount => (raw "slash_amount").bind parse
  | deadline chain => (raw ("deadline_" ++ chain.name)).bind parseInt
  | fillWindow chain => (raw ("fill_window_" ++ chain.name)).bind parseInt

/-- A valid value for the parameter that the response reports. -/
def Reports (raw : ContractState) (p : Param) (n : Int) : Prop := p.parsed raw = some n ∧ p.low ≤ n ∧ n ≤ p.high

/-- The value in force, as text. -/
def text (params : ProtocolParams) : Param → String
  | feeBps => toText params.feeBps
  | slashAmount => params.slashAmount
  | deadline chain => toText (params.chains chain).deadlineSeconds
  | fillWindow chain => toText (params.chains chain).fillWindowSeconds

end Param

/-- A response reports no value out of bounds, and leaves a parameter out only while its code default is in force. -/
def Steady (s : ParamsState) : ParamsAnswer → Prop
  | .failed => True
  | .answered raw _ _ => ∀ p : Param, (∀ n, p.parsed raw = some n → p.low ≤ n ∧ n ≤ p.high) ∧
    (p.parsed raw = none → p.text s.current = toText p.default)

variable {parseFloat : String → Option Rat} {raw : ContractState} {p : Param}

/-! ### What a response makes of a parameter -/

theorem text_buildCodeDefaults {now} : p.text (buildCodeDefaults now) = toText p.default := by
  cases p with
  | slashAmount =>
    change DEFAULT_SLASH_AMOUNT = toText 100000000
    decide +kernel
  | _ => rfl

/-- The text of a parameter in the candidate: the default without a number, the number itself within bounds. -/
theorem text_candidate (parseFloat : String → Option Rat) {version ledger now}
    (within : ∀ n, p.parsed raw = some n → p.low ≤ n ∧ n ≤ p.high) :
    p.text (candidate parseFloat raw version ledger now) = toText ((p.parsed raw).getD p.default) := by
  have inside {n low high : Int} (within : low ≤ n ∧ n ≤ high) : ¬ (n < low ∨ high < n) :=
    not_or.mpr ⟨Int.not_lt.mpr within.1, Int.not_lt.mpr within.2⟩
  have clamp (key : String) (low high fallback : Int)
      (within : ∀ n, (raw key).bind parseInt = some n → low ≤ n ∧ n ≤ high) :
      parseAndClamp parseInt raw key low high fallback = ((raw key).bind parseInt).getD fallback := by
    unfold parseAndClamp
    cases parsed : (raw key).bind parseInt with
    | none => rfl
    | some n => exact if_neg (inside (within n parsed))
  cases p with
  | feeBps => exact congrArg toText (clamp _ _ _ _ within)
  | slashAmount =>
    simp only [Param.text, candidate, Param.parsed, validateSlashAmount] at within ⊢
    cases reported : raw "slash_amount" with
    | none => decide +kernel
    | some value =>
      rw [reported] at within
      simp only [Option.getD_some, Option.bind_some] at within ⊢
      cases parsed : parse value with
      | none => decide +kernel
      | some n => exact if_neg (inside (within n parsed))
  | deadline chain | fillWindow chain =>
    simp only [Param.text, candidate, buildChainWindows, Param.parsed]
    split
    · rename_i absent
      simp only [Bool.and_eq_true, Option.isNone_iff_eq_none] at absent
      simp [absent, defaultWindows, Param.default]
    · exact congrArg toText (clamp _ _ _ _ within)

theorem text_of_not_hasChanged {a b} (same : hasChanged a b = false) : p.text a = p.text b := by
  simp only [hasChanged, Bool.or_eq_false_iff, bne_eq_false_iff_eq, List.any_eq_false, bne_iff_ne, not_not] at same
  obtain ⟨⟨⟨fee, _⟩, slash⟩, chains⟩ := same
  have everyChain (chain : SupportedChain) : a.chains chain = b.chains chain := by
    apply chains
    cases chain <;> decide
  cases p <;> simp [Param.text, fee, slash, everyChain]

variable {s : ParamsState}

/-- After a steady response the parameter is what the response reports, or else the default. -/
theorem text_refresh {latestLedger now} (steady : Steady s (.answered raw latestLedger now)) :
    p.text (refresh parseFloat s (.answered raw latestLedger now)).2.current =
      toText ((p.parsed raw).getD p.default) := by
  rw [← text_candidate parseFloat (steady p).1]
  unfold refresh applyContractState
  dsimp only
  split
  · rfl
  · rename_i same
    exact text_of_not_hasChanged (Bool.eq_false_iff.mpr same)

/-! ### Runs -/

/-- Every parameter is its code default or a value that some response reported. -/
def Sourced (responses : List (Option ContractState)) (s : ParamsState) : Prop :=
  ∀ p : Param, p.text s.current = toText p.default ∨
    ∃ raw, some raw ∈ responses ∧ ∃ n, p.Reports raw n ∧ p.text s.current = toText n

theorem Sourced.step {responses answer} (sourced : Sourced responses s) (steady : Steady s answer) :
    Sourced ((refresh parseFloat s answer).1 :: responses) (refresh parseFloat s answer).2 := by
  intro p
  cases answer with
  | failed =>
    rcases sourced p with default | ⟨raw, member, reported⟩
    · exact .inl default
    · exact .inr ⟨raw, .tail _ member, reported⟩
  | answered raw latestLedger now =>
    rw [text_refresh steady]
    cases parsed : p.parsed raw with
    | none => exact .inl rfl
    | some n => exact .inr ⟨raw, .head _, n, ⟨parsed, (steady p).1 n parsed⟩, rfl⟩

/-- In every run of steady refreshes, every parameter is its code default or a value in bounds that the contract
    reported, and a further steady refresh that reports no value for a parameter leaves it as it is. -/
theorem params_fail_static (parseFloat : String → Option Rat) (now : Nat) (answers : List ParamsAnswer)
    (meets : Component.Meets (refresh parseFloat) (fun _ => Steady) [] { current := buildCodeDefaults now } answers) :
    let final := run (refresh parseFloat) { current := buildCodeDefaults now } answers
    Sourced final.1 final.2 ∧ ∀ answer, Steady final.2 answer → ∀ p : Param,
      (∀ raw latestLedger time, answer = .answered raw latestLedger time → ∀ n, ¬ p.Reports raw n) →
        p.text (refresh parseFloat final.2 answer).2.current = p.text final.2.current := by
  intro final
  constructor
  · have start : Sourced [] { current := buildCodeDefaults now } := fun p => .inl text_buildCodeDefaults
    have sourced := run_invariant Sourced (fun _ _ _ _ sourced steady => sourced.step steady) answers [] []
      _ start meets
    intro p
    rcases sourced p with default | ⟨raw, member, reported⟩
    · exact .inl default
    · exact .inr ⟨raw, by simpa using member, reported⟩
  · intro answer steady p without
    cases answer with
    | failed => rfl
    | answered raw latestLedger time =>
      rw [text_refresh steady]
      cases parsed : p.parsed raw with
      | none => exact ((steady p).2 parsed).symm
      | some n => exact absurd ⟨parsed, (steady p).1 n parsed⟩ (without raw latestLedger time rfl n)

/-- The response of a contract that sets the fee only. -/
def feeOnly (value : String) : ContractState := fun key => if key = "fee_bps" then some value else none

theorem params_fail_static_after_fee :
    let final := run (refresh fun _ => none) { current := buildCodeDefaults 0 }
      [.answered (feeOnly "45") none 1]
    Param.feeBps.text (refresh (fun _ => none) final.2 .failed).2.current = "45" := by
  have others (p : Param) (other : p ≠ .feeBps) : p.parsed (feeOnly "45") = none := by
    cases p with
    | feeBps => exact absurd rfl other
    | slashAmount => decide +kernel
    | deadline chain | fillWindow chain => cases chain <;> decide +kernel
  have steady : Steady { current := buildCodeDefaults 0 } (.answered (feeOnly "45") none 1) := by
    intro p
    by_cases isFee : p = .feeBps
    · have parsed : p.parsed (feeOnly "45") = some 45 := by
        rw [isFee]
        decide +kernel
      rw [parsed, isFee]
      exact ⟨fun n same => by cases same; decide, nofun⟩
    · rw [others p isFee]
      exact ⟨nofun, fun _ => text_buildCodeDefaults⟩
  have kept := (params_fail_static (fun _ => none) 0 [.answered (feeOnly "45") none 1] ⟨steady, trivial⟩).2 .failed
    trivial .feeBps nofun
  exact kept.trans (by decide +kernel)

/-- A response without the fee puts the code default in the place of the live value, and one out of bounds is
    replaced by the bound. -/
theorem missing_fee_reverts_to_default :
    let live := run (refresh fun _ => none) { current := buildCodeDefaults 0 }
      [.answered (feeOnly "45") none 1]
    Param.feeBps.text live.2.current = "45" ∧
      Param.feeBps.text (refresh (fun _ => none) live.2 (.answered (fun _ => none) none 2)).2.current = "30" ∧
      Param.feeBps.text (refresh (fun _ => none) live.2 (.answered (feeOnly "5000") none 2)).2.current = "1000" := by
  decide +kernel

end VortexBackend
