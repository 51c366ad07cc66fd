/-
Module: VortexBackend.Governance.Params
Purpose: The parameters read from the governance contract. The scheduled change is left out.
Trusted boundary: the RPC node, and `parseFloat`; a rational stands for the ratio
Main exports: ProtocolParamsService.refresh
-/
import VortexBackend.Intents.Types
import VortexBackend.Js.BigInt
import VortexBackend.Sequential.Run
import Mathlib.Data.Rat.Defs

namespace VortexBackend

structure ChainWindows where
  deadlineSeconds : Int
  fillWindowSeconds : Int
deriving DecidableEq

structure ProtocolParams where
  version : Nat
  feeBps : Int
  chains : SupportedChain → ChainWindows
  maxExposureRatio : Rat
  slashAmount : String
  activeSinceLedger : Nat
  adoptedAt : Nat

structure ParamsState where
  current : ProtocolParams
  history : List ProtocolParams := []
  versionCounter : Nat := 0

/-- The entries that the contract reports, each as `String(value)`. -/
abbrev ContractState := String → Option String

/-- How a poll ends: with an error, or with entries and, if the node tells, the latest ledger. -/
inductive ParamsAnswer where
  | failed
  | answered (raw : ContractState) (latestLedger : Option Nat) (now : Nat)

namespace ProtocolParamsService

def DEFAULT_FEE_BPS : Int := 30
def DEFAULT_MAX_EXPOSURE_RATIO : Rat := 1 / 20
def DEFAULT_SLASH_AMOUNT : String := "100000000"
def SLASH_AMOUNT_MAX : Int := 1000000000000
def MAX_HISTORY : Nat := 50

def CHAIN_NAMES : List SupportedChain :=
  [.stellar, .ethereum, .base, .polygon, .arbitrum, .optimism, .avalanche]

/-- `parseInt(text, 10)`, if it is a finite number. -/
def parseInt (text : String) : Option Int :=
  let (sign, rest) : Int × List Char := match text.toList.dropWhile BigInt.isSpace with
    | '-' :: rest => (-1, rest)
    | '+' :: rest => (1, rest)
    | rest => (1, rest)
  let digits := rest.takeWhile Char.isDigit
  let n := Nat.ofDigitChars 10 digits 0
  if digits ≠ [] ∧ n < 2 ^ 1024 - 2 ^ 970 then some (sign * n) else none

/-- A reported number, clamped to its bounds; what cannot be read falls back. -/
def parseAndClamp {α : Type} [LinearOrder α] (parse : String → Option α) (raw : ContractState) (key : String)
    (low high fallback : α) : α :=
  match (raw key).bind parse with
  | none => fallback
  | some parsed => if parsed < low ∨ high < parsed then min high (max low parsed) else parsed

def validateSlashAmount (value : String) : String :=
  match BigInt.parse value with
  | none => DEFAULT_SLASH_AMOUNT
  | some amount =>
    if amount < 0 ∨ SLASH_AMOUNT_MAX < amount then BigInt.toText (if amount < 0 then 0 else SLASH_AMOUNT_MAX)
    else BigInt.toText amount

def defaultWindows (chain : SupportedChain) : ChainWindows := ⟨chain.deadline, chain.fillWindow⟩

def buildChainWindows (raw : ContractState) (chain : SupportedChain) : ChainWindows :=
  let deadlineKey := "deadline_" ++ chain.name
  let fillKey := "fill_window_" ++ chain.name
  if (raw deadlineKey).isNone && (raw fillKey).isNone then defaultWindows chain
  else
    ⟨parseAndClamp parseInt raw deadlineKey 60 86400 chain.deadline,
      parseAndClamp parseInt raw fillKey 30 43200 chain.fillWindow⟩

def buildCodeDefaults (now : Nat) : ProtocolParams where
  version := 0
  feeBps := DEFAULT_FEE_BPS
  chains := defaultWindows
  maxExposureRatio := DEFAULT_MAX_EXPOSURE_RATIO
  slashAmount := DEFAULT_SLASH_AMOUNT
  activeSinceLedger := 0
  adoptedAt := now

def hasChanged (a b : ProtocolParams) : Bool :=
  a.feeBps != b.feeBps || a.maxExposureRatio != b.maxExposureRatio || a.slashAmount != b.slashAmount ||
    CHAIN_NAMES.any fun chain => a.chains chain != b.chains chain

variable (parseFloat : String → Option Rat)

/-- The parameters of a response. -/
def candidate (raw : ContractState) (version ledger now : Nat) : ProtocolParams where
  version
  feeBps := parseAndClamp parseInt raw "fee_bps" 0 1000 DEFAULT_FEE_BPS
  chains := buildChainWindows raw
  maxExposureRatio := parseAndClamp parseFloat raw "max_exposure_ratio" 0 1 DEFAULT_MAX_EXPOSURE_RATIO
  slashAmount := validateSlashAmount ((raw "slash_amount").getD DEFAULT_SLASH_AMOUNT)
  activeSinceLedger := ledger
  adoptedAt := now

def applyContractState (s : ParamsState) (raw : ContractState) (latestLedger : Option Nat) (now : Nat) : ParamsState :=
  let next := candidate parseFloat raw (s.versionCounter + 1) (latestLedger.getD 0) now
  if hasChanged s.current next then
    let history := s.history ++ [s.current]
    { current := next
      history := if MAX_HISTORY < history.length then history.tail else history
      versionCounter := s.versionCounter + 1 }
  else s

/-- One refresh; an error leaves the parameters alone. The result is what the contract reported. -/
def refresh : Component ParamsState ParamsAnswer (Option ContractState)
  | s, .failed => (none, s)
  | s, .answered raw latestLedger now => (some raw, applyContractState parseFloat s raw latestLedger now)

end ProtocolParamsService

end VortexBackend
