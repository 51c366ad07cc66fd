/-
Module: VortexBackend.Soroban.TtlKeeper
Purpose: `TtlKeeperService` on top of the signer. What is confirmed is counted in memory, by UTC day.
Trusted boundary: deriving and scanning the keys is one call, whatever it finds; every transaction of this process is an
  extension, and an included one costs the fee it was prepared with. Gauges, logs and the last report are left out.
Main exports: TtlKeeper.run, keeperService
-/
import VortexBackend.Async.Embed
import VortexBackend.Soroban.Signer

namespace VortexBackend

structure TtlKeeperSettings where
  thresholdLedgers : Nat := 120960
  dailyBudgetStroops : Nat := 50000000
  maxKeysPerTx : Nat := 20
deriving Repr, DecidableEq

/-- What a tracked key is the key of. -/
inductive TtlKeyKind where
  | contractInstance
  | contractCode
  | intent
  | bond
deriving Repr, DecidableEq

def CRITICAL_KINDS : List TtlKeyKind := [.contractInstance, .contractCode]

/-- A key with what the scan found: a key that was not returned is missing. -/
structure ScannedKey where
  kind : TtlKeyKind
  keyXdr : String
  liveUntilLedgerSeq : Option Nat
  remainingLedgers : Int
deriving Repr, DecidableEq

inductive TtlEntryStatus where
  | ok
  | belowThreshold
  | missing
deriving Repr, DecidableEq

structure TtlReportEntry where
  kind : TtlKeyKind
  keyXdr : String
  status : TtlEntryStatus
  liveUntilLedgerSeq : Option Nat
  remainingLedgers : Option Int
deriving Repr, DecidableEq

inductive TtlTransactionStatus where
  | success
  | dryRun
  | overBudget
  | failed
deriving Repr, DecidableEq

structure TtlTransaction where
  keys : Nat
  status : TtlTransactionStatus
  hash : Option Nat
  feeStroops : Nat
  error : Option String := none
deriving Repr, DecidableEq

structure TtlExtensionSummary where
  eligible : Nat
  extended : Nat := 0
  transactions : List TtlTransaction := []
  budgetExhausted : Bool := false
deriving Repr, DecidableEq

/-- The counter, with the day it is for: none before its first use. -/
structure DailySpend where
  day : Option Nat := none
  spentStroops : Nat := 0
deriving Repr, DecidableEq

structure TtlKeeperReport where
  latestLedger : Nat
  budget : DailySpend
  remainingStroops : Nat
  entries : List TtlReportEntry
  extension : Option TtlExtensionSummary
deriving Repr, DecidableEq

/-! ### Pure functions -/

/-- Instance and code keys come first, then the ones closest to archival. -/
def priorTo (a b : ScannedKey) : Bool :=
  match decide (a.kind ∈ CRITICAL_KINDS), decide (b.kind ∈ CRITICAL_KINDS) with
  | true, false => true
  | false, true => false
  | _, _ => a.remainingLedgers ≤ b.remainingLedgers

/-- The sort is stable, as that of the source. -/
def prioritise (keys : List ScannedKey) : List ScannedKey := keys.insertionSort (priorTo · ·)

/-- Transactions of at most `maxPerTx` keys. -/
def batchKeys (keys : List ScannedKey) (maxPerTx : Nat) : Except RelayError (List (List ScannedKey)) :=
  if maxPerTx < 1 then .error (.error s!"maxPerTx must be a positive integer, got {maxPerTx}")
  else .ok (keys.toChunks maxPerTx)

/-- A live key at or below the threshold. -/
def ScannedKey.eligible (threshold : Nat) (k : ScannedKey) : Bool :=
  k.liveUntilLedgerSeq.isSome && k.remainingLedgers ≤ threshold

def ScannedKey.toEntry (threshold : Nat) (k : ScannedKey) : TtlReportEntry where
  kind := k.kind
  keyXdr := k.keyXdr
  status :=
    if k.liveUntilLedgerSeq.isNone then .missing
    else if k.remainingLedgers ≤ threshold then .belowThreshold else .ok
  liveUntilLedgerSeq := k.liveUntilLedgerSeq
  remainingLedgers := if k.liveUntilLedgerSeq.isNone then none else some k.remainingLedgers

/-! ### The process -/

/-- What the keeper awaits, and what it reads or writes of its own. -/
inductive KeeperCall where
  /-- `this.running ??= …` -/
  | beginRun
  /-- `await this.running` -/
  | joinRun
  /-- `this.running = undefined` -/
  | endRun
  /-- `deriveKeys` and `scan` -/
  | scan
  | currentBudget
  | spend (stroops : Nat)
  | signer (call : SignerCall)
deriving Repr, DecidableEq

@[reducible] def KeeperReply : KeeperCall → Type
  | .beginRun => Bool
  | .joinRun | .endRun | .spend _ => Unit
  | .scan => Except RelayError (Nat × List ScannedKey)
  | .currentBudget => DailySpend
  | .signer call => SignerReply call

/-- The signer's calls among the keeper's. -/
def signerCalls : Embedding SignerReply KeeperReply where
  lift := .signer
  reply _ := Equiv.refl _

/-- A fee that the account was charged, with the day of the ledger. -/
structure ChargedFee where
  day : Nat
  stroops : Nat
deriving Repr, DecidableEq

structure KeeperWorld where
  now : Nat := 0
  signer : SignerWorld := {}
  running : Bool := false
  budget : DailySpend := {}
  /-- the fees of the included transactions, newest first -/
  fees : List ChargedFee := []

structure KeeperChoice where
  signer : SignerChoice := {}
  scan : Except RelayError (Nat × List ScannedKey) := .ok (0, [])

namespace KeeperWorld

/-- The UTC day of a time in milliseconds. -/
def dayOf (ms : Nat) : Nat := ms / 86400000

def today (w : KeeperWorld) : Nat := dayOf w.now

/-- `currentBudget`: a counter of another day starts anew. -/
def currentBudget (w : KeeperWorld) : DailySpend :=
  if w.budget.day = some w.today then w.budget else { day := some w.today }

def perform : (call : KeeperCall) → KeeperChoice → KeeperWorld → Option (KeeperReply call × KeeperWorld)
  | .beginRun, _, w => some (!w.running, { w with running := true })
  | .joinRun, _, w => if w.running then none else some ((), w)
  | .endRun, _, w => some ((), { w with running := false })
  | .scan, choice, w => some (choice.scan, w)
  | .currentBudget, _, w => some (w.currentBudget, { w with budget := w.currentBudget })
  | .spend stroops, _, w =>
    some ((), { w with
      budget := { w.currentBudget with spentStroops := w.currentBudget.spentStroops + stroops } })
  | .signer call, choice, w =>
    match SignerWorld.perform call choice.signer w.signer with
    | some (reply, signer) => some (reply, { w with signer })
    | none => none

/-- What happens without the process. -/
inductive Drift where
  | tick (ms : Nat)
  | signer (d : SignerWorld.Drift)

/-- The fee that the account is charged. -/
def charge (w : KeeperWorld) : SignerWorld.Drift → List ChargedFee
  | .include envelope => { day := w.today, stroops := envelope.fee } :: w.fees
  | .drop _ | .setKillSwitch _ => w.fees

def drift : Drift → KeeperWorld → Option KeeperWorld
  | .tick ms, w => some { w with now := w.now + ms }
  | .signer d, w =>
    match SignerWorld.drift d w.signer with
    | some signer => some { w with signer, fees := w.charge d }
    | none => none

end KeeperWorld

abbrev Keeper (α : Type) := Async KeeperReply RelayError α

namespace TtlKeeper

variable (settings : TtlKeeperSettings) (summary : TtlExtensionSummary)

/-- What an extension that returned does to the summary. Only a confirmed one is spent. -/
def recordResult (keys : Nat) (result : ExtendFootprintTtlResult) : Keeper TtlExtensionSummary := do
  let record (status : TtlTransactionStatus) : TtlExtensionSummary :=
    { summary with
      transactions := summary.transactions ++ [{ keys, status, hash := result.hash, feeStroops := result.feeStroops }] }
  match result.status with
  | .overBudget => pure { record .overBudget with budgetExhausted := true }
  | .dryRun => pure (record .dryRun)
  | .success => do
    Async.call (KeeperCall.spend result.feeStroops)
    pure { record .success with extended := summary.extended + keys }

/-- What an extension that threw does to it. -/
def recordFailure (keys : Nat) (e : RelayError) : TtlExtensionSummary :=
  match e with
  | .ttlExtensionOverBudget feeStroops _ =>
    { summary with
      transactions := summary.transactions ++
        [{ keys, status := .overBudget, hash := none, feeStroops, error := some e.message }]
      budgetExhausted := true }
  | _ =>
    { summary with
      transactions := summary.transactions ++
        [{ keys, status := .failed, hash := none, feeStroops := 0, error := some e.message }] }

/-- One round of the loop. The loop is left exactly when the budget is exhausted. -/
def extendBatch (batch : List ScannedKey) : Keeper TtlExtensionSummary := do
  if summary.budgetExhausted then pure summary
  else do
    let budget ← Async.call KeeperCall.currentBudget
    if settings.dailyBudgetStroops ≤ budget.spentStroops then pure { summary with budgetExhausted := true }
    else
      let remaining := settings.dailyBudgetStroops - budget.spentStroops
      tryCatch (do
          let result ← Async.embed signerCalls (Signer.extendFootprintTtl batch.length (some remaining))
          recordResult summary batch.length result)
        fun e => pure (recordFailure summary batch.length e)

/-- Extend the eligible keys within the daily budget. -/
def extend (eligible : List ScannedKey) : Keeper TtlExtensionSummary := do
  if eligible.isEmpty then pure { eligible := 0 }
  else do
    let batches ← Async.ofExcept (batchKeys (prioritise eligible) settings.maxKeysPerTx)
    Async.onEachWith (extendBatch settings) { eligible := eligible.length } batches

/-- Extend if asked to. -/
def extendIf (extending : Bool) (scanned : List ScannedKey) : Keeper (Option TtlExtensionSummary) := do
  if extending then do
    let summary ← extend settings (scanned.filter (·.eligible settings.thresholdLedgers))
    pure (some summary)
  else pure none

def execute (extending : Bool) : Keeper TtlKeeperReport := do
  let (latestLedger, scanned) ← Async.attempt (Async.call KeeperCall.scan)
  let extension ← extendIf settings extending scanned
  let budget ← Async.call KeeperCall.currentBudget
  pure {
    latestLedger
    budget
    remainingStroops := settings.dailyBudgetStroops - budget.spentStroops
    entries := scanned.map (·.toEntry settings.thresholdLedgers)
    extension }

/-- `run`: callers share the pass in progress. One that joins gets the report of that pass, which is not repeated
    here. -/
def run : Keeper (Option TtlKeeperReport) := do
  if ← Async.call KeeperCall.beginRun then
    Async.tryFinally (do
      let report ← execute settings true
      pure (some report)) (Async.call KeeperCall.endRun)
  else do
    Async.call KeeperCall.joinRun
    pure none

/-- Scan only. -/
def report : Keeper (Option TtlKeeperReport) := do
  let report ← execute settings false
  pure (some report)

end TtlKeeper

/-- A pass, from the timer or by hand, or a scan. -/
inductive KeeperRequest where
  | run
  | report
deriving Repr, DecidableEq

def KeeperRequest.handler (settings : TtlKeeperSettings) : KeeperRequest → Keeper (Option TtlKeeperReport)
  | .run => TtlKeeper.run settings
  | .report => TtlKeeper.report settings

def keeperService (settings : TtlKeeperSettings) :
    Service KeeperReply KeeperWorld KeeperChoice KeeperWorld.Drift KeeperRequest
      (Except RelayError (Option TtlKeeperReport)) where
  perform := KeeperWorld.perform
  drift := KeeperWorld.drift
  start request := (request.handler settings).run

abbrev KeeperMove := Move KeeperChoice KeeperWorld.Drift KeeperRequest

end VortexBackend
