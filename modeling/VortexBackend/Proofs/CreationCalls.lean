/-
Module: VortexBackend.Proofs.CreationCalls
Purpose: How a new intent comes to be stored: `persistNewIntent` fails only before the save.
Main exports: NewRecord, follows_persistNewIntent
-/
import VortexBackend.Proofs.HandlerCalls

namespace VortexBackend

open IntentsService IntentsController
open Async (follows_bind follows_attempt follows_throwWhen follows_tryCatch calls_bind calls_attempt calls_pure
  calls_throwWhen calls_onEachWith)

/-- The calls that come before the save of a new record: the time, an id, and the services outside. -/
def BackendCall.Prepares : BackendCall → Prop
  | .now | .newId => True
  | .external (.slashSolver ..) => False
  | .external _ => True
  | _ => False

/-- A stretch of such calls. -/
def Prepared (recent : List BackendExchange) : Prop := ∀ x ∈ recent, x.call.Prepares

theorem Prepared.nil : Prepared [] := by
  intro x member
  cases member

variable {call : BackendCall} {recent : List BackendExchange}

theorem Prepared.cons {reply} (prepared : Prepared recent) (prepares : call.Prepares) :
    Prepared (⟨call, reply⟩ :: recent) := by
  intro x member
  cases member with
  | head => exact prepares
  | tail _ earlier => exact prepared x earlier

/-- An answer that makes a creation fail: the registration or the write is refused, or the rollout asks for a
    registration and there is no contract. -/
def refuses (cfg : BackendSettings) : BackendExchange → Bool
  | ⟨.external (.isOnchainWrite ..), onchain⟩ => onchain && cfg.settlementContractId.isNone
  | ⟨.external (.invokeContract ..), .error _⟩ => true
  | ⟨.external (.enqueueOutbox _), .error _⟩ => true
  | ⟨.external (.storeWrite _), .error _⟩ => true
  | _ => false

/-- The record of `data` under an id that was issued in `recent`, open or parked for its registration. -/
def NewRecord (cfg : BackendSettings) (data : NewIntentData) (now : Nat) (recent : List BackendExchange)
    (intent : Intent) : Prop :=
  ∃ id version, (⟨.newId, id⟩ : BackendExchange) ∈ recent ∧
    (intent = IntentsService.newIntent cfg data id now version ∨
      ∃ txHash, intent = { IntentsService.newIntent cfg data id now version with
        state := .pendingOpen, pendingOp := some .create, pendingTxHash := txHash })

namespace NewRecord

variable {cfg : BackendSettings} {data : NewIntentData} {now : Nat} {recent : List BackendExchange}
  {intent : Intent}

section

variable (record : NewRecord cfg data now recent intent)
include record

theorem user : intent.user = data.user := by
  obtain ⟨_, _, _, rfl | ⟨_, rfl⟩⟩ := record <;> rfl

theorem createdAt : intent.createdAt = now := by
  obtain ⟨_, _, _, rfl | ⟨_, rfl⟩⟩ := record <;> rfl

theorem issued : (⟨.newId, intent.intentId⟩ : BackendExchange) ∈ recent := by
  obtain ⟨_, _, issued, rfl | ⟨_, rfl⟩⟩ := record <;> exact issued

theorem mono {x} : NewRecord cfg data now (x :: recent) intent := by
  obtain ⟨id, version, issued, isRecord⟩ := record
  exact ⟨id, version, .tail _ issued, isRecord⟩

end

end NewRecord

/-- What there is to show of a creation, from the past in which it starts: its preparations and its save are allowed,
    and both of its ends are as they should be. -/
structure Persists (cfg : BackendSettings) (data : NewIntentData) (now : Nat)
    (allows : List BackendExchange → BackendCall → Prop)
    (Q : Except BackendError Intent → List BackendExchange → Prop) (past : List BackendExchange) : Prop where
  prepares : ∀ recent call, Prepared recent → call.Prepares → allows (recent ++ past) call
  saves : ∀ recent intent, Prepared recent → NewRecord cfg data now recent intent →
    allows (recent ++ past) (.intents (.save intent))
  saved : ∀ recent intent reply, Prepared recent → NewRecord cfg data now recent intent →
    Q (.ok intent) (⟨.intents (.save intent), reply⟩ :: recent ++ past)
  failed : ∀ recent e, Prepared recent → (∃ x ∈ recent, refuses cfg x = true) → Q (.error e) (recent ++ past)

section Specification

variable {cfg : BackendSettings} {data : NewIntentData} {now : Nat}
  {allows : List BackendExchange → BackendCall → Prop}
  {Q : Except BackendError Intent → List BackendExchange → Prop} {past recent : List BackendExchange}

variable {intent : Intent}

section

variable (persists : Persists cfg data now allows Q past) (prepared : Prepared recent)
include persists prepared

theorem follows_saveRecord (record : NewRecord cfg data now recent intent) :
    (save intent).Follows allows Q (recent ++ past) := by
  have longer (written) : Prepared (⟨.external (.storeWrite intent.intentId), written⟩ :: recent) :=
    prepared.cons trivial
  refine .attempt_bind ⟨persists.prepares recent _ prepared trivial, fun
    | .error e => persists.failed _ e (longer (.error e)) ⟨_, .head _, rfl⟩
    | .ok _ => ⟨persists.saves _ intent (longer (.ok ())) record.mono, fun reply => ?_⟩⟩
  exact persists.saved _ intent reply (longer (.ok ())) record.mono

theorem follows_enqueued (record : NewRecord cfg data now recent intent)
    (noContract : cfg.settlementContractId.isNone = true → ∃ x ∈ recent, refuses cfg x = true) :
    (enqueueOnchain cfg intent >>= fun _ => save intent).Follows allows Q (recent ++ past) := by
  apply (follows_bind _ _).mpr
  apply (follows_bind _ _).mpr
  apply (follows_throwWhen _ _ _).mpr
  constructor
  · intro missing
    exact persists.failed recent _ prepared (noContract missing)
  · intro _
    apply (follows_attempt _).mpr
    refine ⟨persists.prepares recent _ prepared trivial, fun queued => ?_⟩
    have longer : Prepared (⟨.external (.enqueueOutbox intent), queued⟩ :: recent) := prepared.cons trivial
    cases queued with
    | error e => exact persists.failed _ e longer ⟨_, .head _, rfl⟩
    | ok _ => exact follows_saveRecord persists longer record.mono

theorem follows_registered {parked : String → Intent}
    (record : ∀ txHash, NewRecord cfg data now recent (parked txHash))
    (noContract : cfg.settlementContractId.isNone = true → ∃ x ∈ recent, refuses cfg x = true) :
    (registerOnChain cfg intent >>= fun txHash => save (parked txHash)).Follows allows Q (recent ++ past) := by
  apply (follows_bind _ _).mpr
  apply (follows_bind _ _).mpr
  apply (follows_throwWhen _ _ _).mpr
  constructor
  · intro missing
    exact persists.failed recent _ prepared (noContract missing)
  · intro _
    apply (follows_tryCatch _ _).mpr
    apply (follows_attempt _).mpr
    refine ⟨persists.prepares recent _ prepared trivial, fun registered => ?_⟩
    have longer : Prepared (⟨.external (.invokeContract .create intent.intentId), registered⟩ :: recent) :=
      prepared.cons trivial
    cases registered with
    | error e => exact persists.failed _ _ longer ⟨_, .head _, rfl⟩
    | ok txHash => exact follows_saveRecord persists longer (record txHash).mono

end

/-- `persistNewIntent` with its time: preparations, and then one save unless one of them was refused. -/
theorem follows_persistNewIntentAt (persists : Persists cfg data now allows Q past) :
    (persistNewIntentAt cfg data now).Follows allows Q past := by
  have prepares := persists.prepares
  refine .call_bind (prepares [] _ .nil trivial) fun version => ?_
  have one : Prepared [⟨.external (.paramsVersion data.srcChain), version⟩] := Prepared.nil.cons trivial
  refine .call_bind (prepares _ _ one trivial) fun id => ?_
  have two : Prepared [⟨.newId, id⟩, ⟨.external (.paramsVersion data.srcChain), version⟩] := one.cons trivial
  refine .call_bind (prepares _ _ two trivial) fun onchain => ?_
  have three : Prepared [⟨.external (.isOnchainWrite id data.srcChain), onchain⟩, ⟨.newId, id⟩,
      ⟨.external (.paramsVersion data.srcChain), version⟩] := two.cons trivial
  cases onchain with
  | false => exact follows_saveRecord persists three ⟨id, version, .tail _ (.head _), .inl rfl⟩
  | true =>
    have noContract (missing : cfg.settlementContractId.isNone = true) :
        refuses cfg ⟨.external (.isOnchainWrite id data.srcChain), true⟩ = true := by
      rw [refuses, missing]
      rfl
    cases cfg.unitOfWork with
    | true =>
      apply follows_enqueued persists three ⟨id, version, .tail _ (.head _), .inr ⟨none, rfl⟩⟩
      exact fun missing => ⟨_, .head _, noContract missing⟩
    | false =>
      apply follows_registered persists three (fun txHash =>
        ⟨id, version, .tail _ (.head _), .inr ⟨some txHash, rfl⟩⟩)
      exact fun missing => ⟨_, .head _, noContract missing⟩

end Specification

/-- The same where the function reads the clock itself. -/
theorem follows_persistNewIntent {cfg data} {allows : List BackendExchange → BackendCall → Prop}
    {Q : Except BackendError Intent → List BackendExchange → Prop} {past} (clock : allows past .now)
    (persists : ∀ ms : Nat, Persists cfg data (ms / 1000) allows Q (⟨.now, ms⟩ :: past)) :
    (persistNewIntent cfg data).Follows allows Q past := by
  apply (follows_bind _ _).mpr
  refine .call_bind clock fun ms => ?_
  exact follows_persistNewIntentAt (persists ms)

/-! ### Calls that neither count nor write an intent -/

/-- The time, the tranches of an intent, and the services outside. -/
def BackendCall.Detached : BackendCall → Prop
  | .fills (.listByIntent _) | .now => True
  | .external (.slashSolver ..) => False
  | .external _ => True
  | _ => False

/-- Reads of one record, the bookkeeping of creations in flight, and the services outside. -/
def BackendCall.Neutral : BackendCall → Prop
  | .intents (.findById _) | .fills (.listByIntent _) | .creation _ | .now | .newId => True
  | .external (.slashSolver ..) => False
  | .external _ => True
  | _ => False

theorem BackendCall.Prepares.neutral (prepares : call.Prepares) : call.Neutral := by
  cases call with
  | now | newId => trivial
  | external c => cases c <;> trivial
  | _ => cases prepares

theorem BackendCall.Detached.neutral (detached : call.Detached) : call.Neutral := by
  cases call with
  | now => trivial
  | fills c =>
    cases c with
    | listByIntent => trivial
    | _ => cases detached
  | external c => cases c <;> trivial
  | _ => cases detached

theorem Prepared.neutral (prepared : Prepared recent) : ∀ x ∈ recent, x.call.Neutral := by
  intro x member
  exact (prepared x member).neutral

namespace Creation

variable {cfg : BackendSettings} {α : Type}

theorem neutral_of_detached {x : Backend α} (calls : x.Calls BackendCall.Detached) : x.Calls BackendCall.Neutral :=
  calls.mono fun _ detached => detached.neutral

theorem calls_clock : Backend.nowSeconds.Calls BackendCall.Detached :=
  calls_bind (calls_one trivial) fun _ => calls_pure _

theorem calls_partialFillTerms (dto : CreateIntentDto) : (partialFillTerms cfg dto).Calls BackendCall.Detached := by
  unfold partialFillTerms
  split
  · exact calls_bind (calls_throwWhen _ _) fun _ => calls_pure _
  · apply calls_bind (calls_throwWhen _ _)
    intro _
    apply calls_bind (calls_bigInt _)
    intro minimum
    apply calls_bind (calls_bigInt _)
    intro amount
    exact calls_bind (calls_throwWhen _ _) fun _ => calls_pure _

theorem calls_batchItem (now : Nat) (items : List NewIntentData) (dto : CreateIntentDto) :
    (batchItem cfg now items dto).Calls BackendCall.Detached := by
  refine calls_bind (calls_attempt (calls_one trivial)) fun _ => ?_
  refine calls_bind (calls_attempt (calls_one trivial)) fun _ => ?_
  exact calls_bind (calls_partialFillTerms dto) fun _ => calls_pure _

theorem calls_preflightBatch (items : List NewIntentData) : (preflightBatch cfg items).Calls BackendCall.Detached := by
  unfold preflightBatch
  split
  · apply calls_onEachWith
    intro errors item _
    refine calls_bind (calls_attempt (calls_one trivial)) fun failure => ?_
    cases failure <;> trivial
  · trivial

end Creation

/-- The order of the sample intent, for the runs on fixed inputs. -/
def sampleOrder : CreateIntentDto where
  user := "U"
  srcChain := .base
  srcTokenAddress := "T"
  srcTokenSymbol := "USDC"
  srcTokenDecimals := 6
  srcAmount := "100"
  dstTokenContract := "D"
  dstTokenSymbol := "USDC"
  dstTokenDecimals := 7
  minDstAmount := "90"

end VortexBackend
