/-
Module: VortexBackend.Intents.StateMachine
Purpose: The table of legal state changes of an intent and `transition`, which plans a change from it.
Trusted boundary: the metadata and the timestamp of the planned audit entry are left out
Main exports: TRANSITION_TABLE, transition
-/
import VortexBackend.Intents.Types

namespace VortexBackend

inductive TransitionKind where
  | lifecycle
  | park
  | confirm
  | compensation
deriving Repr, DecidableEq

def TransitionKind.name : TransitionKind → String
  | .lifecycle => "lifecycle"
  | .park => "park"
  | .confirm => "confirm"
  | .compensation => "compensation"

/-- One legal edge. -/
structure TransitionRule where
  «from» : IntentState
  «to» : IntentState
  kind : TransitionKind
  defaultReason : String
deriving Repr, DecidableEq

/-- Every legal state change. -/
def TRANSITION_TABLE : List TransitionRule :=
  [⟨.open, .accepted, .lifecycle, "solver accepted"⟩,
   ⟨.open, .cancelled, .lifecycle, "user cancelled"⟩,
   ⟨.open, .expired, .lifecycle, "deadline passed"⟩,
   ⟨.accepted, .filled, .lifecycle, "solver filled"⟩,
   ⟨.accepted, .slashed, .lifecycle, "accepted intent not filled before deadline"⟩,
   ⟨.open, .pendingOpen, .park, "create broadcast pending confirmation"⟩,
   ⟨.open, .pendingAccepted, .park, "accept broadcast pending confirmation"⟩,
   ⟨.open, .pendingCancelled, .park, "cancel broadcast pending confirmation"⟩,
   ⟨.accepted, .pendingAccepted, .park, "accept broadcast pending confirmation"⟩,
   ⟨.accepted, .pendingFilled, .park, "fill broadcast pending confirmation"⟩,
   ⟨.accepted, .pendingCancelled, .park, "cancel broadcast pending confirmation"⟩,
   ⟨.filled, .pendingFilled, .park, "fill broadcast pending confirmation"⟩,
   ⟨.cancelled, .pendingCancelled, .park, "cancel broadcast pending confirmation"⟩,
   ⟨.pendingOpen, .open, .confirm, "create confirmed on-chain"⟩,
   ⟨.pendingAccepted, .accepted, .confirm, "accept confirmed on-chain"⟩,
   ⟨.pendingFilled, .filled, .confirm, "fill confirmed on-chain"⟩,
   ⟨.pendingCancelled, .cancelled, .confirm, "cancel confirmed on-chain"⟩,
   ⟨.slashed, .filled, .compensation, "slash cancelled: fill_landed"⟩,
   ⟨.slashed, .expired, .compensation, "slash cancelled"⟩]

/-- Look up the rule of an edge. -/
def findRule («from» «to» : IntentState) : Option TransitionRule :=
  TRANSITION_TABLE.find? fun r => r.from == «from» && r.to == «to»

/-- Compensations need an explicit override. -/
def requiresOverride (r : TransitionRule) : Bool := r.kind == .compensation

/-- Is the pair in the table? -/
def legalPair («from» «to» : IntentState) : Bool := (findRule «from» «to»).isSome

/-- Who causes a transition and why. -/
structure TransitionContext where
  actor : String
  reason : Option String := none
  override : Bool := false
deriving Repr, DecidableEq

/-- What the persistence layer must apply. -/
structure TransitionPlan where
  intentId : String
  «from» : IntentState
  «to» : IntentState
  audit : IntentAuditEntry
deriving Repr, DecidableEq

/-- `IllegalTransitionError` -/
structure IllegalTransition where
  intentId : String
  «from» : IntentState
  «to» : IntentState
  detail : String
deriving Repr, DecidableEq

/-- The text of the error. -/
def IllegalTransition.message (e : IllegalTransition) : String :=
  let intentId := e.intentId
  let source := e.from.name
  let target := e.to.name
  let detail := e.detail
  s!"Illegal intent transition for {intentId}: {source} → {target} ({detail})"

/-- Plan the move of an intent in state `from`. -/
def transition (intentId : String) («from» «to» : IntentState) (ctx : TransitionContext) :
    Except IllegalTransition TransitionPlan :=
  match findRule «from» «to» with
  | none => .error ⟨intentId, «from», «to», "no such edge"⟩
  | some found =>
    if requiresOverride found && !ctx.override then
      let kind := found.kind.name
      .error ⟨intentId, «from», «to», s!"{kind} edge requires an override"⟩
    else
      .ok ⟨intentId, «from», «to», ⟨«to», ctx.actor, ctx.reason.getD found.defaultReason⟩⟩

/-! ### What a plan says -/

theorem transition_ok {intentId «from» «to» ctx plan} (h : transition intentId «from» «to» ctx = .ok plan) :
    plan.from = «from» ∧ plan.to = «to» ∧ legalPair «from» «to» = true := by
  unfold transition at h
  split at h
  · cases h
  · rename_i found isRule
    split at h
    · cases h
    · cases h
      exact ⟨rfl, rfl, by rw [legalPair, isRule, Option.isSome_some]⟩

end VortexBackend
