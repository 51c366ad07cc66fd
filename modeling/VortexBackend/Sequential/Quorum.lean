/-
Module: VortexBackend.Sequential.Quorum
Purpose: Subjects that anybody can open and that only a quorum can close.
Main exports: Ballot, closed_by_quorum
-/
import VortexBackend.Sequential.Run
import Mathlib.Data.Finset.Card

namespace VortexBackend

open Component

/-- What an operation was about. -/
inductive QuorumEvent (κ α : Type) where
  | opened (subject : κ)
  | approved (subject : κ) (approver : α) (required : Nat)
  | other
deriving Repr, DecidableEq

/-- The machine's own record. -/
structure Ballot (κ α : Type) where
  active : κ → Bool
  approvers : κ → Finset α

section

variable {κ α : Type} [DecidableEq κ] [DecidableEq α]

/-- Who has approved since a subject was opened last, newest event first. -/
def approvalsSince (k : κ) : List (QuorumEvent κ α) → Finset α
  | [] => ∅
  | .opened k' :: earlier => if k' = k then ∅ else approvalsSince k earlier
  | .approved k' a _ :: earlier => if k' = k then insert a (approvalsSince k earlier) else approvalsSince k earlier
  | .other :: earlier => approvalsSince k earlier

namespace Ballot

/-- What an event may do to the record. -/
inductive Step (b b' : Ballot κ α) : QuorumEvent κ α → Prop where
  | opened (k : κ) (active : ∀ j, b'.active j = if j = k then true else b.active j)
      (approvers : ∀ j, b'.approvers j = if j = k then ∅ else b.approvers j) : Step b b' (.opened k)
  | recorded (k : κ) (a : α) (required : Nat) (active : b'.active = b.active)
      (approvers : ∀ j, b'.approvers j = if j = k then insert a (b.approvers k) else b.approvers j) :
      Step b b' (.approved k a required)
  | closed (k : κ) (a : α) (required : Nat) (quorum : required ≤ (insert a (b.approvers k)).card)
      (active : ∀ j, b'.active j = if j = k then false else b.active j)
      (approvers : ∀ j, b'.approvers j = if j = k then ∅ else b.approvers j) : Step b b' (.approved k a required)
  | ignored (k : κ) (a : α) (required : Nat) (same : b' = b) : Step b b' (.approved k a required)
  | other (same : b' = b) : Step b b' .other

/-- Everybody on record has approved since the subject was opened last. -/
def Backed (b : Ballot κ α) (history : List (QuorumEvent κ α)) : Prop :=
  ∀ k, b.approvers k ⊆ approvalsSince k history

variable {b b' : Ballot κ α} {history : List (QuorumEvent κ α)} {e : QuorumEvent κ α}

theorem Backed.step (backed : Backed b history) (step : Step b b' e) : Backed b' (e :: history) := by
  intro j
  cases step with
  | recorded k a required active approvers =>
    rw [approvers, approvalsSince]
    by_cases same : j = k
    · rw [if_pos same, if_pos same.symm, ← same]
      exact Finset.insert_subset_insert a (backed j)
    · rw [if_neg same, if_neg (Ne.symm same)]
      exact backed j
  | opened k active approvers | closed k a required quorum active approvers =>
    rw [approvers, approvalsSince]
    by_cases same : j = k
    · rw [if_pos same]
      exact Finset.empty_subset _
    · rw [if_neg same, if_neg (Ne.symm same)]
      exact backed j
  | ignored k a required same =>
    rw [same, approvalsSince]
    split
    · exact (backed j).trans (Finset.subset_insert a _)
    · exact backed j
  | other same =>
    rw [same]
    exact backed j

theorem Backed.closes (backed : Backed b history) (step : Step b b' e) {k} (wasOpen : b.active k = true)
    (isClosed : b'.active k = false) :
    ∃ a required, e = .approved k a required ∧ required ≤ (approvalsSince k (e :: history)).card := by
  cases step with
  | opened j active approvers =>
    rw [active, wasOpen] at isClosed
    split at isClosed <;> cases isClosed
  | recorded j a required active approvers =>
    rw [active, wasOpen] at isClosed
    cases isClosed
  | closed j a required quorum active approvers =>
    have isSubject : k = j := by
      by_contra other
      rw [active, if_neg other, wasOpen] at isClosed
      cases isClosed
    subst isSubject
    refine ⟨a, required, rfl, ?_⟩
    rw [approvalsSince, if_pos rfl]
    exact quorum.trans (Finset.card_le_card (Finset.insert_subset_insert a (backed k)))
  | ignored j a required same | other same =>
    rw [same, wasOpen] at isClosed
    cases isClosed

end Ballot

/-- A component that answers with what its operation was about. -/
def Component.observed {State Op Result Event : Type} (step : Component State Op Result)
    (event : Op → Result → Event) : Component State Op Event :=
  fun s op => (event op (step s op).1, (step s op).2)

/-- The events of a run, newest first. -/
def Component.history {State Op Result Event : Type} (step : Component State Op Result)
    (event : Op → Result → Event)
    (s : State) (ops : List Op) : List Event :=
  (run (step.observed event) s ops).1.reverse

theorem Component.run_observed {State Op Result Event : Type} (step : Component State Op Result)
    (event : Op → Result → Event) (ops : List Op) :
    ∀ s, (run (step.observed event) s ops).2 = (run step s ops).2 := by
  induction ops with
  | nil => exact fun _ => rfl
  | cons op ops ih => exact fun s => ih (step s op).2

/-- A component whose every step is a step of the record closes a subject only by a quorum. -/
theorem closed_by_quorum {State Op Result : Type} {step : Component State Op Result}
    {event : Op → Result → QuorumEvent κ α} (record : State → Ballot κ α)
    (one : ∀ s op, Ballot.Step (record s) (record (step s op).2) (event op (step s op).1)) {start : State}
    (nobody : ∀ k, (record start).approvers k = ∅) (ops : List Op) (op : Op) {k : κ}
    (wasOpen : (record (step.run start ops).2).active k = true)
    (isClosed : (record (step (step.run start ops).2 op).2).active k = false) :
    ∃ a required, event op (step (step.run start ops).2 op).1 = .approved k a required ∧
      required ≤ (approvalsSince k
        (event op (step (step.run start ops).2 op).1 :: step.history event start ops)).card := by
  have kept : ∀ (past : List State) (events : List (QuorumEvent κ α)) (s : State) (op : Op),
      (record s).Backed events → True →
      (record (step.observed event s op).2).Backed ((step.observed event s op).1 :: events) :=
    fun _ _ s op backed _ => backed.step (one s op)
  have initially : (record start).Backed [] := by
    intro k
    rw [nobody]
    exact Finset.empty_subset _
  have final := run_invariant (fun events s => (record s).Backed events) kept ops [] [] start initially
    (meets_of_forall ops [] start fun _ _ => trivial)
  rw [List.append_nil, run_observed] at final
  exact final.closes (one _ op) wasOpen isClosed

end

end VortexBackend
