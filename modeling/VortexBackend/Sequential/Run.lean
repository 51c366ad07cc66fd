/-
Module: VortexBackend.Sequential.Run
Purpose: A component that takes one operation at a time: what one keeps, every list of them keeps.
Main exports: Component.run, Component.run_invariant
-/
import Mathlib.Data.List.Basic

namespace VortexBackend

/-- What a component does with one operation: a result and the next state. -/
abbrev Component (State Op Result : Type) := State → Op → Result × State

namespace Component

variable {State State' Op Result Result' : Type}

/-- The operations of a list, one after another: their results in order, and the state they lead to. -/
def run (step : Component State Op Result) : State → List Op → List Result × State
  | s, [] => ([], s)
  | s, op :: ops => ((step s op).1 :: (run step (step s op).2 ops).1, (run step (step s op).2 ops).2)

/-- The states that a run goes through, from the first to the last. -/
def states (step : Component State Op Result) : State → List Op → List State
  | s, [] => [s]
  | s, op :: ops => s :: states step (step s op).2 ops

/-- Every operation of a run meets the condition on the states so far, the newest first. -/
def Meets (step : Component State Op Result) (condition : List State → State → Op → Prop) :
    List State → State → List Op → Prop
  | _, _, [] => True
  | past, s, op :: ops =>
    condition past s op ∧ Meets step condition (s :: past) (step s op).2 ops

instance decidableMeets {step : Component State Op Result} {condition : List State → State → Op → Prop}
    [∀ past s op, Decidable (condition past s op)] : ∀ past s ops, Decidable (Meets step condition past s ops)
  | _, _, [] => inferInstanceAs (Decidable True)
  | past, s, op :: ops =>
    have : Decidable (Meets step condition (s :: past) (step s op).2 ops) := decidableMeets _ _ ops
    inferInstanceAs (Decidable (condition past s op ∧ Meets step condition (s :: past) (step s op).2 ops))

variable {step : Component State Op Result} {condition : List State → State → Op → Prop}
  {step' : Component State' Op Result'}

/-- Two components that agree on every operation of a run, as far as the first one meets a condition, agree on
    the run. -/
theorem run_simulates {γ : Type} (related : State → State' → Prop) (view : Result → γ) (view' : Result' → γ)
    (one : ∀ past s s' op, related s s' → condition past s op →
      view (step s op).1 = view' (step' s' op).1 ∧ related (step s op).2 (step' s' op).2) (ops : List Op) :
    ∀ past s s', related s s' → Meets step condition past s ops →
      (run step s ops).1.map view = (run step' s' ops).1.map view' ∧
        related (run step s ops).2 (run step' s' ops).2 := by
  induction ops with
  | nil =>
    intro _ s s' start _
    exact ⟨rfl, start⟩
  | cons op ops ih =>
    intro past s s' start meets
    obtain ⟨sameResult, next⟩ := one past s s' op start meets.1
    obtain ⟨sameResults, final⟩ := ih (s :: past) _ _ next meets.2
    exact ⟨by simp only [run, List.map_cons, sameResult, sameResults], final⟩

/-- A condition on the operations alone is met by a run of operations that all satisfy it. -/
theorem meets_of_forall {allowed : Op → Prop} (ops : List Op) :
    ∀ past s, (∀ op ∈ ops, allowed op) → Meets step (fun _ _ op => allowed op) past s ops := by
  induction ops with
  | nil => exact fun _ _ _ => trivial
  | cons op ops ih =>
    intro past s all
    exact ⟨all op (.head _), ih (s :: past) _ fun op' member => all op' (.tail _ member)⟩

theorem run_agree {γ : Type} (related : State → State' → Prop) (view : Result → γ) (view' : Result' → γ)
    (allowed : Op → Prop) (one : ∀ s s' op, related s s' → allowed op →
      view (step s op).1 = view' (step' s' op).1 ∧ related (step s op).2 (step' s' op).2) (ops : List Op) (s : State)
    (s' : State') (start : related s s') (all : ∀ op ∈ ops, allowed op) :
    (run step s ops).1.map view = (run step' s' ops).1.map view' ∧ related (run step s ops).2 (run step' s' ops).2 :=
  run_simulates related view view' (fun _ => one) ops [] s s' start (meets_of_forall ops [] s all)

/-- What every operation preserves holds at the end of a run, of its results and its last state. -/
theorem run_invariant (I : List Result → State → Prop)
    (one : ∀ past results s op, I results s → condition past s op → I ((step s op).1 :: results) (step s op).2)
    (ops : List Op) :
    ∀ past results s, I results s → Meets step condition past s ops →
      I ((run step s ops).1.reverse ++ results) (run step s ops).2 := by
  induction ops with
  | nil => exact fun _ _ _ start _ => start
  | cons op ops ih =>
    intro past results s start meets
    have next := one past results s op start meets.1
    have final := ih (s :: past) _ _ next meets.2
    simpa only [run, List.reverse_cons, List.append_assoc, List.singleton_append] using final

theorem states_invariant (I : State → Prop) (one : ∀ past s op, I s → condition past s op → I (step s op).2)
    (ops : List Op) : ∀ past s, I s → Meets step condition past s ops → ∀ s' ∈ states step s ops, I s' := by
  induction ops with
  | nil =>
    intro past s start _ s' reached
    rw [states, List.mem_singleton] at reached
    exact reached ▸ start
  | cons op ops ih =>
    intro past s start meets s' reached
    rcases List.mem_cons.mp reached with rfl | rest
    · exact start
    · exact ih (s :: past) _ (one past s op start meets.1) meets.2 s' rest

end Component

end VortexBackend
