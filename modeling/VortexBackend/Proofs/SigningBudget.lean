/-
Module: VortexBackend.Proofs.SigningBudget
Purpose: No window has more signed calls of a source account than the budget.
Main exports: signing_budget_kept
-/
import VortexBackend.Soroban.SignerPolicy
import VortexBackend.Sequential.SlidingLog
import Mathlib

namespace VortexBackend.SignerPolicy

/-- One call of `evaluatePolicy`. -/
structure PolicyCall where
  txInput : TxInput
  options : EvaluateOptions

/-- When calls for the account were not denied, in a list of calls on one store. -/
def signedAt (policy : PolicyDocument) (source : String) : BudgetStore → List PolicyCall → List Int
  | _, [] => []
  | store, call :: calls =>
    let (decision, store') := evaluatePolicy policy call.txInput call.options store
    let rest := signedAt policy source store' calls
    if (decodeTx call.txInput).source = source ∧ decision.status ≠ .deny then call.options.nowMs :: rest else rest

/-- A timestamp counts for the window, its last millisecond included. -/
def notOlderThan (windowMs : Int) : Freshness Int where
  fresh now t := now - t ≤ windowMs
  timely now t := now = t
  fades {now later t} forward fresh := by
    simp only [decide_eq_true_eq] at fresh ⊢
    omega

theorem notOlderThan_narrow (start windowMs : Int) :
    (notOlderThan windowMs).Narrow fun t => start ≤ t ∧ t ≤ start + windowMs := by
  intro t t' now first second timely
  simp only [notOlderThan, decide_eq_true_eq] at first second timely ⊢
  omega

variable {policy : PolicyDocument} {source : String} {windowMs limit now : Int} {log : List Int} {store : BudgetStore}

/-- A call is denied before the budget, or it is recorded; then it is denied if that is more than the budget. -/
theorem evaluatePolicy_cases (policy : PolicyDocument) (call : PolicyCall) (store : BudgetStore) :
    let result := evaluatePolicy policy call.txInput call.options store
    let recorded := store.record (budgetKey (decodeTx call.txInput).source) call.options.nowMs
      (windowOf policy call.options)
    (result.1.status = .deny ∧ result.2 = store) ∨
      result.2 = recorded.2 ∧ (result.1.status ≠ .deny → recorded.1 ≤ limitOf policy call.options) := by
  unfold evaluatePolicy
  dsimp only
  split
  · exact .inl ⟨rfl, rfl⟩
  split
  · exact .inl ⟨rfl, rfl⟩
  split
  · exact .inl ⟨rfl, rfl⟩
  split
  · exact .inl ⟨rfl, rfl⟩
  split
  · exact .inl ⟨rfl, rfl⟩
  right
  split
  · exact ⟨rfl, fun signed => absurd rfl signed⟩
  rename_i affordable
  split
  · exact ⟨rfl, fun _ => Int.not_lt.mp affordable⟩
  · exact ⟨rfl, fun _ => Int.not_lt.mp affordable⟩

/-- What the bucket of the account knows about the calls that were signed for it. -/
abbrev Budgeted (source : String) (windowMs limit now : Int) (log : List Int) (store : BudgetStore) : Prop :=
  SlidingLog (notOlderThan windowMs) limit.toNat now log (store (budgetKey source))

theorem Budgeted.step {call : PolicyCall} (budgeted : Budgeted source windowMs limit now log store)
    (forward : now ≤ call.options.nowMs) (window : windowOf policy call.options = windowMs)
    (budget : limitOf policy call.options = limit) :
    let result := evaluatePolicy policy call.txInput call.options store
    Budgeted source windowMs limit call.options.nowMs
      (if (decodeTx call.txInput).source = source ∧ result.1.status ≠ .deny then call.options.nowMs :: log else log)
      result.2 := by
  have later := budgeted.wait forward
  have active := later.evict (fun t _ fresh => fresh)
  intro result
  rcases evaluatePolicy_cases policy call store with ⟨denied, same⟩ | ⟨recorded, affordable⟩
  · rw [if_neg fun signed => signed.2 denied]
    exact same ▸ later
  · have kept : result.2 (budgetKey (decodeTx call.txInput).source) =
        (store (budgetKey (decodeTx call.txInput).source)).filter
          (fun timestamp => call.options.nowMs - timestamp ≤ windowMs) ++ [call.options.nowMs] := by
      rw [show result.2 = _ from recorded, window]
      exact Function.update_self ..
    split
    next signed =>
      rw [signed.1] at kept
      rw [Budgeted, kept]
      refine active.grant rfl ?_
      have usage := affordable signed.2
      rw [signed.1, window, budget] at usage
      simp only [BudgetStore.record, List.length_append, List.length_singleton] at usage
      exact Int.lt_toNat.mpr usage
    next =>
      by_cases own : budgetKey (decodeTx call.txInput).source = budgetKey source
      · rw [own] at kept
        rw [Budgeted, kept]
        exact active.keep _
      · rw [Budgeted, show result.2 = _ from recorded]
        simpa only [BudgetStore.record, Function.update_of_ne (Ne.symm own)] using later

theorem Budgeted.run (calls : List PolicyCall) :
    ∀ {now log store}, Budgeted source windowMs limit now log store →
      (∀ call ∈ calls, now ≤ call.options.nowMs) →
      calls.Pairwise (·.options.nowMs ≤ ·.options.nowMs) →
      (∀ call ∈ calls, windowOf policy call.options = windowMs ∧ limitOf policy call.options = limit) →
      ∃ now' store',
        Budgeted source windowMs limit now' ((signedAt policy source store calls).reverse ++ log) store' := by
  induction calls with
  | nil => exact fun budgeted _ _ _ => ⟨_, _, budgeted⟩
  | cons call calls ih =>
    intro now log store budgeted forward ordered uniform
    obtain ⟨first, rest⟩ := List.pairwise_cons.mp ordered
    obtain ⟨window, budget⟩ := uniform call (.head _)
    have next := budgeted.step (forward call (.head _)) window budget
    obtain ⟨now', store', final⟩ := ih next first rest fun call' member => uniform call' (.tail _ member)
    refine ⟨now', store', ?_⟩
    simp only [signedAt]
    split
    next signed => simpa only [if_pos signed, List.reverse_cons, List.append_assoc, List.singleton_append] using final
    next unsigned => simpa only [if_neg unsigned] using final

/-- In every list of calls on one store whose times do not go back, all under one budget, the calls for an account that
    are not denied in a closed interval of the length of the window are at most the budget. -/
theorem signing_budget_kept (policy : PolicyDocument) (options : EvaluateOptions) {calls : List PolicyCall}
    (ordered : calls.Pairwise (·.options.nowMs ≤ ·.options.nowMs))
    (uniform : ∀ call ∈ calls, windowOf policy call.options = windowOf policy options ∧
      limitOf policy call.options = limitOf policy options) (store : BudgetStore) (source : String) (start : Int) :
    ((signedAt policy source store calls).countP fun t => start ≤ t ∧ t ≤ start + windowOf policy options) ≤
      limitOf policy options := by
  have nonneg : 0 ≤ limitOf policy options := le_max_left ..
  cases calls with
  | nil => exact nonneg
  | cons call calls =>
    have forward : ∀ call' ∈ call :: calls, call.options.nowMs ≤ call'.options.nowMs :=
      List.forall_mem_cons.mpr ⟨le_rfl, (List.pairwise_cons.mp ordered).1⟩
    have fresh :
      Budgeted source (windowOf policy options) (limitOf policy options) call.options.nowMs [] store := .empty
    obtain ⟨_, _, budgeted⟩ := fresh.run _ forward ordered uniform
    have bounded := budgeted.bounded _ (notOlderThan_narrow start _)
    rw [List.append_nil, List.countP_reverse] at bounded
    exact (Int.le_toNat nonneg).mp bounded

/-- With a budget of two, the third call in a second is denied. -/
theorem signing_budget_kept_two :
    ∃ (policy : PolicyDocument) (calls : List PolicyCall), signedAt policy "G1" (fun _ => []) calls = [0, 10] ∧
      ((signedAt policy "G1" (fun _ => []) calls).countP fun t =>
        (0 : Int) ≤ t ∧ t ≤ 0 + 1000) ≤ (2 : Int) := by
  let policy : PolicyDocument := { defaultAction := some .allow, windowMs := some 1000, maxAuthEntries := some 2 }
  let call (nowMs : Int) : PolicyCall := ⟨.decoded ⟨"G1", 100, 0, [], []⟩, { nowMs }⟩
  have ordered : [call 0, call 10, call 20].Pairwise (·.options.nowMs ≤ ·.options.nowMs) := by decide
  have kept := signing_budget_kept policy { nowMs := 0 } ordered (fun _ _ => ⟨rfl, rfl⟩) (fun _ => []) "G1" 0
  have window : windowOf policy { nowMs := 0 } = 1000 := by decide
  have budget : limitOf policy { nowMs := 0 } = 2 := by decide
  rw [window, budget] at kept
  exact ⟨policy, _, by decide +kernel, kept⟩

end VortexBackend.SignerPolicy
