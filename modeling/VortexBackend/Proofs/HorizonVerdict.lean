/-
Module: VortexBackend.Proofs.HorizonVerdict
Purpose: The first payment that matches decides, so a small one in front of a large one gets a fill rejected.
Main exports: first_payment_decides
-/
import VortexBackend.Proofs.BackendSteps
import VortexBackend.Soroban.FillVerifier

namespace VortexBackend

open FillVerifier BigInt Decimal

/-- A payment or path payment to the user of the intent, in its destination asset and of a decimal amount, that does
    not name another sender than the solver. -/
structure FillPayment (contractId : StellarAsset → Option String) (intent : Intent) (operation : HorizonOperation)
    (raw : String) : Prop where
  type : operation.type ∈ PAYMENT_TYPES
  sender : ∀ source, operation.sourceAccount = some source → source ≠ "" → intent.solver = some source
  receiver : operation.to.getD "" = intent.user
  asset : contractId operation.asset = some intent.dstToken.contract
  amount : operation.delivered = some raw
  decimal : isDecimal raw.toList = true

/-- The first of the operations that is one. -/
structure FirstPayment (contractId : StellarAsset → Option String) (intent : Intent)
    (operations : List HorizonOperation) (operation : HorizonOperation) (raw : String) : Prop where
  payment : FillPayment contractId intent operation raw
  first : ∃ before after, operations = before ++ operation :: after ∧
    ∀ other ∈ before, ∀ amount, ¬ FillPayment contractId intent other amount

/-- The amount of a payment is not more precise than the token. -/
def Precise (intent : Intent) (raw : String) : Prop :=
  (fraction raw.toList).length ≤ intent.dstToken.decimals

/-- A successful transaction that carries the id of the intent as a text memo, as Horizon lists it. -/
structure Confirms (transaction : HorizonTransaction) (intent : Intent) : Prop where
  successful : transaction.successful = some true
  memoType : transaction.memoType = some "text"
  memo : transaction.memo = some intent.intentId
  listed : ∃ href, transaction.operationsHref = some href ∧ href ≠ ""

/-! ### The checks on one operation -/

variable {delivered name : String}

section

variable {contractId : StellarAsset → Option String} {intent : Intent} {operation : HorizonOperation} {raw : String}

theorem other_sender_iff :
    (operation.sourceAccount.any fun source => !source.isEmpty && some source != intent.solver) = false ↔
      ∀ source, operation.sourceAccount = some source → source ≠ "" → intent.solver = some source := by
  cases operation.sourceAccount with
  | none => simp
  | some source =>
    by_cases empty : source = ""
    · simp [empty]
    · have named : source.isEmpty = false := by simpa using empty
      rw [Option.any_some, named, Bool.not_false, Bool.true_and, bne_eq_false_iff_eq, eq_comm]
      exact ⟨fun same _ isSource _ => isSource ▸ same, fun same => same source rfl empty⟩

theorem matchingPayment_eq_some :
    matchingPayment contractId intent operation = some raw ↔ FillPayment contractId intent operation raw := by
  unfold matchingPayment
  constructor
  · intro h
    obtain ⟨type, h⟩ := Option.ite_none_left_eq_some.mp h
    obtain ⟨sender, h⟩ := Option.ite_none_left_eq_some.mp h
    split at h
    · cases h
    · rename_i asset isAsset
      obtain ⟨receiver, h⟩ := Option.ite_none_left_eq_some.mp h
      obtain ⟨sameAsset, h⟩ := Option.ite_none_left_eq_some.mp h
      obtain ⟨amount, decimal⟩ := Option.filter_eq_some_iff.mp h
      exact ⟨not_not.mp type, other_sender_iff.mp (Bool.eq_false_iff.mpr sender), not_not.mp receiver,
        isAsset.trans (congrArg some (not_not.mp sameAsset)), amount, decimal⟩
  · intro payment
    have sender := other_sender_iff.mpr payment.sender
    simp [payment.type, sender, payment.asset, payment.receiver, payment.amount, Option.filter, payment.decimal]

/-- The amount in base units is the number that the text denotes, scaled by the decimals of the token. -/
theorem decimalToBaseUnits_eq {value decimals} (decimal : isDecimal value.toList = true)
    (fits : (fraction value.toList).length ≤ decimals) :
    ∃ n : Nat, decimalToBaseUnits value decimals = some (toText n) ∧
      (n : Rat) = Decimal.value value.toList * 10 ^ decimals := by
  refine ⟨_, ?_, (value_mul_pow fits).symm⟩
  obtain ⟨wholeNonempty, wholeDigits⟩ := digits_iff.mp (whole_digits decimal)
  have rest : parse (if (padded value.toList decimals).isEmpty then "0"
      else String.ofList (padded value.toList decimals)) =
        some (Nat.ofDigitChars 10 (padded value.toList decimals) 0 : Int) := by
    split
    · rename_i nothing
      rw [List.isEmpty_iff.mp nothing]
      decide
    · rename_i something
      exact parse_digits (fun nothing => something (List.isEmpty_iff.mpr nothing))
        (padded_digits decimal fits)
  rw [decimalToBaseUnits, if_neg (Nat.not_lt.mpr fits), parse_digits wholeNonempty wholeDigits]
  simp only [rest, Option.bind_eq_bind, Option.bind_some, Nat.cast_add, Nat.cast_mul, Nat.cast_pow, Nat.cast_ofNat]

theorem creditPayment_verified_iff (decimal : isDecimal raw.toList = true) (precise : Precise intent raw) :
    creditPayment intent operation raw = some (.verified delivered name) ↔
      ∃ (n : Nat) (minimum : Int), (n : Rat) = Decimal.value raw.toList * 10 ^ intent.dstToken.decimals ∧
        parse intent.minDstAmount = some minimum ∧ minimum ≤ n ∧
        delivered = toText n ∧ name = operation.type := by
  obtain ⟨n, isUnits, isValue⟩ := decimalToBaseUnits_eq decimal precise
  unfold creditPayment
  rw [isUnits, Option.bind_eq_bind, Option.bind_some, parse_toText, Option.bind_eq_bind, Option.bind_some]
  cases parse intent.minDstAmount with
  | none => simp
  | some minimum =>
    constructor
    · intro h
      simp only [Option.bind_some] at h
      split at h
      · cases h
      · rename_i enough
        cases h
        exact ⟨n, minimum, isValue, rfl, Int.not_lt.mp enough, rfl, rfl⟩
    · rintro ⟨m, _, sameValue, ⟨rfl⟩, enough, rfl, rfl⟩
      have same : m = n := by exact_mod_cast sameValue.trans isValue.symm
      subst same
      simp [Int.not_lt.mpr enough]

end

/-! ### The scan -/

section

variable {contractId : StellarAsset → Option String} {intent : Intent}

theorem not_firstPayment_nil {operation raw} : ¬ FirstPayment contractId intent [] operation raw := by
  rintro ⟨_, before, after, split, _⟩
  simp at split

variable {head operation : HorizonOperation} {rest : List HorizonOperation}

theorem firstPayment_skip {raw} (skipped : ∀ amount, ¬ FillPayment contractId intent head amount) :
    FirstPayment contractId intent (head :: rest) operation raw ↔
      FirstPayment contractId intent rest operation raw := by
  constructor
  · rintro ⟨payment, before, after, split, none⟩
    cases before with
    | nil =>
      cases split
      exact absurd payment (skipped raw)
    | cons first before =>
      cases split
      exact ⟨payment, before, after, rfl, fun other member => none other (.tail _ member)⟩
  · rintro ⟨payment, before, after, rfl, none⟩
    exact ⟨payment, head :: before, after, rfl, List.forall_mem_cons.mpr ⟨skipped, none⟩⟩

theorem firstPayment_head {amount raw} (isPayment : FillPayment contractId intent head amount) :
    FirstPayment contractId intent (head :: rest) operation raw ↔ operation = head ∧ raw = amount := by
  constructor
  · rintro ⟨payment, before, after, split, none⟩
    cases before with
    | nil =>
      cases split
      exact ⟨rfl, Option.some.inj (payment.amount.symm.trans isPayment.amount)⟩
    | cons first before =>
      cases split
      exact absurd isPayment (none head (.head _) amount)
  · rintro ⟨rfl, rfl⟩
    exact ⟨isPayment, [], rest, rfl, nofun⟩

theorem checkOperations_verified_iff {operations} :
    checkOperations contractId intent operations = some (.verified delivered name) ↔
      ∃ operation raw, FirstPayment contractId intent operations operation raw ∧
        creditPayment intent operation raw = some (.verified delivered name) := by
  induction operations with
  | nil => simp [checkOperations, not_firstPayment_nil]
  | cons head rest ih =>
    rw [checkOperations]
    cases isMatch : matchingPayment contractId intent head with
    | none =>
      have skipped : ∀ amount, ¬ FillPayment contractId intent head amount := by
        intro amount isPayment
        rw [matchingPayment_eq_some.mpr isPayment] at isMatch
        cases isMatch
      simp only [ih, firstPayment_skip skipped]
    | some amount =>
      simp only [firstPayment_head (matchingPayment_eq_some.mp isMatch)]
      constructor
      · exact fun h => ⟨head, amount, ⟨rfl, rfl⟩, h⟩
      · rintro ⟨_, _, ⟨rfl, rfl⟩, h⟩
        exact h

theorem verify_confirmed {fetched listed transaction records} (answered : fetched.success = some transaction)
    (confirms : Confirms transaction intent) (operations : listed.success = some records) :
    verify contractId (some fetched) (some listed) intent =
      (checkOperations contractId intent (records.getD [])).getD (.pending "horizon_unavailable") := by
  obtain ⟨href, isHref, nonempty⟩ := confirms.listed
  have notMissing : fetched.statusCode ≠ 404 := by
    intro missing
    rw [HorizonResponse.success, missing] at answered
    simp at answered
  simp [verify, notMissing, answered, confirms.successful, confirms.memoType, confirms.memo, isHref, nonempty,
    operations]

end

/-- A transaction of the intent is verified exactly when its first matching payment delivers at least the minimum, and
    what is credited is the amount of that payment in base units. A payment whose amount is more precise than the token
    is left out. -/
theorem first_payment_decides (contractId : StellarAsset → Option String) (intent : Intent)
    (fetched : HorizonResponse HorizonTransaction) (listed : HorizonResponse (Option (List HorizonOperation)))
    (transaction : HorizonTransaction) (operations : List HorizonOperation)
    (answered : fetched.success = some transaction) (confirms : Confirms transaction intent)
    (lists : listed.success = some (some operations))
    (precise : ∀ operation raw, FirstPayment contractId intent operations operation raw → Precise intent raw)
    (delivered name : String) :
    verify contractId (some fetched) (some listed) intent = .verified delivered name ↔
      ∃ (operation : HorizonOperation) (raw : String) (n : Nat) (minimum : Int),
        FirstPayment contractId intent operations operation raw ∧
        (n : Rat) = Decimal.value raw.toList * 10 ^ intent.dstToken.decimals ∧
        parse intent.minDstAmount = some minimum ∧ minimum ≤ n ∧
        delivered = toText n ∧ name = operation.type := by
  have verdict : verify contractId (some fetched) (some listed) intent = .verified delivered name ↔
      checkOperations contractId intent operations = some (.verified delivered name) := by
    rw [verify_confirmed answered confirms lists, Option.getD_some]
    cases checkOperations contractId intent operations <;> simp
  rw [verdict, checkOperations_verified_iff]
  constructor
  · rintro ⟨operation, raw, first, credited⟩
    obtain ⟨n, minimum, units⟩ :=
      (creditPayment_verified_iff first.payment.decimal (precise operation raw first)).mp credited
    exact ⟨operation, raw, n, minimum, first, units⟩
  · rintro ⟨operation, raw, n, minimum, first, units⟩
    exact ⟨operation, raw, first,
      (creditPayment_verified_iff first.payment.decimal (precise operation raw first)).mpr ⟨n, minimum, units⟩⟩

/-! ### Two payments in one transaction -/

/-- A payment of native coins from the solver to the user. -/
private def nativePayment (amount : String) : HorizonOperation where
  type := "payment"
  sourceAccount := some "S"
  «to» := some "U"
  assetType := some "native"
  amount := some amount

private def nativeContract : StellarAsset → Option String
  | .native => some "D"
  | .issued .. => none

private def acceptedOrder : Intent := { sampleIntent with state := .accepted, solver := some "S" }

private def fillTransaction : HorizonTransaction where
  successful := some true
  memoType := some "text"
  memo := some "I"
  operationsHref := some "/operations"

theorem nativePayment_fills {amount} (decimal : isDecimal amount.toList = true) :
    FillPayment nativeContract acceptedOrder (nativePayment amount) amount where
  type := List.mem_cons_self
  sender := by
    intro source isSource _
    exact isSource
  receiver := rfl
  asset := rfl
  amount := if_neg (by decide : ¬ "path_payment_".toList.isPrefixOf "payment".toList = true)
  decimal := decimal

/-- A single payment of 100 base units against a minimum of 90. -/
theorem sufficient_payment_verified :
    verify nativeContract (some ⟨200, some fillTransaction⟩) (some ⟨200, some (some [nativePayment "0.00001"])⟩)
      acceptedOrder = .verified "100" "payment" := by
  have isPayment := @nativePayment_fills "0.00001" (by decide)
  have first : FirstPayment nativeContract acceptedOrder [nativePayment "0.00001"] (nativePayment "0.00001")
      "0.00001" := (firstPayment_head isPayment).mpr ⟨rfl, rfl⟩
  refine (first_payment_decides nativeContract acceptedOrder _ _ fillTransaction _ rfl
    ⟨rfl, rfl, rfl, "/operations", rfl, by decide⟩ rfl ?_ _ _).mpr
    ⟨_, _, 100, 90, first, ?_, by decide, by decide, by decide, rfl⟩
  · intro operation raw isFirst
    obtain ⟨-, rfl⟩ := (firstPayment_head isPayment).mp isFirst
    unfold Precise
    decide
  · decide +kernel

/-- 50 base units come before 100, so the transaction is rejected although its second payment covers the minimum. -/
theorem small_payment_first :
    verify nativeContract (some ⟨200, some fillTransaction⟩)
        (some ⟨200, some (some [nativePayment "0.000005", nativePayment "0.00001"])⟩) acceptedOrder =
        .rejected "insufficient_delivered_amount" ∧
      FillPayment nativeContract acceptedOrder (nativePayment "0.00001") "0.00001" ∧
      decimalToBaseUnits "0.00001" acceptedOrder.dstToken.decimals = some "100" ∧
      acceptedOrder.minDstAmount = "90" :=
  ⟨by decide, nativePayment_fills (by decide), by decide, rfl⟩

end VortexBackend
