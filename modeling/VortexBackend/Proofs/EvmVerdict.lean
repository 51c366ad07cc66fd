/-
Module: VortexBackend.Proofs.EvmVerdict
Purpose: The first live log decides, so that a log in front of the deposit hides it.
Main exports: deposit_verified_iff
-/
import VortexBackend.Chains.EvmDepositVerifier

namespace VortexBackend.EvmDepositVerifier

/-- The block meets the confirmation policy, as far as the node answers. -/
def Confirmed (client : EvmClient) (blockNumber : Nat) : ConfirmationPolicy → Prop
  | .safe => ∃ safe, client.safeBlock = .ok (some safe) ∧ blockNumber ≤ safe
  | .depth blocks => ∃ head, client.latestBlock = .ok head ∧ blockNumber ≤ head ∧
      blocks ≤ head - blockNumber + 1

/-- A live log of the intent's token and user, with enough of the token, in a confirmed block. -/
structure Qualifies (evm : EvmSettings) (client : EvmClient) (intent : Intent) (log : DepositedLog) : Prop where
  present : log.removed = false
  mined : ∃ blockNumber blockHash policy, log.blockNumber = some blockNumber ∧ log.blockHash = some blockHash ∧
    CONFIRMATION_POLICIES intent.srcChain = some policy ∧ Confirmed client blockNumber policy
  token : log.token.toLower = intent.srcToken.address.toLower
  user : log.user.toLower = intent.user.toLower
  amount : ∃ srcAmount, BigInt.parse intent.srcAmount = some srcAmount ∧
    minimumReceived srcAmount evm.transferFeeToleranceBps ≤ log.amount

/-- No log of the list meets the conditions, or the first live one does. -/
def FirstQualifies (evm : EvmSettings) (client : EvmClient) (intent : Intent) (logs : List DepositedLog) : Prop :=
  (∀ log ∈ logs, ¬ Qualifies evm client intent log) ∨
    ∃ first, logs.find? live = some first ∧ Qualifies evm client intent first

variable {evm : EvmSettings} {client : EvmClient} {intent : Intent} {log : DepositedLog} {policy : ConfirmationPolicy}
  {blockNumber : Nat}

section

variable (listed : CONFIRMATION_POLICIES intent.srcChain = some policy)
include listed

theorem confirmation_ok_iff :
    (∃ detail, confirmation client blockNumber policy = .ok (true, detail)) ↔
      Confirmed client blockNumber policy := by
  cases policy with
  | safe =>
    simp only [confirmation, Confirmed]
    cases client.safeBlock with
    | error message => simp [bind, Except.bind]
    | ok safe => cases safe <;> simp [bind, Except.bind, pure, Except.pure]
  | depth blocks =>
    -- every depth of the table is positive, so a block above the head is never deep enough
    have deep : 0 < blocks := by
      cases chain : intent.srcChain <;> rw [chain] at listed <;> cases listed <;> decide
    simp only [confirmation, Confirmed]
    cases client.latestBlock with
    | error message => simp [bind, Except.bind]
    | ok head =>
      by_cases below : blockNumber ≤ head
      · simp [bind, Except.bind, pure, Except.pure, below]
      · have shallow : ¬ blocks ≤ 0 := by omega
        simp [bind, Except.bind, pure, Except.pure, below, shallow]

theorem judge_verified_iff {blockHash} :
    (∃ check, judge evm client policy intent log blockNumber blockHash = .ok check ∧ check.status = .verified) ↔
      log.token.toLower = intent.srcToken.address.toLower ∧ log.user.toLower = intent.user.toLower ∧
      (∃ srcAmount, BigInt.parse intent.srcAmount = some srcAmount ∧
        minimumReceived srcAmount evm.transferFeeToleranceBps ≤ log.amount) ∧
          Confirmed client blockNumber policy := by
  rw [← confirmation_ok_iff listed]
  unfold judge
  by_cases token : log.token.toLower = intent.srcToken.address.toLower
  · by_cases user : log.user.toLower = intent.user.toLower
    · cases BigInt.parse intent.srcAmount with
      | none => simp [sameAddress, token, user, throw, throwThe, MonadExceptOf.throw]
      | some srcAmount =>
        by_cases enough : minimumReceived srcAmount evm.transferFeeToleranceBps ≤ log.amount
        · have notLess := Int.not_lt.mpr enough
          cases confirmation client blockNumber policy with
          | error message => simp [sameAddress, token, user, notLess, bind, Except.bind]
          | ok answer =>
            obtain ⟨ok, detail⟩ := answer
            cases ok <;> simp [sameAddress, token, user, enough, notLess, bind, Except.bind, pure, Except.pure]
        · simp [sameAddress, token, user, Int.not_le.mp enough, pure, Except.pure]
    · simp [sameAddress, token, user, pure, Except.pure]
  · simp [sameAddress, token, pure, Except.pure]

omit listed in
theorem live_iff : live log = true ↔ log.removed = false ∧ ∃ blockNumber blockHash,
    log.blockNumber = some blockNumber ∧ log.blockHash = some blockHash := by
  simp [live, Option.isSome_iff_exists, and_assoc]

theorem verify_verified_iff {address logs} (isEscrow : escrow evm intent.srcChain = some address)
    (isClient : EvmDepositVerifier.client evm intent.srcChain = some client)
    (returned : fetchLogs evm client address intent = .ok (.inr logs)) :
    (∃ check, verify evm intent = .ok check ∧ check.status = .verified) ↔
      ∃ log, logs.find? live = some log ∧ Qualifies evm client intent log := by
  have verified : verify evm intent = checkLogs evm client policy intent logs := by
    simp only [verify, listed, isEscrow, isClient, returned, bind, Except.bind]
  rw [verified, checkLogs]
  cases found : logs.find? live with
  | none =>
    simp only [missing]
    cases intent.srcVerification.bind (·.blockHash) <;> simp [pure, Except.pure]
  | some log =>
    obtain ⟨present, blockNumber, blockHash, isNumber, isHash⟩ := live_iff.mp (List.find?_some found)
    simp only [isNumber, isHash, Option.getD_some, judge_verified_iff listed, Option.some.injEq, exists_eq_left']
    constructor
    · rintro ⟨token, user, amount, confirmed⟩
      exact ⟨present, ⟨blockNumber, blockHash, policy, isNumber, isHash, listed, confirmed⟩,
        token, user, amount⟩
    · rintro ⟨_, ⟨n, _, other, isN, _, isOther, confirmed⟩, token, user, amount⟩
      cases isN.symm.trans isNumber
      cases isOther.symm.trans listed
      exact ⟨token, user, amount, confirmed⟩

end

/-- The intent is verified exactly when some log meets the conditions, if and only if none does or the first live one
    does. -/
theorem deposit_verified_iff {address : String} {logs : List DepositedLog} (isEvm : intent.srcChain ≠ .stellar)
    (isEscrow : escrow evm intent.srcChain = some address)
    (isClient : EvmDepositVerifier.client evm intent.srcChain = some client)
    (returned : fetchLogs evm client address intent = .ok (.inr logs)) :
    ((∃ check, verify evm intent = .ok check ∧ check.status = .verified) ↔
        ∃ log ∈ logs, Qualifies evm client intent log) ↔
      FirstQualifies evm client intent logs := by
  obtain ⟨policy, listed⟩ : ∃ policy, CONFIRMATION_POLICIES intent.srcChain = some policy := by
    cases chain : intent.srcChain with
    | stellar => exact absurd chain isEvm
    | _ => exact ⟨_, rfl⟩
  rw [verify_verified_iff listed isEscrow isClient returned]
  constructor
  · intro right
    by_cases some : ∃ log ∈ logs, Qualifies evm client intent log
    · exact .inr (right.mpr some)
    · exact .inl fun log member qualifies => some ⟨log, member, qualifies⟩
  · intro decides
    constructor
    · rintro ⟨log, found, qualifies⟩
      exact ⟨log, List.mem_of_find?_eq_some found, qualifies⟩
    · rintro ⟨log, member, qualifies⟩
      rcases decides with none | first
      · exact absurd qualifies (none log member)
      · exact first

/-! ### A deposit alone, and one behind another log -/

/-- The user's deposit, twelve blocks deep. -/
def deposit : DepositedLog :=
  { intentId := "t", token := "0xA", amount := 1000, user := "U", blockNumber := some 89, blockHash := some "h" }

/-- A deposit of one unit that anyone can make for the intent. -/
def dust : DepositedLog := { deposit with amount := 1, blockNumber := some 80 }

def depositor : Intent :=
  { intentId := "i", user := "U", srcChain := .ethereum, srcToken := ⟨"0xa", "A", 6⟩, srcAmount := "1000"
    dstToken := ⟨"c", "C", 7⟩, minDstAmount := "1", createdAt := 0, deadline := 10 }

variable (logs : List DepositedLog)

/-- A node that returns the logs. -/
def answering : EvmClient where
  getTransactionReceipt _ := .ok none
  getBlockNumber := .ok 100
  getLogs _ _ _ _ := .ok logs
  safeBlock := .ok none
  latestBlock := .ok 100

def ethereumOnly : EvmSettings where
  escrowAddresses _ := some "0xE"
  rpcUrls _ := some "url"
  logLookbackBlocks := 50
  transferFeeToleranceBps := 0
  clientFactory _ _ := answering logs
  intentIdToBytes32 _ := "t"

theorem deposit_qualifies : Qualifies (ethereumOnly logs) (answering logs) depositor deposit where
  present := rfl
  mined := ⟨89, "h", .depth 12, rfl, rfl, rfl, 100, rfl, by decide, by decide⟩
  token := by decide +kernel
  user := rfl
  amount := ⟨1000, by decide +kernel, show minimumReceived 1000 0 ≤ 1000 by decide +kernel⟩

/-- One unit deposited behind the user's deposit changes nothing. -/
theorem deposit_before_dust_verified :
    ((∃ check, verify (ethereumOnly [deposit, dust]) depositor = .ok check ∧ check.status = .verified) ↔
        ∃ log ∈ [deposit, dust],
          Qualifies (ethereumOnly [deposit, dust]) (answering [deposit, dust]) depositor log) ∧
      ∃ log ∈ [deposit, dust], Qualifies (ethereumOnly [deposit, dust]) (answering [deposit, dust]) depositor log :=
  ⟨(deposit_verified_iff (by decide) rfl rfl rfl).mpr (.inr ⟨deposit, rfl, deposit_qualifies _⟩),
    deposit, .head _, deposit_qualifies _⟩

/-- One unit deposited in front of the user's deposit is the log that is compared. -/
theorem dust_log_hides_deposit :
    (verify (ethereumOnly [dust, deposit]) depositor).toOption.map (·.status) = some .mismatch ∧
      Qualifies (ethereumOnly [dust, deposit]) (answering [dust, deposit]) depositor deposit :=
  ⟨by decide +kernel, deposit_qualifies _⟩

end VortexBackend.EvmDepositVerifier
