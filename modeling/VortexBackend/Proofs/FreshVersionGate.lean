/-
Module: VortexBackend.Proofs.FreshVersionGate
Purpose: How old the version is that `assertWritable` lets through, if no refresh is in flight.
Main exports: assertWritable_fresh
-/
import VortexBackend.Soroban.ContractVersion

namespace VortexBackend

open Component

namespace ContractVersions

/-- A call of `assertWritable` finds no refresh of the contract in flight, or a newest read that is young enough. -/
def CalledFresh (s : ContractVersions) : VersionOp → Prop
  | .assertWritable contract =>
    (s.tracked contract).inFlight = none ∨
      ∃ read ∈ (s.tracked contract).reads.head?, s.now ≤ read.startedAt + CONTRACT_VERSION_MAX_AGE_MS
  | _ => True

instance {s : ContractVersions} : (op : VersionOp) → Decidable (CalledFresh s op)
  | .assertWritable contract => inferInstanceAs (Decidable ((s.tracked contract).inFlight = none ∨
      ∃ read ∈ (s.tracked contract).reads.head?, s.now ≤ read.startedAt + CONTRACT_VERSION_MAX_AGE_MS))
  | .tick _ | .refreshAll | .refresh _ | .recordUpgradeEvent _ | .answer _ _ | .settle _ =>
    inferInstanceAs (Decidable True)

/-- What the maps have for a contract, against its reads. -/
structure Checked (now : Nat) (t : Tracked) : Prop where
  /-- a supported version is the answer of the newest read -/
  known : t.state.status = .supported →
    ∃ read, t.reads.head? = some read ∧ t.state.wasmHash.map Except.ok = some read.wasmHash
  /-- the newest read was noted when it started, and perhaps a later one was -/
  noted : ∀ read, t.reads.head? = some read → ∃ time, t.checkedAtMs = some time ∧ read.startedAt ≤ time
  /-- unless a refresh is reading, the time is that of the newest read -/
  settled : (∀ r, t.inFlight = some r → r.result.isSome) → t.state.status = .supported →
    ∀ read, t.reads.head? = some read → t.checkedAtMs = some read.startedAt
  /-- a refresh in flight was noted when it started, its result is the state, and no write check joined it -/
  flight : ∀ r, t.inFlight = some r → t.checkedAtMs = some r.startedAt ∧
    (∀ state, r.result = some state → state = t.state) ∧
    ∀ calledAt, .assertWritable calledAt ∈ r.callers → calledAt = r.startedAt
  past : ∀ time, t.checkedAtMs = some time → time ≤ now

variable {state : ContractVersionState} {r : Refresh}

section Tracked

variable {config : VersionConfig} {now : Nat} {contract : ContractName} {t : Tracked} {caller : RefreshCaller}

theorem Checked.tick (checked : Checked now t) (ms : Nat) : Checked (now + ms) t :=
  { checked with past := fun time noted => Nat.le_add_right_of_le (checked.past time noted) }

theorem Checked.startRefresh (checked : Checked now t)
    (onTime : ∀ calledAt, caller = .assertWritable calledAt → calledAt = now) :
    Checked now (startRefresh config now contract t caller) := by
  have callers : ∀ calledAt, .assertWritable calledAt ∈ [caller] → calledAt = now := by
    intro calledAt member
    exact onTime calledAt (List.mem_singleton.mp member).symm
  have noted : ∀ read, t.reads.head? = some read → ∃ time, some now = some time ∧ read.startedAt ≤ time := by
    intro read newest
    obtain ⟨time, isNoted, before⟩ := checked.noted read newest
    exact ⟨now, rfl, Nat.le_trans before (checked.past time isNoted)⟩
  have past : ∀ time, some now = some time → time ≤ now := by
    rintro time ⟨⟩
    exact Nat.le_refl now
  unfold ContractVersions.startRefresh
  dsimp only
  split
  · exact {
      known := fun supported => nomatch supported
      noted
      settled := fun _ supported => nomatch supported
      flight := by
        rintro r ⟨⟩
        exact ⟨rfl, fun state isState => (Option.some.inj isState).symm, callers⟩
      past }
  · exact { checked with
      noted
      settled := fun answered => nomatch answered _ rfl
      flight := by
        rintro r ⟨⟩
        exact ⟨rfl, fun state isState => (nomatch isState), callers⟩
      past }

theorem Checked.refreshTracked (checked : Checked now t)
    (onTime : ∀ calledAt, caller = .assertWritable calledAt → calledAt = now ∧ t.inFlight = none) :
    Checked now (refreshTracked config now contract t caller) := by
  unfold ContractVersions.refreshTracked
  cases flying : t.inFlight with
  | none => exact checked.startRefresh fun calledAt isWrite => (onTime calledAt isWrite).1
  | some r =>
    obtain ⟨isNoted, isResult, callers⟩ := checked.flight r flying
    exact { checked with
      settled := fun answered => checked.settled fun r' isFlying => by
        rw [flying] at isFlying
        cases isFlying
        exact answered { r with callers := r.callers ++ [caller] } rfl
      flight := by
        rintro r' ⟨⟩
        refine ⟨isNoted, isResult, fun calledAt member => ?_⟩
        rcases List.mem_append.mp member with joined | isCaller
        · exact callers calledAt joined
        · have isNone := (onTime calledAt (List.mem_singleton.mp isCaller).symm).2
          rw [flying] at isNone
          cases isNone }

theorem nextState_known {previous checkedAt wasmHash}
    (supported : (nextState config contract previous checkedAt wasmHash).status = .supported) :
    (nextState config contract previous checkedAt wasmHash).wasmHash.map Except.ok = some wasmHash := by
  cases wasmHash with
  | ok hash => rfl
  | error message => cases supported

theorem Checked.answer (checked : Checked now t) (flying : t.inFlight = some r) (wasmHash : Except String String) :
    Checked now
      { t with
        state := nextState config contract r.previous r.startedAt wasmHash
        inFlight := some { r with result := some (nextState config contract r.previous r.startedAt wasmHash) }
        reads := { startedAt := r.startedAt, wasmHash } :: t.reads } := by
  obtain ⟨isNoted, -, callers⟩ := checked.flight r flying
  exact {
    known := fun supported => ⟨_, rfl, nextState_known supported⟩
    noted := by
      rintro read ⟨⟩
      exact ⟨r.startedAt, isNoted, Nat.le_refl _⟩
    settled := by
      rintro - - read ⟨⟩
      exact isNoted
    flight := by
      rintro r' ⟨⟩
      exact ⟨isNoted, fun state isState => (Option.some.inj isState).symm, callers⟩
    past := checked.past }

theorem Checked.settle (checked : Checked now t) (flying : t.inFlight = some r) (isResult : r.result = some state) :
    Checked now { t with inFlight := none } :=
  { checked with
    settled := fun _ => checked.settled fun r' isFlying => by
      rw [flying] at isFlying
      cases isFlying
      rw [isResult]
      rfl
    flight := fun _ isFlying => nomatch isFlying }

end Tracked

/-! ### Steps -/

/-- Every contract is. -/
def AllChecked (s : ContractVersions) : Prop := ∀ contract, Checked s.now (s.tracked contract)

section Steps

variable {config : VersionConfig} {s : ContractVersions} {contract : ContractName} {caller : RefreshCaller}

theorem allChecked_initialise (config : VersionConfig) (now : Nat) : AllChecked (initialise config now) := by
  intro contract
  exact {
    known := by
      intro supported
      dsimp only [initialise] at supported
      split at supported
      · cases supported
      · cases supported
    noted := fun _ newest => nomatch newest
    settled := fun _ _ _ newest => nomatch newest
    flight := fun _ isFlying => nomatch isFlying
    past := fun _ noted => nomatch noted }

section

variable (checked : AllChecked s)
include checked

theorem AllChecked.update {t} (isChecked : Checked s.now t) (other : ContractName) :
    Checked s.now (Function.update s.tracked contract t other) := by
  by_cases same : other = contract
  · rw [same, Function.update_self]
    exact isChecked
  · rw [Function.update_of_ne same]
    exact checked other

theorem AllChecked.refresh
    (onTime :
      ∀ calledAt, caller = .assertWritable calledAt → calledAt = s.now ∧ (s.tracked contract).inFlight = none) :
    AllChecked (refresh config s contract caller) :=
  checked.update ((checked contract).refreshTracked onTime)

theorem AllChecked.answer (wasmHash : Except String String) : AllChecked (answer config s contract wasmHash) := by
  unfold ContractVersions.answer
  dsimp only
  split
  · rename_i flying
    exact checked.update ((checked contract).answer flying wasmHash)
  · exact checked

theorem AllChecked.settle : AllChecked (settle config s contract).2 := by
  unfold ContractVersions.settle
  dsimp only
  split
  · rename_i flying
    exact checked.update ((checked contract).settle flying rfl)
  · exact checked

/-- A call that finds the hash too old joins no refresh: the newest read is older than the one in flight. -/
theorem flight_none_of_old (fresh : CalledFresh s (.assertWritable contract))
    (old : CONTRACT_VERSION_MAX_AGE_MS < s.now - (s.tracked contract).checkedAtMs.getD 0) :
    (s.tracked contract).inFlight = none := by
  rcases fresh with isNone | ⟨read, newest, young⟩
  · exact isNone
  · obtain ⟨time, isNoted, before⟩ := (checked contract).noted read newest
    rw [isNoted, Option.getD_some] at old
    omega

theorem AllChecked.step {op} (fresh : CalledFresh s op) : AllChecked (ContractVersions.step config s op).2 := by
  cases op with
  | tick ms => exact fun contract => (checked contract).tick ms
  | refreshAll =>
    have first : AllChecked (ContractVersions.refresh config s .settlement .refresh) :=
      checked.refresh fun _ isWrite => nomatch isWrite
    exact first.refresh fun _ isWrite => nomatch isWrite
  | refresh contract => exact checked.refresh fun _ isWrite => nomatch isWrite
  | assertWritable contract =>
    simp only [ContractVersions.step, ContractVersions.assertWritable]
    split
    · rename_i isOld
      apply checked.refresh
      rintro calledAt ⟨⟩
      exact ⟨rfl, flight_none_of_old checked fresh isOld.2⟩
    · exact checked
  | recordUpgradeEvent event =>
    simp only [ContractVersions.step, ContractVersions.recordUpgradeEvent]
    split
    · exact checked.refresh fun _ isWrite => nomatch isWrite
    · exact checked
  | answer contract wasmHash => exact checked.answer wasmHash
  | settle contract => exact checked.settle

end

/-! ### Returned versions -/

variable {version : WritableVersion}

theorem writable_ok (ok : writable state = .ok version) :
    state.status = .supported ∧ state.wasmHash = some version.wasmHash := by
  unfold writable at ok
  split at ok
  · rename_i supported _ isHash
    split at ok
    · cases ok
    · cases ok
      exact ⟨supported, isHash⟩
  · cases ok

/-- The version is that of the contract's newest read, and the read was young when the call was made. -/
def ReadFresh (s : ContractVersions) (check : WriteCheck) (version : WritableVersion) : Prop :=
  ∃ read, (s.tracked check.contract).reads.head? = some read ∧ read.wasmHash = .ok version.wasmHash ∧
    check.calledAt ≤ read.startedAt + CONTRACT_VERSION_MAX_AGE_MS

theorem Checked.newest {now t} (checked : Checked now t) (ok : writable t.state = .ok version) :
    ∃ read, t.reads.head? = some read ∧ read.wasmHash = .ok version.wasmHash := by
  obtain ⟨supported, isHash⟩ := writable_ok ok
  obtain ⟨read, newest, isRead⟩ := checked.known supported
  rw [isHash] at isRead
  exact ⟨read, newest, (Option.some.inj isRead).symm⟩

theorem readFresh_at_once (checked : AllChecked s) (fresh : CalledFresh s (.assertWritable contract))
    (ok : writable (s.tracked contract).state = .ok version)
    (young : ¬ CONTRACT_VERSION_MAX_AGE_MS < s.now - (s.tracked contract).checkedAtMs.getD 0) :
    ReadFresh s { contract, calledAt := s.now, outcome := .ok version } version := by
  obtain ⟨read, newest, isHash⟩ := (checked contract).newest ok
  refine ⟨read, newest, isHash, ?_⟩
  rcases fresh with isNone | ⟨read', newest', isYoung⟩
  · have idle : ∀ r, (s.tracked contract).inFlight = some r → r.result.isSome := by
      intro r flying
      rw [isNone] at flying
      cases flying
    rw [(checked contract).settled idle (writable_ok ok).1 read newest, Option.getD_some] at young
    change s.now ≤ read.startedAt + CONTRACT_VERSION_MAX_AGE_MS
    omega
  · rw [newest] at newest'
    cases newest'
    exact isYoung

theorem readFresh_settled (checked : AllChecked s) (flying : (s.tracked contract).inFlight = some r)
    (isResult : r.result = some state) {calledAt} (waited : .assertWritable calledAt ∈ r.callers)
    (ok : writable state = .ok version) :
    ∃ read, (s.tracked contract).reads.head? = some read ∧ read.wasmHash = .ok version.wasmHash ∧
      calledAt ≤ read.startedAt + CONTRACT_VERSION_MAX_AGE_MS := by
  obtain ⟨isNoted, isState, callers⟩ := (checked contract).flight r flying
  rw [isState state isResult] at ok
  obtain ⟨read, newest, isHash⟩ := (checked contract).newest ok
  have answered : ∀ r', (s.tracked contract).inFlight = some r' → r'.result.isSome := by
    intro r' isFlying
    rw [flying] at isFlying
    cases isFlying
    rw [isResult]
    rfl
  have sameStart := (checked contract).settled answered (writable_ok ok).1 read newest
  rw [isNoted] at sameStart
  refine ⟨read, newest, isHash, ?_⟩
  rw [callers calledAt waited, Option.some.inj sameStart]
  exact Nat.le_add_right _ _

theorem AllChecked.readFresh (checked : AllChecked s) {op} (fresh : CalledFresh s op) {check}
    (ended : check ∈ (ContractVersions.step config s op).1) (ok : check.outcome = .ok version) :
    ReadFresh (ContractVersions.step config s op).2 check version := by
  cases op with
  | assertWritable contract =>
    simp only [ContractVersions.step, ContractVersions.assertWritable] at ended ⊢
    split at ended
    · cases ended
    · rename_i young
      obtain rfl := List.mem_singleton.mp ended
      rw [if_neg young]
      have supported := (writable_ok ok).1
      have configured : (s.tracked contract).state.status ≠ .unconfigured := by
        rw [supported]
        decide
      exact readFresh_at_once checked fresh ok fun isOld => young ⟨configured, isOld⟩
  | settle contract =>
    simp only [ContractVersions.step, ContractVersions.settle] at ended ⊢
    split at ended
    · rename_i flying
      obtain ⟨caller, waited, isCheck⟩ := List.mem_flatMap.mp ended
      cases caller with
      | assertWritable calledAt =>
        obtain rfl := List.mem_singleton.mp isCheck
        simp only [ReadFresh, Function.update_self]
        exact readFresh_settled checked flying rfl waited ok
      | refresh => cases isCheck
      | recordUpgradeEvent event before => cases isCheck
    · cases ended
  | tick ms => cases ended
  | refreshAll => cases ended
  | refresh contract => cases ended
  | recordUpgradeEvent event => cases ended
  | answer contract wasmHash => cases ended

end Steps

/-- In every run whose calls of `assertWritable` find no refresh in flight or a newest read that is young enough, a call
    that returns a version returns the hash of the newest read of the contract, and that read was started at most
    `CONTRACT_VERSION_MAX_AGE_MS` before the call. -/
theorem assertWritable_fresh {config : VersionConfig} {now : Nat} {ops : List VersionOp} {op : VersionOp}
    (fresh : Component.Meets (step config) (fun _ => CalledFresh) [] (initialise config now) ops)
    (freshNow : CalledFresh (run (step config) (initialise config now) ops).2 op) :
    ∀ check ∈ (step config (run (step config) (initialise config now) ops).2 op).1, ∀ version,
      check.outcome = .ok version →
        ReadFresh (step config (run (step config) (initialise config now) ops).2 op).2 check version := by
  intro check ended version ok
  have checked : AllChecked (run (step config) (initialise config now) ops).2 :=
    run_invariant (fun _ s => AllChecked s) (fun _ _ _ _ checked fresh => checked.step fresh) ops [] [] _
      (allChecked_initialise config now) fresh
  exact checked.readFresh freshNow ended ok

/-- A settlement contract whose hash `"h1"` is supported. -/
private def settlementOnly : VersionConfig where
  contractIdFor
    | .settlement => "CS"
    | .solverRegistry => ""
  registry
    | .settlement, "h1" => some "settlement-v1"
    | _, _ => none

private def afterRefresh : List VersionOp :=
  [.refreshAll, .answer .settlement (.ok "h1"), .settle .settlement, .settle .solverRegistry]

/-- A call after a minute and more starts a refresh, and returns its hash. -/
theorem assertWritable_fresh_after_refresh : let s := (run (step settlementOnly) (initialise settlementOnly 0)
      (List.flatten [afterRefresh, [.tick 60001, .assertWritable .settlement, .answer .settlement (.ok "h1")]])).2
    let check : WriteCheck := ⟨.settlement, 60001, .ok ⟨"settlement-v1", "h1"⟩⟩
    check ∈ (step settlementOnly s (.settle .settlement)).1 ∧
      ReadFresh (step settlementOnly s (.settle .settlement)).2 check ⟨"settlement-v1", "h1"⟩ := by
  intro s check
  have ended : check ∈ (step settlementOnly s (.settle .settlement)).1 := by decide +kernel
  exact ⟨ended, assertWritable_fresh (by decide +kernel) (by decide +kernel) check ended _ rfl⟩

/-- The poll of the next minute is still reading. A call gets the hash of the read before, which was started more than a
    minute ago. -/
theorem stale_hash_during_refresh : let s := (run (step settlementOnly) (initialise settlementOnly 0)
      (List.flatten [afterRefresh, [.tick 60000, .refreshAll, .tick 1]])).2
    let check : WriteCheck := ⟨.settlement, 60001, .ok ⟨"settlement-v1", "h1"⟩⟩
    check ∈ (step settlementOnly s (.assertWritable .settlement)).1 ∧
      ¬ ReadFresh (step settlementOnly s (.assertWritable .settlement)).2 check ⟨"settlement-v1", "h1"⟩ := by
  intro s check
  have newest : ((step settlementOnly s (.assertWritable .settlement)).2.tracked .settlement).reads.head? =
      some ⟨0, .ok "h1"⟩ := by
    decide +kernel
  refine ⟨by decide +kernel, ?_⟩
  rintro ⟨read, isNewest, -, young⟩
  dsimp only [check] at isNewest young
  rw [newest] at isNewest
  cases isNewest
  simp [CONTRACT_VERSION_MAX_AGE_MS] at young

end ContractVersions

end VortexBackend
