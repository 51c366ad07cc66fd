/-
Module: VortexBackend.Proofs.RowCodec
Purpose: A saved intent reads back field by field, but for unmapped fields and `undefined`.
Main exports: row_codec
-/
import VortexBackend.Proofs.AdapterAgreement
import VortexBackend.Proofs.BackendSteps

namespace VortexBackend

open IntentTable

/-! ### Fields -/

/-- The fields of an intent. -/
inductive IntentField where
  | intentId
  | user
  | srcChain
  | srcToken
  | srcAmount
  | dstToken
  | minDstAmount
  | auction
  | acceptedDstAmount
  | quotedDstAmount
  | solver
  | state
  | createdAt
  | deadline
  | filledAt
  | fillAmount
  | feeAmount
  | txHash
  | fillVerificationState
  | fillVerificationReason
  | fillVerifiedAt
  | slashedAt
  | slashReason
  | paramsVersion
  | usdValueAtCreate
  | priceLock
  | version
  | srcVerified
  | srcTxHash
  | srcVerification
  | pendingTxHash
  | pendingOp
  | srcTokenId
  | dstTokenId
  | srcDecimals
  | dstDecimals
  | allowPartialFill
  | minFillAmount
deriving Repr, DecidableEq

namespace IntentField

/-- The two intents have the same value in the field. -/
def Same (x y : Intent) : IntentField → Prop
  | intentId => x.intentId = y.intentId
  | user => x.user = y.user
  | srcChain => x.srcChain = y.srcChain
  | srcToken => x.srcToken = y.srcToken
  | srcAmount => x.srcAmount = y.srcAmount
  | dstToken => x.dstToken = y.dstToken
  | minDstAmount => x.minDstAmount = y.minDstAmount
  | auction => x.auction = y.auction
  | acceptedDstAmount => x.acceptedDstAmount = y.acceptedDstAmount
  | quotedDstAmount => x.quotedDstAmount = y.quotedDstAmount
  | solver => x.solver = y.solver
  | state => x.state = y.state
  | createdAt => x.createdAt = y.createdAt
  | deadline => x.deadline = y.deadline
  | filledAt => x.filledAt = y.filledAt
  | fillAmount => x.fillAmount = y.fillAmount
  | feeAmount => x.feeAmount = y.feeAmount
  | txHash => x.txHash = y.txHash
  | fillVerificationState => x.fillVerificationState = y.fillVerificationState
  | fillVerificationReason => x.fillVerificationReason = y.fillVerificationReason
  | fillVerifiedAt => x.fillVerifiedAt = y.fillVerifiedAt
  | slashedAt => x.slashedAt = y.slashedAt
  | slashReason => x.slashReason = y.slashReason
  | paramsVersion => x.paramsVersion = y.paramsVersion
  | usdValueAtCreate => x.usdValueAtCreate = y.usdValueAtCreate
  | priceLock => x.priceLock = y.priceLock
  | version => x.version = y.version
  | srcVerified => x.srcVerified = y.srcVerified
  | srcTxHash => x.srcTxHash = y.srcTxHash
  | srcVerification => x.srcVerification = y.srcVerification
  | pendingTxHash => x.pendingTxHash = y.pendingTxHash
  | pendingOp => x.pendingOp = y.pendingOp
  | srcTokenId => x.srcTokenId = y.srcTokenId
  | dstTokenId => x.dstTokenId = y.dstTokenId
  | srcDecimals => x.srcDecimals = y.srcDecimals
  | dstDecimals => x.dstDecimals = y.dstDecimals
  | allowPartialFill => x.allowPartialFill = y.allowPartialFill
  | minFillAmount => x.minFillAmount = y.minFillAmount

/-- Fields that a save writes. Those without a column are not among them, and a column that the save leaves out, because
    the intent has no value for it, must be empty in the row that is replaced. -/
def saved (intent : Intent) (old : Option IntentRow) : IntentField → Bool
  | paramsVersion | priceLock | pendingTxHash | pendingOp | srcTokenId | dstTokenId | srcDecimals | dstDecimals => false
  | auction => intent.auction.isSome || (old.bind (·.auction)).isNone
  | usdValueAtCreate => intent.usdValueAtCreate.isSome || (old.bind (·.usdValueAtCreate)).isNone
  | slashedAt => intent.slashedAt.isSome || (old.bind (·.slashedAt)).isNone
  | slashReason => intent.slashReason.isSome || (old.bind (·.slashReason)).isNone
  | feeAmount => intent.feeAmount.isSome || (old.bind (·.feeAmount)).isNone
  | _ => true

/-- Fields that a patch leaves alone, or gives a value that the adapter writes. The terms of an intent are not patched,
    and a field without a column cannot be given a value. -/
def patched (patch : IntentPatch) : IntentField → Bool
  | user => patch.user.isNone
  | srcChain => patch.srcChain.isNone
  | srcToken => patch.srcToken.isNone
  | dstToken => patch.dstToken.isNone
  | allowPartialFill => patch.allowPartialFill.isNone
  | minFillAmount => patch.minFillAmount.isNone
  | paramsVersion => patch.paramsVersion.join.isNone
  | priceLock => patch.priceLock.join.isNone
  | pendingTxHash => patch.pendingTxHash.join.isNone
  | pendingOp => patch.pendingOp.join.isNone
  | srcTokenId => patch.srcTokenId.join.isNone
  | dstTokenId => patch.dstTokenId.join.isNone
  | srcDecimals => patch.srcDecimals.join.isNone
  | dstDecimals => patch.dstDecimals.join.isNone
  | auction => patch.auction != some none
  | acceptedDstAmount => patch.acceptedDstAmount != some none
  | quotedDstAmount => patch.quotedDstAmount != some none
  | solver => patch.solver != some none
  | filledAt => patch.filledAt != some none
  | fillAmount => patch.fillAmount != some none
  | feeAmount => patch.feeAmount != some none
  | txHash => patch.txHash != some none
  | fillVerificationState => patch.fillVerificationState != some none
  | fillVerificationReason => patch.fillVerificationReason != some none
  | fillVerifiedAt => patch.fillVerifiedAt != some none
  | slashedAt => patch.slashedAt != some none
  | slashReason => patch.slashReason != some none
  | usdValueAtCreate => patch.usdValueAtCreate != some none
  | srcVerified => patch.srcVerified != some none
  | srcTxHash => patch.srcTxHash != some none
  | srcVerification => patch.srcVerification != some none
  | intentId | srcAmount | minDstAmount | state | createdAt | deadline | version => true

end IntentField

/-- An intent as the columns hold it: an absent version is 0, an absent verification flag is false, partial fills are
    either allowed or not, and there is no empty reason. -/
def Intent.stored (intent : Intent) : Intent :=
  { intent with
    version := some intent.currentVersion
    srcVerified := some (intent.srcVerified.getD false)
    allowPartialFill := intent.allowPartialFill.filter id
    fillVerificationReason := intent.fillVerificationReason.filter (· ≠ "") }

/-- What was read agrees with the record on these fields. -/
def AgreeOn (fields : IntentField → Prop) (read record : Intent) : Prop :=
  ∀ field, fields field → field.Same read record.stored

/-! ### Columns -/

section Columns

variable {α : Type} {a b : Option α}

theorem or_of_written (written : (a.isSome || b.isNone) = true) : (a <|> b) = a := by
  cases a with
  | none => exact Option.isNone_iff_eq_none.mp written
  | some => rfl

theorem getD_of_absent {p : Option α} {a b : α} (absent : p.isNone = true) (same : a = b) : a = p.getD b := by
  rw [Option.isNone_iff_eq_none.mp absent]
  exact same

variable {p : Option (Option α)}

theorem getD_of_unmapped {b} (unmapped : p.join.isNone = true) (same : none = b) : none = p.getD b := by
  rcases p with _ | _ | value
  · exact same
  · rfl
  · cases unmapped

theorem join_or [DecidableEq α] (defined : (p != some none) = true) (same : a = b) : (p.join <|> a) = p.getD b := by
  rcases p with _ | _ | value
  · exact same
  · cases defined
  · rfl

theorem filter_join_or [DecidableEq α] {keep : α → Bool} (defined : (p != some none) = true)
    (same : a.filter keep = b.filter keep) : (p.join <|> a).filter keep = (p.getD b).filter keep := by
  rcases p with _ | _ | value
  · exact same
  · cases defined
  · rfl

theorem join_getD [DecidableEq α] {a default b} (defined : (p != some none) = true) (same : a = b.getD default) :
    p.join.getD a = (p.getD b).getD default := by
  rcases p with _ | _ | value
  · exact same
  · cases defined
  · rfl

theorem flag_read (flag : Option Bool) : (if flag.getD false then some true else none) = flag.filter id := by
  rcases flag with _ | _ | _ <;> rfl

end Columns

section Rows

variable {source : TimestampReadSource} {intent record : Intent} {row : IntentRow} {patch : IntentPatch}
  {field : IntentField}

theorem readEpoch_written (source : TimestampReadSource) (time : Option Nat) :
    readEpoch source time (time.map epochToDate) = time := by
  cases time with
  | none => cases source <;> rfl
  | some seconds => exact readEpoch_inStep source seconds

theorem readEpoch_patched {p time ts b} (defined : (p != some none) = true) (same : readEpoch source time ts = b) :
    readEpoch source (p.join <|> time) (p.join.map epochToDate <|> ts) = p.getD b := by
  rcases p with _ | _ | seconds
  · exact same
  · cases defined
  · exact readEpoch_inStep source seconds

theorem deadline_patched {p : Option Nat} {deadline b : Nat} {ts : Option Nat}
    (same : (readEpoch source (some deadline) ts).getD deadline = b) :
    (readEpoch source (some (p.getD deadline)) (p.map epochToDate <|> ts)).getD (p.getD deadline) = p.getD b := by
  cases p with
  | none => exact same
  | some seconds =>
    change (readEpoch source (some seconds) (some (epochToDate seconds))).getD seconds = seconds
    rw [readEpoch_inStep]
    rfl

theorem same_saved (isId : row.intentId = intent.intentId) (written : field.saved intent (some row) = true) :
    field.Same (fromRow source (toDbData intent row)) intent.stored := by
  cases field with
  | intentId => exact isId
  | auction | usdValueAtCreate | slashedAt | slashReason | feeAmount => exact or_of_written written
  | createdAt | deadline =>
    simp only [IntentField.Same, fromRow, toDbData, readEpoch_inStep]
    rfl
  | filledAt => exact readEpoch_written source intent.filledAt
  | allowPartialFill => exact flag_read intent.allowPartialFill
  | paramsVersion | priceLock | pendingTxHash | pendingOp | srcTokenId | dstTokenId | srcDecimals | dstDecimals =>
    cases written
  | _ => rfl

theorem same_patched (isVersion : row.version = record.currentVersion) (written : field.patched patch = true)
    (same : field.Same (fromRow source row) record.stored) :
    field.Same (fromRow source ((toDbPatch patch row).withVersion (row.version + 1)))
      (IntentStore.bumped record (·.assign patch)).stored := by
  cases field with
  | intentId | createdAt => exact same
  | user | srcChain | srcToken | dstToken | minFillAmount => exact getD_of_absent written same
  | srcAmount | minDstAmount | state => exact congrArg (Option.getD _) same
  | auction | acceptedDstAmount | quotedDstAmount | solver | fillAmount | feeAmount | txHash | fillVerificationState
  | fillVerifiedAt | slashedAt | slashReason | usdValueAtCreate | srcTxHash | srcVerification =>
    exact join_or written same
  | paramsVersion | priceLock | pendingTxHash | pendingOp | srcTokenId | dstTokenId | srcDecimals | dstDecimals =>
    exact getD_of_unmapped written same
  | filledAt => exact readEpoch_patched written same
  | deadline => exact deadline_patched same
  | version => exact congrArg (fun n => some (n + 1)) isVersion
  | fillVerificationReason => exact filter_join_or written same
  | srcVerified => exact congrArg some (join_getD written (Option.some.inj same))
  | allowPartialFill => exact same.trans (congrArg (Option.filter id) (getD_of_absent written rfl))

end Rows

/-! ### The adapter -/

/-- Every row is stored under the identifier of its intent. -/
def IntentTable.Keyed (table : IntentTable) : Prop := ∀ id row, table.findUnique id = some row → row.intentId = id

variable {condition : IntentRow → Bool} {expectedVersion : Option Nat}

namespace IntentTable.Keyed

variable {table : IntentTable} {id : String} {row : IntentRow}

theorem set (keyed : table.Keyed) (isId : row.intentId = id) : IntentTable.Keyed (JsMap.set table id row) := by
  intro id' row' found
  rw [findUnique_set] at found
  split at found
  · next same =>
      cases found
      exact isId.trans same.symm
  · exact keyed id' row' found

variable {data : IntentRow → IntentRow}

theorem updateMany (keyed : table.Keyed) (sameId : ∀ row, (data row).intentId = row.intentId) :
    IntentTable.Keyed (table.updateMany id condition data).2 := by
  rw [IntentTable.updateMany]
  split
  · next row found =>
      split
      · exact keyed.set ((sameId row).trans (keyed id row found))
      · exact keyed
  · exact keyed

theorem conditionalUpdate (keyed : table.Keyed) {source} (sameId : ∀ row, (data row).intentId = row.intentId) :
    IntentTable.Keyed (conditionalUpdate source table id expectedVersion condition data).2 := by
  rw [IntentTable.conditionalUpdate]
  have written : IntentTable.Keyed (table.updateMany id
      (fun row => condition row && expectedVersion.all (row.version == ·))
      fun row => (data row).withVersion (row.version + 1)).2 := keyed.updateMany sameId
  dsimp only
  split <;> exact written

/-- The operations of the adapter keep it so. -/
theorem apply (keyed : table.Keyed) (source : TimestampReadSource) (op : IntentsOperation) :
    IntentTable.Keyed (table.apply source op).2 := by
  cases op with
  | save intent =>
    simp only [IntentTable.apply, IntentTable.save, IntentTable.upsert]
    split
    · next row found => exact keyed.set (keyed _ row found)
    · exact keyed.set rfl
  | amendIfOpen id minDstAmount deadline now =>
    simp only [IntentTable.apply, IntentTable.amendIfOpen]
    split <;> exact keyed.updateMany fun _ => rfl
  | _ => exact keyed.conditionalUpdate fun _ => rfl

end IntentTable.Keyed

variable {source : TimestampReadSource}

theorem rel_mono {α β : Type} {R S : α → β → Prop} {x y} (weaker : ∀ a b, R a b → S a b)
    (related : Option.Rel R x y) :
    Option.Rel S x y := by
  cases related with
  | some holds => exact .some (weaker _ _ holds)
  | none => exact .none

variable {table : IntentTable}

theorem save_reads_back (keyed : table.Keyed) (intent : Intent) :
    ∃ read, (table.save intent).2.findById source intent.intentId = some read ∧
      AgreeOn (fun field => field.saved intent (table.findUnique intent.intentId) = true) read intent := by
  simp only [save, upsert, findById]
  cases found : table.findUnique intent.intentId with
  | some row =>
    refine ⟨fromRow source (toDbData intent row), ?_, ?_⟩
    · simp only [findUnique_set, if_true, Option.map_some]
    · intro field written
      exact same_saved (keyed _ row found) written
  | none =>
    refine ⟨fromRow source (createdRow intent), ?_, ?_⟩
    · simp only [findUnique_set, if_true, Option.map_some]
    · intro field written
      apply same_saved rfl
      -- A new row has no columns from before.
      cases field <;> exact written

/-- A patch under a guard acts alike on a row and on a record that agree, and so does its refusal. -/
theorem patch_reads_back {store : IntentStore} {id : String} {patch : IntentPatch} {fields : IntentField → Prop}
    {guard : Intent → Bool} (hasVersion : fields .version)
    (agree : Option.Rel (AgreeOn fields) (table.findById source id) (store.get id))
    (sameGuard : ∀ row record, AgreeOn fields (fromRow source row) record → condition row = guard record) :
    Option.Rel (AgreeOn fun field => fields field ∧ field.patched patch = true)
      ((conditionalUpdate source table id expectedVersion condition (toDbPatch patch)).2.findById source id)
      ((store.mutate id expectedVersion guard (·.assign patch)).2.get id) := by
  have unchanged : Option.Rel (AgreeOn fun field => fields field ∧ field.patched patch = true)
      (table.findById source id) (store.get id) :=
    rel_mono (fun _ _ same field promised => same field promised.1) agree
  rw [findById] at agree
  cases found : table.findUnique id with
  | none =>
    rw [found] at agree
    cases present : store.get id with
    | some record => rw [present] at agree; cases agree
    | none =>
      rw [conditionalUpdate_absent found, IntentStore.mutate, present]
      exact unchanged
  | some row =>
    rw [found] at agree
    cases present : store.get id with
    | none => rw [present] at agree; cases agree
    | some record =>
      rw [present] at agree
      obtain ⟨same⟩ := agree
      have isVersion : row.version = record.currentVersion := Option.some.inj (same .version hasVersion)
      by_cases current : ∀ expected, expectedVersion = some expected → row.version = expected
      · rw [store.mutate_of_current present (isVersion ▸ current)]
        by_cases guarded : guard record = true
        · have hit : condition row = true := (sameGuard row record same).trans guarded
          have isId : id = (IntentStore.bumped record (·.assign patch)).intentId :=
            (IntentStore.intentId_of_get present).symm
          rw [if_pos guarded, conditionalUpdate_hit found hit current, findById,
            findUnique_set, if_pos rfl, IntentStore.get_put, if_pos isId]
          exact .some fun field promised => same_patched isVersion promised.2 (same field promised.1)
        · have miss : condition row = false := (sameGuard row record same).trans (Bool.eq_false_iff.mpr guarded)
          rw [if_neg guarded, conditionalUpdate_miss found miss current]
          exact unchanged
      · push Not at current
        obtain ⟨expected, rfl, stale⟩ := current
        rw [store.mutate_of_stale present (isVersion ▸ stale), conditionalUpdate_stale found stale]
        exact unchanged

/-- For either timestamp column: a saved intent reads back on every field that the save writes, with the defaults of the
    columns; and where a stored intent and the record in memory agree before `update` or `transitionIf`, they agree
    after it on every field that the patch leaves alone or gives a value that is written. -/
theorem row_codec (source : TimestampReadSource) (table : IntentTable) (keyed : table.Keyed) :
    (∀ intent, ∃ read, (table.save intent).2.findById source intent.intentId = some read ∧
      AgreeOn (fun field => field.saved intent (table.findUnique intent.intentId) = true) read intent) ∧
    ∀ (store : IntentStore) (id : String) (fields : IntentField → Prop), fields .state → fields .version →
      Option.Rel (AgreeOn fields) (table.findById source id) (store.get id) → ∀ patch,
        (∀ expectedVersion, Option.Rel (AgreeOn fun field => fields field ∧ field.patched patch = true)
          ((table.update source id patch expectedVersion).2.findById source id)
          ((store.update id patch expectedVersion).2.get id)) ∧
        ∀ «from» «to», Option.Rel (AgreeOn fun field => fields field ∧ field.patched patch = true)
          ((table.transitionIf source id «from» «to» patch).2.findById source id)
          ((store.transitionIf id «from» «to» patch).2.get id) := by
  constructor
  · exact save_reads_back keyed
  · intro store id fields hasState hasVersion agree patch
    constructor
    · intro expectedVersion
      exact patch_reads_back hasVersion agree fun _ _ _ => rfl
    · intro «from» «to»
      have samePatched (field : IntentField) :
          field.patched { patch with state := some «to» } = field.patched patch := by
        cases field <;> rfl
      have sameGuard (row : IntentRow) (record : Intent) (same : AgreeOn fields (fromRow source row) record) :
          (row.state == «from») = (record.state == «from») := by
        rw [show row.state = record.state from same .state hasState]
      have agreeAfter : Option.Rel
          (AgreeOn fun field => fields field ∧ field.patched { patch with state := some «to» } = true)
          ((table.transitionIf source id «from» «to» patch).2.findById source id)
          ((store.transitionIf id «from» «to» patch).2.get id) := patch_reads_back hasVersion agree sameGuard
      exact agreeAfter

/-- An intent that is saved and then patched, read from the timestamp columns. -/
theorem row_codec_sample : let table := (save .empty sampleIntent).2
    let store := IntentStore.empty.put sampleIntent
    let patch : IntentPatch := { solver := some (some "S"), filledAt := some (some 50), deadline := some 70 }
    Option.Rel (AgreeOn fun field => field.saved sampleIntent none = true ∧ field.patched patch = true)
      ((table.update .timestamptz "I" patch (some 0)).2.findById .timestamptz "I")
      ((store.update "I" patch (some 0)).2.get "I") ∧
    ((store.update "I" patch (some 0)).2.get "I").map (·.solver) = some (some "S") := by
  intro table store patch
  have keyed : IntentTable.Keyed .empty := fun _ _ found => nomatch found
  obtain ⟨read, found, agree⟩ := (row_codec .timestamptz .empty keyed).1 sampleIntent
  have related : Option.Rel (AgreeOn fun field => field.saved sampleIntent none = true)
      (table.findById .timestamptz "I") (store.get "I") := by
    rw [show table.findById .timestamptz "I" = some read from found]
    exact .some agree
  have patched := (row_codec .timestamptz table (keyed.apply .timestamptz (.save sampleIntent))).2 store "I"
    (fun field => field.saved sampleIntent none = true) rfl rfl related patch
  exact ⟨patched.1 (some 0), by decide⟩

/-- An absent version does not read back as absent: the column has its default. -/
theorem absent_version_stored :
    sampleIntent.version = none ∧
      ((save .empty sampleIntent).2.findById .epoch "I").map (·.version) = some (some 0) := by
  decide

end VortexBackend
