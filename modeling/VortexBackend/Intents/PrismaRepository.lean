/-
Module: VortexBackend.Intents.PrismaRepository
Purpose: The Postgres adapter of the intent store. A data object is the function that assigns its columns.
Trusted boundary: `updateMany`, `findUnique`, `upsert` and `create` are atomic on one row; the database trigger on
  state changes, the unique index on `tx_hash`, the idempotency key and the search endpoint are left out
Main exports: IntentTable.apply
-/
import VortexBackend.Intents.Repository

namespace VortexBackend

open JsMap

/-! ### Epoch timestamps -/

inductive TimestampReadSource where
  | epoch
  | timestamptz
deriving Repr, DecidableEq

/-- Epoch seconds to an instant in milliseconds. -/
def epochToDate (seconds : Nat) : Nat := seconds * 1000

/-- An instant to whole epoch seconds. -/
def dateToEpoch (date : Nat) : Nat := date / 1000

/-- Read one epoch value from the configured column, with the integer column as a fallback. -/
def readEpoch : TimestampReadSource → Option Nat → Option Nat → Option Nat
  | .timestamptz, _, some ts => some (dateToEpoch ts)
  | _, epoch, _ => epoch

/-! ### Rows -/

/-- The columns of `intents` that the adapter writes; `null` is `none`. -/
structure IntentRow where
  intentId : String
  user : String
  srcChain : SupportedChain
  srcToken : TokenInfo
  srcAmount : String
  dstToken : StellarToken
  minDstAmount : String
  auction : Option DutchAuction := none
  acceptedDstAmount : Option String := none
  quotedDstAmount : Option String := none
  solver : Option String := none
  state : IntentState := .open
  createdAt : Nat
  createdAtTs : Option Nat := none
  deadline : Nat
  deadlineTs : Option Nat := none
  filledAt : Option Nat := none
  filledAtTs : Option Nat := none
  fillAmount : Option String := none
  feeAmount : Option String := none
  txHash : Option String := none
  usdValueAtCreate : Option Rat := none
  fillVerificationState : Option FillVerificationState := none
  fillVerificationReason : Option String := none
  fillVerifiedAt : Option Nat := none
  version : Nat := 0
  srcVerified : Bool := false
  srcTxHash : Option String := none
  srcVerification : Option SrcVerification := none
  slashedAt : Option Nat := none
  slashReason : Option String := none
  allowPartialFill : Bool := false
  minFillAmount : Option String := none
deriving Repr, DecidableEq

def IntentRow.withVersion (row : IntentRow) (version : Nat) : IntentRow := { row with version }

/-- The columns that an intent writes, over a row. The columns of `auction`, `usdValueAtCreate`, `slashedAt`,
    `slashReason` and `feeAmount` are left out where the intent has no value for them. -/
def toDbData (intent : Intent) (row : IntentRow) : IntentRow :=
  { row with
    user := intent.user
    srcChain := intent.srcChain
    srcToken := intent.srcToken
    srcAmount := intent.srcAmount
    dstToken := intent.dstToken
    minDstAmount := intent.minDstAmount
    auction := intent.auction <|> row.auction
    acceptedDstAmount := intent.acceptedDstAmount
    quotedDstAmount := intent.quotedDstAmount
    solver := intent.solver
    state := intent.state
    createdAt := intent.createdAt
    createdAtTs := some (epochToDate intent.createdAt)
    deadline := intent.deadline
    deadlineTs := some (epochToDate intent.deadline)
    filledAt := intent.filledAt
    filledAtTs := intent.filledAt.map epochToDate
    fillAmount := intent.fillAmount
    txHash := intent.txHash
    usdValueAtCreate := intent.usdValueAtCreate <|> row.usdValueAtCreate
    fillVerificationState := intent.fillVerificationState
    fillVerificationReason := intent.fillVerificationReason
    fillVerifiedAt := intent.fillVerifiedAt
    version := intent.version.getD 0
    srcVerified := intent.srcVerified.getD false
    srcTxHash := intent.srcTxHash
    srcVerification := intent.srcVerification
    slashedAt := intent.slashedAt <|> row.slashedAt
    slashReason := intent.slashReason <|> row.slashReason
    allowPartialFill := intent.allowPartialFill.getD false
    minFillAmount := intent.minFillAmount
    feeAmount := intent.feeAmount <|> row.feeAmount }

/-- The row that a `create` with these columns inserts: the others are `null`. -/
def createdRow (intent : Intent) : IntentRow :=
  toDbData intent
    { intentId := intent.intentId
      user := intent.user
      srcChain := intent.srcChain
      srcToken := intent.srcToken
      srcAmount := intent.srcAmount
      dstToken := intent.dstToken
      minDstAmount := intent.minDstAmount
      createdAt := intent.createdAt
      deadline := intent.deadline }

/-- The columns that a patch writes, over a row: a field that is absent or `undefined` is left out, and so are
    the fields that the adapter does not patch. -/
def toDbPatch (patch : IntentPatch) (row : IntentRow) : IntentRow :=
  { row with
    state := patch.state.getD row.state
    solver := patch.solver.join <|> row.solver
    deadline := patch.deadline.getD row.deadline
    deadlineTs := patch.deadline.map epochToDate <|> row.deadlineTs
    filledAt := patch.filledAt.join <|> row.filledAt
    filledAtTs := patch.filledAt.join.map epochToDate <|> row.filledAtTs
    fillAmount := patch.fillAmount.join <|> row.fillAmount
    feeAmount := patch.feeAmount.join <|> row.feeAmount
    txHash := patch.txHash.join <|> row.txHash
    fillVerificationState := patch.fillVerificationState.join <|> row.fillVerificationState
    fillVerificationReason := patch.fillVerificationReason.join <|> row.fillVerificationReason
    fillVerifiedAt := patch.fillVerifiedAt.join <|> row.fillVerifiedAt
    quotedDstAmount := patch.quotedDstAmount.join <|> row.quotedDstAmount
    srcAmount := patch.srcAmount.getD row.srcAmount
    minDstAmount := patch.minDstAmount.getD row.minDstAmount
    srcVerified := patch.srcVerified.join.getD row.srcVerified
    srcTxHash := patch.srcTxHash.join <|> row.srcTxHash
    srcVerification := patch.srcVerification.join <|> row.srcVerification
    usdValueAtCreate := patch.usdValueAtCreate.join <|> row.usdValueAtCreate
    auction := patch.auction.join <|> row.auction
    acceptedDstAmount := patch.acceptedDstAmount.join <|> row.acceptedDstAmount
    slashedAt := patch.slashedAt.join <|> row.slashedAt
    slashReason := patch.slashReason.join <|> row.slashReason }

variable (source : TimestampReadSource)

/-- Map a row to the domain record. -/
def fromRow (row : IntentRow) : Intent where
  intentId := row.intentId
  user := row.user
  srcChain := row.srcChain
  srcToken := row.srcToken
  srcAmount := row.srcAmount
  dstToken := row.dstToken
  minDstAmount := row.minDstAmount
  auction := row.auction
  acceptedDstAmount := row.acceptedDstAmount
  quotedDstAmount := row.quotedDstAmount
  solver := row.solver
  state := row.state
  createdAt := (readEpoch source (some row.createdAt) row.createdAtTs).getD row.createdAt
  deadline := (readEpoch source (some row.deadline) row.deadlineTs).getD row.deadline
  filledAt := readEpoch source row.filledAt row.filledAtTs
  fillAmount := row.fillAmount
  feeAmount := row.feeAmount
  txHash := row.txHash
  usdValueAtCreate := row.usdValueAtCreate
  fillVerificationState := row.fillVerificationState
  -- An empty text reads back as no reason.
  fillVerificationReason := row.fillVerificationReason.filter (· ≠ "")
  fillVerifiedAt := row.fillVerifiedAt
  version := some row.version
  srcVerified := some row.srcVerified
  srcTxHash := row.srcTxHash
  srcVerification := row.srcVerification
  slashedAt := row.slashedAt
  slashReason := row.slashReason
  allowPartialFill := if row.allowPartialFill then some true else none
  minFillAmount := row.minFillAmount

/-! ### The table -/

/-- The rows of `intents` under their unique `intent_id`. -/
abbrev IntentTable := JsMap String IntentRow

namespace IntentTable

variable (table : IntentTable)

/-- `findUnique({ where: { intentId } })` -/
def findUnique (intentId : String) : Option IntentRow := get table intentId

/-- `updateMany` on the row of one intent, under a condition on its columns: the number of rows hit. -/
def updateMany (intentId : String) (condition : IntentRow → Bool) (data : IntentRow → IntentRow) :
    Nat × IntentTable :=
  match table.findUnique intentId with
  | some row => if condition row then (1, set table intentId (data row)) else (0, table)
  | none => (0, table)

/-- `upsert` of a whole intent. -/
def upsert (intent : Intent) : IntentTable :=
  match table.findUnique intent.intentId with
  | some row => set table intent.intentId (toDbData intent row)
  | none => set table intent.intentId (createdRow intent)

/-! ### The adapter -/

/-- `epochWhere("deadline", { gt: bound })` -/
def deadlineAfter (bound : Nat) (row : IntentRow) : Bool :=
  match source with
  | .epoch => bound < row.deadline
  | .timestamptz => row.deadlineTs.any (epochToDate bound < ·)

/-- `epochWhere("deadline", { lt: bound })` -/
def deadlineBefore (bound : Nat) (row : IntentRow) : Bool :=
  match source with
  | .epoch => row.deadline < bound
  | .timestamptz => row.deadlineTs.any (· < epochToDate bound)

/-- Classify a conditional update that hit no row. -/
def resolveMiss (id : String) : Option Nat → MutationResult
  | none => .missed
  | some expected =>
    match table.findUnique id with
    | some row => if row.version ≠ expected then .versionConflict id expected row.version else .missed
    | none => .missed

/-- The shape of the guarded methods: a conditional update that increments the version, then a second read,
    of the new row or of the reason why there is none. -/
def conditionalUpdate (id : String)
    (expectedVersion : Option Nat) (condition : IntentRow → Bool) (data : IntentRow → IntentRow) :
    MutationResult × IntentTable :=
  let (count, table') := table.updateMany id
    (fun row => condition row && expectedVersion.all (row.version == ·))
    fun row => (data row).withVersion (row.version + 1)
  if count = 0 then (table'.resolveMiss id expectedVersion, table')
  else (.ofOption ((table'.findUnique id).map (fromRow source)), table')

variable (source : TimestampReadSource) (table : IntentTable)

def findById (id : String) : Option Intent := (table.findUnique id).map (fromRow source)

def save (intent : Intent) : Intent × IntentTable := (intent, table.upsert intent)

def update (id : String) (patch : IntentPatch) (expectedVersion : Option Nat) :
    MutationResult × IntentTable :=
  conditionalUpdate source table id expectedVersion (fun _ => true) (toDbPatch patch)

/-- Only the stored deadline is compared with the time; the version stays. -/
def amendIfOpen (id minDstAmount : String) (deadline now : Nat) : Option Intent × IntentTable :=
  let (count, table') := table.updateMany id
    (fun row => row.state == .open && deadlineAfter source now row)
    fun row => { row with minDstAmount, deadline, deadlineTs := some (epochToDate deadline) }
  if count = 0 then (none, table') else ((table'.findUnique id).map (fromRow source), table')

def acceptIfOpen (id solver : String) (newDeadline now : Nat) (expectedVersion : Option Nat) :
    MutationResult × IntentTable :=
  conditionalUpdate source table id expectedVersion
    (fun row => row.state == .open && deadlineAfter source now row) fun row =>
    { row with
      state := .accepted, solver := some solver, deadline := newDeadline
      deadlineTs := some (epochToDate newDeadline) }

def fillIfAccepted (id solver : String) (patch : FillFields) (now : Nat) (expectedVersion : Option Nat) :
    MutationResult × IntentTable :=
  conditionalUpdate source table id expectedVersion
    (fun row => row.state == .accepted && row.solver == some solver && deadlineAfter source now row)
    fun row =>
    { row with
      state := .filled
      filledAt := patch.filledAt.join <|> row.filledAt
      filledAtTs := patch.filledAt.join.map epochToDate <|> row.filledAtTs
      fillAmount := patch.fillAmount.join <|> row.fillAmount
      feeAmount := patch.feeAmount.join <|> row.feeAmount
      txHash := patch.txHash.join <|> row.txHash }

def cancelIfOpen (id : String) (expectedVersion : Option Nat) : MutationResult × IntentTable :=
  conditionalUpdate source table id expectedVersion (·.state == .open) fun row =>
    { row with state := .cancelled }

def expireIfOpen (id : String) (expectedVersion : Option Nat) : MutationResult × IntentTable :=
  conditionalUpdate source table id expectedVersion (·.state == .open) fun row =>
    { row with state := .expired }

def slashIfAccepted (id : String) (slashedAt : Nat) (slashReason : String) (expectedVersion : Option Nat) :
    MutationResult × IntentTable :=
  conditionalUpdate source table id expectedVersion (·.state == .accepted) fun row =>
    { row with state := .slashed, slashedAt := some slashedAt, slashReason := some slashReason }

def extendDeadlineIfAccepted (id : String) (newDeadline : Nat) (expectedVersion : Option Nat) :
    MutationResult × IntentTable :=
  conditionalUpdate source table id expectedVersion
    (fun row => row.state == .accepted && deadlineBefore source newDeadline row) fun row =>
    { row with deadline := newDeadline, deadlineTs := some (epochToDate newDeadline) }

/-- A miss is not classified: no version is expected. -/
def transitionIf (id : String) («from» «to» : IntentState) (patch : IntentPatch) :
    MutationResult × IntentTable :=
  conditionalUpdate source table id none (·.state == «from») (toDbPatch { patch with state := some «to» })

/-- One operation on the Postgres store. -/
def apply : IntentsOperation → MutationResult × IntentTable
  | .save intent => (.written (table.save intent).1, (table.save intent).2)
  | .update id patch expectedVersion => table.update source id patch expectedVersion
  | .amendIfOpen id minDstAmount deadline now =>
    (.ofOption (table.amendIfOpen source id minDstAmount deadline now).1,
      (table.amendIfOpen source id minDstAmount deadline now).2)
  | .acceptIfOpen id solver newDeadline now expectedVersion =>
    table.acceptIfOpen source id solver newDeadline now expectedVersion
  | .fillIfAccepted id solver patch now expectedVersion =>
    table.fillIfAccepted source id solver patch now expectedVersion
  | .extendDeadlineIfAccepted id newDeadline expectedVersion =>
    table.extendDeadlineIfAccepted source id newDeadline expectedVersion
  | .cancelIfOpen id expectedVersion => table.cancelIfOpen source id expectedVersion
  | .expireIfOpen id expectedVersion => table.expireIfOpen source id expectedVersion
  | .slashIfAccepted id slashedAt slashReason expectedVersion =>
    table.slashIfAccepted source id slashedAt slashReason expectedVersion
  | .transitionIf id «from» «to» patch => table.transitionIf source id «from» «to» patch

/-- Mirror a record only when it is newer than what is stored; a missing row is created. -/
def saveIfNewer (intent : Intent) : IntentTable :=
  let (count, table') := table.updateMany intent.intentId (·.version < intent.version.getD 0)
    (toDbData intent)
  if 0 < count then table'
  else match table'.findUnique intent.intentId with
    -- The stored version is equal or newer.
    | some _ => table'
    | none => set table' intent.intentId (createdRow intent)

/-! ### Lemmas -/

section

variable {source : TimestampReadSource} {table : IntentTable} {id : String} {expectedVersion : Option Nat}
  {condition : IntentRow → Bool} {data : IntentRow → IntentRow} {row : IntentRow}

theorem findUnique_set (table : IntentTable) (id id' : String) (row : IntentRow) :
    findUnique (set table id row) id' = if id' = id then some row else table.findUnique id' :=
  get_set _ _ _ _

theorem updateMany_absent (absent : table.findUnique id = none) : table.updateMany id condition data = (0, table) := by
  rw [updateMany, absent]

theorem updateMany_hit (found : table.findUnique id = some row) (hit : condition row = true) :
    table.updateMany id condition data = (1, set table id (data row)) := by
  rw [updateMany, found]
  exact if_pos hit

theorem updateMany_miss (found : table.findUnique id = some row) (miss : condition row = false) :
    table.updateMany id condition data = (0, table) := by
  rw [updateMany, found]
  exact if_neg (by rw [miss]; decide)

theorem conditionalUpdate_absent (absent : table.findUnique id = none) :
    conditionalUpdate source table id expectedVersion condition data = (.missed, table) := by
  rw [conditionalUpdate, updateMany_absent absent]
  cases expectedVersion with
  | none => rfl
  | some expected => simp only [if_true, resolveMiss, absent]

section

variable (found : table.findUnique id = some row)
include found

theorem conditionalUpdate_hit (hit : condition row = true)
    (current : ∀ expected, expectedVersion = some expected → row.version = expected) :
    conditionalUpdate source table id expectedVersion condition data =
      (.written (fromRow source ((data row).withVersion (row.version + 1))),
        set table id ((data row).withVersion (row.version + 1))) := by
  have versionOk : expectedVersion.all (row.version == ·) = true := by
    cases expectedVersion with
    | none => rfl
    | some expected => simpa using current expected rfl
  rw [conditionalUpdate, updateMany_hit found (by rw [hit, versionOk]; rfl)]
  simp [findUnique_set, MutationResult.ofOption]

theorem conditionalUpdate_miss (miss : condition row = false)
    (current : ∀ expected, expectedVersion = some expected → row.version = expected) :
    conditionalUpdate source table id expectedVersion condition data = (.missed, table) := by
  rw [conditionalUpdate, updateMany_miss found (by rw [miss]; rfl)]
  cases expectedVersion with
  | none => rfl
  | some expected => simp [resolveMiss, found, current expected rfl]

theorem conditionalUpdate_stale {expected} (stale : row.version ≠ expected) :
    conditionalUpdate source table id (some expected) condition data =
      (.versionConflict id expected row.version, table) := by
  have noHit : (condition row && (some expected).all (row.version == ·)) = false := by simp [stale]
  rw [conditionalUpdate, updateMany_miss found noHit]
  simp [resolveMiss, found, stale]

end

end

end IntentTable

end VortexBackend
