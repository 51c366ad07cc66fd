/-
Module: VortexBackend.Proofs.AdapterAgreement
Purpose: The adapter simulates the in-memory store, but for the deadline of an amendment and for `undefined`.
Main exports: adapters_agree
-/
import VortexBackend.Intents.PrismaRepository
import VortexBackend.Sequential.Run

namespace VortexBackend

open MutationResult IntentTable IntentStore Intent Component

/-- What the adapters must agree on. -/
structure IntentTerms where
  state : IntentState
  solver : Option String
  deadline : Nat
  minDstAmount : String
  version : Nat
deriving Repr, DecidableEq

def Intent.terms (intent : Intent) : IntentTerms :=
  ⟨intent.state, intent.solver, intent.deadline, intent.minDstAmount, intent.currentVersion⟩

/-- An answer up to the other fields of the record it carries. -/
inductive Classification where
  | updated (terms : IntentTerms)
  | null
  | versionConflict (intentId : String) (expectedVersion actualVersion : Nat)
deriving Repr, DecidableEq

def MutationResult.classify : MutationResult → Classification
  | .written intent => .updated intent.terms
  | .missed => .null
  | .versionConflict intentId expected actual => .versionConflict intentId expected actual

/-! ### Rows and records -/

/-- The row stands for the record. -/
structure Matches (row : IntentRow) (intent : Intent) : Prop where
  state : row.state = intent.state
  solver : row.solver = intent.solver
  deadline : row.deadline = intent.deadline
  deadlineTs : row.deadlineTs = some (epochToDate intent.deadline)
  minDstAmount : row.minDstAmount = intent.minDstAmount
  version : row.version = intent.currentVersion

theorem readEpoch_inStep (source : TimestampReadSource) (seconds : Nat) :
    readEpoch source (some seconds) (some (epochToDate seconds)) = some seconds := by
  cases source with
  | epoch => rfl
  | timestamptz => simp [readEpoch, dateToEpoch, epochToDate]

namespace Matches

variable {row : IntentRow} {intent : Intent}

section

variable (m : Matches row intent) (source : TimestampReadSource)
include m source

theorem terms_fromRow : (fromRow source row).terms = intent.terms := by
  simp [terms, fromRow, currentVersion, m.state, m.solver, m.deadline, m.deadlineTs,
    m.minDstAmount, m.version, readEpoch_inStep]

theorem deadlineAfter_eq (bound : Nat) : deadlineAfter source bound row = decide (bound < intent.deadline) := by
  cases source with
  | epoch => simp [deadlineAfter, m.deadline]
  | timestamptz => simp [deadlineAfter, m.deadlineTs, epochToDate]

theorem deadlineBefore_eq (bound : Nat) : deadlineBefore source bound row = decide (intent.deadline < bound) := by
  cases source with
  | epoch => simp [deadlineBefore, m.deadline]
  | timestamptz => simp [deadlineBefore, m.deadlineTs, epochToDate]

end

theorem toDbData (intent : Intent) (row : IntentRow) : Matches (toDbData intent row) intent where
  state := rfl
  solver := rfl
  deadline := rfl
  deadlineTs := rfl
  minDstAmount := rfl
  version := rfl

/-- A patch acts on both sides alike, unless it sets the solver to `undefined`. -/
theorem assign (m : Matches row intent) {patch} (defined : patch.solver ≠ some none) :
    Matches ((toDbPatch patch row).withVersion row.version) (intent.assign patch) where
  state := by simp [IntentRow.withVersion, toDbPatch, Intent.assign, m.state]
  solver := by
    rcases isSolver : patch.solver with _ | _ | solver
    · simp [IntentRow.withVersion, toDbPatch, Intent.assign, isSolver, m.solver]
    · exact absurd isSolver defined
    · simp [IntentRow.withVersion, toDbPatch, Intent.assign, isSolver]
  deadline := by simp [IntentRow.withVersion, toDbPatch, Intent.assign, m.deadline]
  deadlineTs := by cases h : patch.deadline <;> simp [IntentRow.withVersion, toDbPatch, Intent.assign, h, m.deadlineTs]
  minDstAmount := by simp [IntentRow.withVersion, toDbPatch, Intent.assign, m.minDstAmount]
  version := m.version

theorem bump (m : Matches row intent) {row' : IntentRow} {apply : Intent → Intent}
    (changed : Matches (row'.withVersion row.version) (apply intent)) :
    Matches (row'.withVersion (row.version + 1)) (bumped intent apply) where
  __ := changed
  version := by simp [IntentRow.withVersion, bumped, currentVersion, m.version]

end Matches

/-! ### Stores -/

/-- Every intent is in both stores, with matching contents, or in neither. -/
def Agree (store : IntentStore) (table : IntentTable) : Prop :=
  ∀ id, Option.Rel Matches (table.findUnique id) (store.get id)

namespace Agree

variable {store : IntentStore} {table : IntentTable} {source : TimestampReadSource}

theorem empty : Agree .empty .empty := fun _ => .none

theorem at_id (agree : Agree store table) (id : String) :
    (table.findUnique id = none ∧ store.get id = none) ∨
      ∃ row intent, table.findUnique id = some row ∧ store.get id = some intent ∧ Matches row intent := by
  have related := agree id
  generalize table.findUnique id = found, store.get id = stored at related ⊢
  cases related with
  | none => exact .inl ⟨rfl, rfl⟩
  | some same => exact .inr ⟨_, _, rfl, rfl, same⟩

theorem terms (agree : Agree store table) (source : TimestampReadSource) (id : String) :
    (store.get id).map terms = (table.findById source id).map terms := by
  unfold findById
  rcases agree.at_id id with ⟨absent, absent'⟩ | ⟨row, intent, found, present, m⟩
  · rw [absent, absent']
    rfl
  · rw [found, present]
    exact congrArg some (m.terms_fromRow source).symm

/-- The same answer, and stores that still agree. -/
def SameOutcome (memory : MutationResult × IntentStore) (postgres : MutationResult × IntentTable) : Prop :=
  memory.1.classify = postgres.1.classify ∧ Agree memory.2 postgres.2

section

variable (agree : Agree store table)
include agree

theorem put {row intent id} (isId : intent.intentId = id) (m : Matches row intent) :
    Agree (store.put intent) (JsMap.set table id row) := by
  intro id'
  rw [findUnique_set, get_put, isId]
  split
  · exact .some m
  · exact agree id'

theorem conditionalUpdate {id : String} {expectedVersion : Option Nat} {condition : IntentRow → Bool}
    {data : IntentRow → IntentRow} {guard : Intent → Bool} {apply : Intent → Intent}
    (sameGuard : ∀ row intent, Matches row intent → condition row = guard intent)
    (sameChange : ∀ row intent, Matches row intent → Matches ((data row).withVersion row.version) (apply intent)) :
    SameOutcome (store.mutate id expectedVersion guard apply)
      (conditionalUpdate source table id expectedVersion condition data) := by
  rcases agree.at_id id with ⟨absent, absent'⟩ | ⟨row, intent, found, present, m⟩
  · rw [conditionalUpdate_absent absent, mutate, absent']
    exact ⟨rfl, agree⟩
  · by_cases current : ∀ expected, expectedVersion = some expected → row.version = expected
    · rw [store.mutate_of_current present (m.version ▸ current)]
      have same := sameGuard row intent m
      by_cases guarded : guard intent = true
      · have changed := m.bump (sameChange row intent m)
        rw [if_pos guarded, conditionalUpdate_hit found (same.trans guarded) current]
        constructor
        · exact congrArg Classification.updated (changed.terms_fromRow source).symm
        · have isId : intent.intentId = id := intentId_of_get present
          exact agree.put isId changed
      · rw [if_neg guarded, conditionalUpdate_miss found _ current]
        · exact ⟨rfl, agree⟩
        · rw [same]
          exact Bool.eq_false_iff.mpr guarded
    · -- A stale version: both report the version they found.
      push Not at current
      obtain ⟨expected, rfl, stale⟩ := current
      rw [store.mutate_of_stale present (m.version ▸ stale), conditionalUpdate_stale found stale]
      exact ⟨by rw [m.version], agree⟩

theorem save (intent : Intent) : Agree (store.put intent) (table.upsert intent) := by
  unfold upsert
  split
  · exact agree.put rfl (.toDbData intent _)
  · exact agree.put rfl (.toDbData intent _)

theorem amendIfOpen (id minDstAmount : String) {deadline now} (future : now < deadline) :
    SameOutcome (store.apply (.amendIfOpen id minDstAmount deadline now))
      (table.apply source (.amendIfOpen id minDstAmount deadline now)) := by
  simp only [IntentStore.apply, IntentTable.apply]
  rcases agree.at_id id with ⟨absent, absent'⟩ | ⟨row, intent, found, present, m⟩
  · rw [IntentTable.amendIfOpen, IntentTable.updateMany_absent absent, IntentStore.amendIfOpen, absent']
    exact ⟨rfl, agree⟩
  · by_cases allowed : intent.state = .open ∧ now < intent.deadline
    · have hit : (row.state == .open && IntentTable.deadlineAfter source now row) = true := by
        simp [m.state, m.deadlineAfter_eq, allowed]
      have changed : Matches { row with minDstAmount, deadline, deadlineTs := some (epochToDate deadline) }
          { intent with minDstAmount, deadline } :=
        ⟨m.state, m.solver, rfl, rfl, rfl, m.version⟩
      have notRefused : ¬(intent.state ≠ .open ∨ intent.deadline ≤ now ∨ deadline ≤ now) := by
        simp only [allowed.1, ne_eq, not_true_eq_false, false_or]
        omega
      rw [IntentTable.amendIfOpen, IntentTable.updateMany_hit found hit, IntentStore.amendIfOpen, present]
      simp only [if_neg notRefused, Nat.one_ne_zero, if_false, IntentTable.findUnique_set, if_true,
        Option.map_some, ofOption]
      constructor
      · exact congrArg Classification.updated (changed.terms_fromRow source).symm
      · have isId : intent.intentId = id := IntentStore.intentId_of_get present
        exact agree.put isId changed
    · have miss : (row.state == .open && IntentTable.deadlineAfter source now row) = false := by
        rw [m.deadlineAfter_eq, m.state]
        simpa using allowed
      have refused : intent.state ≠ .open ∨ intent.deadline ≤ now ∨ deadline ≤ now := by
        by_cases isOpen : intent.state = .open
        · exact .inr (.inl (Nat.le_of_not_lt fun live => allowed ⟨isOpen, live⟩))
        · exact .inl isOpen
      rw [IntentTable.amendIfOpen, IntentTable.updateMany_miss found miss, IntentStore.amendIfOpen, present]
      simp only [if_pos refused, if_true]
      exact ⟨rfl, agree⟩

end

end Agree

/-! ### Whole histories -/

/-- The operations on which the adapters agree: an amendment sets a deadline in the future, and no patch sets
    the solver to `undefined`. -/
def Portable : IntentsOperation → Prop
  | .amendIfOpen _ _ deadline now => now < deadline
  | .update _ patch _ | .transitionIf _ _ _ patch => patch.solver ≠ some none
  | _ => True

/-- One operation gets the same answer from stores that agree, and they still agree after it. -/
theorem Agree.apply {store table} (agree : Agree store table) (source : TimestampReadSource) {op}
    (portable : Portable op) : Agree.SameOutcome (store.apply op) (table.apply source op) := by
  cases op with
  | save intent => exact ⟨rfl, agree.save intent⟩
  | amendIfOpen id minDstAmount deadline now => exact agree.amendIfOpen id minDstAmount portable
  | update id patch expectedVersion =>
    exact agree.conditionalUpdate (fun _ _ _ => rfl) fun row intent m => m.assign portable
  | acceptIfOpen id solver newDeadline now expectedVersion =>
    apply agree.conditionalUpdate
    · intro row intent m
      rw [m.state, m.deadlineAfter_eq]
    · intro row intent m
      exact ⟨rfl, rfl, rfl, rfl, m.minDstAmount, m.version⟩
  | fillIfAccepted id solver patch now expectedVersion =>
    apply agree.conditionalUpdate
    · intro row intent m
      rw [m.state, m.solver, m.deadlineAfter_eq]
    · intro row intent m
      exact { m with state := rfl }
  | extendDeadlineIfAccepted id newDeadline expectedVersion =>
    apply agree.conditionalUpdate
    · intro row intent m
      rw [m.state, m.deadlineBefore_eq]
    · intro row intent m
      exact { m with deadline := rfl, deadlineTs := rfl }
  | cancelIfOpen | expireIfOpen | slashIfAccepted =>
    apply agree.conditionalUpdate
    · intro row intent m
      rw [m.state]
    · intro row intent m
      exact { m with state := rfl }
  | transitionIf id «from» «to» patch =>
    apply agree.conditionalUpdate
    · intro row intent m
      rw [m.state]
    · intro row intent m
      have defined : { patch with state := some «to» }.solver ≠ some none := portable
      exact { m.assign defined with }

/-- Started empty, the adapters classify every operation of a history alike and afterwards agree on the state,
    solver, deadline, minimum and version of every intent, whichever timestamp column is read. -/
theorem adapters_agree (source : TimestampReadSource) (ops : List IntentsOperation)
    (portable : ∀ op ∈ ops, Portable op) :
    let memory := run apply .empty ops
    let postgres := run (apply source) .empty ops
    memory.1.map classify = postgres.1.map classify ∧
      ∀ id, (memory.2.get id).map terms = (postgres.2.findById source id).map terms := by
  have one (store : IntentStore) (table : IntentTable) (op : IntentsOperation) (agree : Agree store table)
      (portable : Portable op) : Agree.SameOutcome (store.apply op) (table.apply source op) :=
    agree.apply source portable
  obtain ⟨sameAnswers, agree⟩ := run_agree Agree classify classify
    Portable one ops _ _ .empty portable
  exact ⟨sameAnswers, fun id => agree.terms source id⟩

/-- An open intent. -/
private def storedOpen : Intent where
  intentId := "intent-1"
  user := "G1"
  srcChain := .stellar
  srcToken := ⟨"C1", "XLM", 7⟩
  srcAmount := "100"
  dstToken := ⟨"C2", "USDC", 7⟩
  minDstAmount := "90"
  createdAt := 0
  deadline := 200

/-- Create, amend, accept at the version seen, and try a stale fill. -/
theorem adapters_agree_on_lifecycle : let ops : List IntentsOperation :=
      [.save storedOpen, .amendIfOpen "intent-1" "80" 300 100, .acceptIfOpen "intent-1" "S" 400 150 (some 0),
        .fillIfAccepted "intent-1" "S" {} 160 (some 0)]
    (run apply .empty ops).1.map classify =
        (run (apply .timestamptz) .empty ops).1.map classify ∧
      (run apply .empty ops).1.map classify =
        [.updated ⟨.open, none, 200, "90", 0⟩, .updated ⟨.open, none, 300, "80", 0⟩,
          .updated ⟨.accepted, some "S", 400, "80", 1⟩, .versionConflict "intent-1" 0 1] := by
  constructor
  · exact (adapters_agree .timestamptz _ (by simp [Portable])).1
  · decide

/-- An amendment to a deadline that has passed is refused in memory and written by the Postgres adapter. -/
theorem past_deadline_amended :
    let ops : List IntentsOperation := [.save storedOpen, .amendIfOpen "intent-1" "80" 50 100]
    (run apply .empty ops).1.map classify =
        [.updated ⟨.open, none, 200, "90", 0⟩, .null] ∧
      (run (apply .epoch) .empty ops).1.map classify =
        [.updated ⟨.open, none, 200, "90", 0⟩, .updated ⟨.open, none, 50, "80", 0⟩] := by
  decide

end VortexBackend
