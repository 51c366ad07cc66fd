/-
Module: VortexBackend.Proofs.SlashStoreAgreement
Purpose: The two stores of pending slashes agree, but for the stamp of a claim and for `undefined`.
Main exports: slash_stores_agree
-/
import VortexBackend.Proofs.SlashingSaga
import VortexBackend.Sequential.Run
import VortexBackend.Solvers.PrismaPendingSlashes

namespace VortexBackend

open PendingSlashTable Component

/-- A slash with the stamp of its last update, or without it. -/
def PendingSlash.upTo (stamped : Bool) (slash : PendingSlash) : PendingSlash :=
  if stamped then slash else { slash with updatedAt := 0 }

def SlashAnswer.upTo (stamped : Bool) : SlashAnswer → SlashAnswer
  | .created slash isNew => .created (slash.upTo stamped) isNew
  | .claimed taken => .claimed taken
  | .moved slash => .moved (slash.map (·.upTo stamped))

/-- The patch sets no field to `undefined` that the slash has. -/
structure PendingSlashPatch.Keeps (patch : PendingSlashPatch) (slash : PendingSlash) : Prop where
  txHash : patch.txHash = some none → slash.txHash = none
  submittedAt : patch.submittedAt = some none → slash.submittedAt = none
  confirmedAt : patch.confirmedAt = some none → slash.confirmedAt = none
  cancelledAt : patch.cancelledAt = some none → slash.cancelledAt = none
  cancelReason : patch.cancelReason = some none → slash.cancelReason = none
  cancelledBy : patch.cancelledBy = some none → slash.cancelledBy = none
  fillTxHash : patch.fillTxHash = some none → slash.fillTxHash = none
  lastError : patch.lastError = some none → slash.lastError = none

/-- The writes on which the stores agree: a transition that finds its row in one of its states clears no field of it,
    and a claim is made at the time that it passes. The second only matters for the stamp. -/
def SlashPortable (stamped : Bool) (store : SlashStore) : Nat × SlashOperation → Prop
  | (_, .createIfAbsent _) => True
  | (clock, .claim _ now _) => stamped = true → now = clock
  | (_, .transition intentId «from» patch _) =>
    ∀ slash, store.get intentId = some slash → slash.state ∈ «from» → patch.Keeps slash

/-! ### Rows and slashes -/

/-- The row stands for the slash, stamp included if it counts. -/
structure SameSlash (stamped : Bool) (row : PendingSlashRow) (slash : PendingSlash) : Prop where
  fields : slash = { row.fromRow with updatedAt := slash.updatedAt }
  stamps : stamped = true → slash.updatedAt = row.updatedAt

variable {patch : PendingSlashPatch}

namespace SameSlash

variable {stamped : Bool} {row : PendingSlashRow} {slash : PendingSlash}

theorem self (row : PendingSlashRow) : SameSlash stamped row row.fromRow := ⟨rfl, fun _ => rfl⟩

section

variable (same : SameSlash stamped row slash)
include same

theorem upTo : slash.upTo stamped = row.fromRow.upTo stamped := by
  rw [same.fields]
  cases stamped with
  | false => rfl
  | true =>
    rw [same.stamps rfl]
    rfl

theorem state : row.state = slash.state := by
  rw [same.fields]
  rfl

theorem isFree (now : Nat) : row.isFree now = slash.unlocked now := by
  have lock : row.lockedUntil = slash.lockedUntil := by
    rw [same.fields]
    rfl
  rw [PendingSlashRow.isFree, PendingSlash.unlocked, lock]
  cases slash.lockedUntil <;> rfl

end

theorem join_or {α : Type} {entry : Option (Option α)} {value : Option α}
    (keeps : entry = some none → value = none) : entry.getD value = entry.join.or value := by
  rcases entry with _ | _ | new
  · rfl
  · exact (keeps rfl).symm
  · rfl

theorem assign (same : SameSlash stamped row slash) (keeps : patch.Keeps slash) (clock : Nat) :
    slash.assign patch clock = (row.set patch.toData none clock).fromRow := by
  rw [PendingSlash.assign, join_or keeps.txHash, join_or keeps.submittedAt, join_or keeps.confirmedAt,
    join_or keeps.cancelledAt, join_or keeps.cancelReason, join_or keeps.cancelledBy, join_or keeps.fillTxHash,
    join_or keeps.lastError, same.fields]
  rfl

theorem lease (same : SameSlash stamped row slash) {now clock} (timely : stamped = true → now = clock)
    (leaseUntil : Nat) :
    SameSlash stamped (row.set {} (some leaseUntil) clock)
      { slash with lockedUntil := some leaseUntil, updatedAt := now } where
  fields := by
    rw [same.fields]
    rfl
  stamps := timely

end SameSlash

/-! ### Stores -/

/-- Every intent has a slash in both stores, with the same contents, or in neither. -/
def SlashesAgree (stamped : Bool) (store : SlashStore) (table : PendingSlashTable) : Prop :=
  ∀ id, Option.Rel (SameSlash stamped) (table.findUnique id) (store.get id)

namespace SlashesAgree

variable {stamped : Bool} {store : SlashStore} {table : PendingSlashTable}

theorem empty : SlashesAgree stamped .empty .empty := fun _ => .none

variable {row : PendingSlashRow} {slash : PendingSlash}

section

variable (agree : SlashesAgree stamped store table)
include agree

theorem at_id (id : String) :
    (table.findUnique id = none ∧ store.get id = none) ∨
      ∃ row slash, table.findUnique id = some row ∧ store.get id = some slash ∧ SameSlash stamped row slash := by
  have related := agree id
  generalize table.findUnique id = found, store.get id = stored at related ⊢
  cases related with
  | none => exact .inl ⟨rfl, rfl⟩
  | some same => exact .inr ⟨_, _, rfl, rfl, same⟩

theorem rows (id : String) : (store.get id).map (·.upTo stamped) = (table.findByIntent id).map (·.upTo stamped) := by
  unfold findByIntent
  rcases agree.at_id id with ⟨absent, absent'⟩ | ⟨row, slash, found, isStored, same⟩
  · rw [absent, absent']
    rfl
  · rw [found, isStored]
    exact congrArg some same.upTo

theorem put {id} (isId : slash.intentId = id) (same : SameSlash stamped row slash) :
    SlashesAgree stamped (store.put slash) (JsMap.set table id row) := by
  intro id'
  rw [findUnique_set, SlashStore.get_put, isId]
  split
  · exact .some same
  · exact agree id'

end

/-- The same answer, and stores that still agree. -/
def SameOutcome (stamped : Bool) (memory : SlashAnswer × SlashStore) (postgres : SlashAnswer × PendingSlashTable) :
    Prop :=
  memory.1.upTo stamped = postgres.1.upTo stamped ∧ SlashesAgree stamped memory.2 postgres.2

theorem createIfAbsent (agree : SlashesAgree stamped store table) (clock : Nat) (input : NewPendingSlash) :
    SameOutcome stamped (store.apply (clock, .createIfAbsent input)) (table.apply (clock, .createIfAbsent input)) := by
  rw [SlashStore.apply, PendingSlashTable.apply, SlashStore.createIfAbsent, PendingSlashTable.createIfAbsent]
  rcases agree.at_id input.intentId with ⟨absent, absent'⟩ | ⟨row, slash, found, isStored, same⟩
  · rw [absent, absent']
    exact ⟨rfl, agree.put rfl (.self _)⟩
  · rw [found, isStored]
    exact ⟨congrArg (SlashAnswer.created · false) same.upTo, agree⟩

theorem claim (agree : SlashesAgree stamped store table) {clock now} (timely : stamped = true → now = clock)
    (intentId : String) (leaseUntil : Nat) :
    SameOutcome stamped (store.apply (clock, .claim intentId now leaseUntil))
      (table.apply (clock, .claim intentId now leaseUntil)) := by
  rw [SlashStore.apply, PendingSlashTable.apply, SlashStore.claim, PendingSlashTable.claim]
  rcases agree.at_id intentId with ⟨absent, absent'⟩ | ⟨row, slash, found, isStored, same⟩
  · rw [absent', PendingSlashTable.updateMany_absent absent]
    exact ⟨rfl, agree⟩
  · rw [isStored]
    cases free : slash.unlocked now with
    | true =>
      rw [PendingSlashTable.updateMany_hit found ((same.isFree now).trans free)]
      have isId : slash.intentId = intentId := SlashStore.intentId_of_get isStored
      simp only [free, if_true]
      exact ⟨rfl, agree.put isId (same.lease timely leaseUntil)⟩
    | false =>
      rw [PendingSlashTable.updateMany_miss found ((same.isFree now).trans free)]
      simp only [free, Bool.false_eq_true, if_false]
      exact ⟨rfl, agree⟩

theorem guards_eq (same : SameSlash stamped row slash) («from» : List PendingSlashState) (now : Option Nat) :
    (decide (row.state ∈ «from») && now.all row.isFree) =
      (decide (slash.state ∈ «from») && now.all slash.unlocked) := by
  have free : row.isFree = slash.unlocked := funext same.isFree
  rw [same.state, free]

theorem transition (agree : SlashesAgree stamped store table) {intentId «from»}
    (keeps :
      ∀ slash, store.get intentId = some slash → slash.state ∈ «from» → patch.Keeps slash) (clock : Nat)
    (now : Option Nat) :
    SameOutcome stamped (store.apply (clock, .transition intentId «from» patch now))
      (table.apply (clock, .transition intentId «from» patch now)) := by
  rw [SlashStore.apply, PendingSlashTable.apply, PendingSlashTable.transition]
  rcases agree.at_id intentId with ⟨absent, absent'⟩ | ⟨row, slash, found, isStored, same⟩
  · rw [SlashStore.transition, absent', PendingSlashTable.updateMany_absent absent]
    exact ⟨rfl, agree⟩
  · have guards := guards_eq same «from» now
    cases allowed : decide (slash.state ∈ «from») && now.all slash.unlocked with
    | true =>
      have isId : slash.intentId = intentId := SlashStore.intentId_of_get isStored
      obtain ⟨isFrom, free⟩ := Bool.and_eq_true_iff.mp allowed
      have isFrom := of_decide_eq_true isFrom
      have written := same.assign (keeps slash isStored isFrom) clock
      have moved : store.transition intentId «from» patch now clock =
          (some (slash.assign patch clock), store.put (slash.assign patch clock)) := by
        have notLocked : (now.any fun time => !slash.unlocked time) = false := by
          cases now with
          | none => rfl
          | some time => simpa using free
        simp [SlashStore.transition, isStored, isFrom, notLocked]
      rw [moved, PendingSlashTable.updateMany_hit found (guards.trans allowed)]
      simp only [Nat.one_ne_zero, if_false, PendingSlashTable.findByIntent, PendingSlashTable.findUnique_set,
        if_true, Option.map_some, written]
      exact ⟨rfl, agree.put ((congrArg PendingSlash.intentId written).symm.trans isId) (.self _)⟩
    | false =>
      have missed : store.transition intentId «from» patch now clock = (none, store) := by
        have refused : slash.state ∈ «from» → (now.any fun time => !slash.unlocked time) = true := by
          intro isFrom
          rw [decide_eq_true isFrom, Bool.true_and] at allowed
          cases now with
          | none => cases allowed
          | some time => simpa using allowed
        rw [SlashStore.transition, isStored]
        by_cases isFrom : slash.state ∈ «from»
        · simp [isFrom, refused isFrom]
        · simp [isFrom]
      rw [missed, PendingSlashTable.updateMany_miss found (guards.trans allowed)]
      exact ⟨rfl, agree⟩

end SlashesAgree

/-! ### Whole sequences -/

/-- Started empty, the stores answer every write of a sequence alike and hold the same slashes afterwards. -/
theorem slash_stores_agree (stamped : Bool) (ops : List (Nat × SlashOperation))
    (portable : Component.Meets SlashStore.apply (fun _ => SlashPortable stamped) [] .empty ops) :
    let memory := run SlashStore.apply .empty ops
    let postgres := run apply .empty ops
    memory.1.map (·.upTo stamped) = postgres.1.map (·.upTo stamped) ∧
      ∀ id, (memory.2.get id).map (·.upTo stamped) = (postgres.2.findByIntent id).map (·.upTo stamped) := by
  have one (_ : List SlashStore) (store : SlashStore) (table : PendingSlashTable) (op : Nat × SlashOperation)
      (agree : SlashesAgree stamped store table) (portable : SlashPortable stamped store op) :
      SlashesAgree.SameOutcome stamped (store.apply op) (table.apply op) := by
    obtain ⟨clock, op⟩ := op
    cases op with
    | createIfAbsent input => exact agree.createIfAbsent clock input
    | claim intentId now leaseUntil => exact agree.claim portable intentId leaseUntil
    | transition intentId «from» patch now => exact agree.transition portable clock now
  obtain ⟨sameAnswers, agree⟩ := run_simulates (SlashesAgree stamped) _ _ one ops [] _ _ .empty portable
  exact ⟨sameAnswers, agree.rows⟩

/-- A slash is recorded, opened, leased and submitted. -/
private def submission : List (Nat × SlashOperation) :=
  [(0, .createIfAbsent ⟨"I", "S", "late", 0, 0, 600000⟩),
    (0, .transition "I" [.detected] { state := some .challengeWindow } none),
    (700000, .claim "I" 700000 820000),
    (700001, .transition "I" [.challengeWindow] (SlashingPipeline.submittedPatch ⟨true, false, some "T", ""⟩ 700000)
      none)]

theorem submission_agrees : let memory := run SlashStore.apply .empty submission
    let postgres := run apply .empty submission
    memory.1 = postgres.1 ∧ (memory.2.get "I").map (·.txHash) = some (some "T") ∧
      memory.2.get "I" = postgres.2.findByIntent "I" := by
  have portable : Component.Meets SlashStore.apply (fun _ => SlashPortable true) [] .empty submission := by
    refine ⟨trivial, ?_, fun _ => rfl, ?_, trivial⟩
    · intro slash _ _
      constructor <;> nofun
    · rintro slash ⟨⟩ _
      constructor <;> decide
  obtain ⟨answers, rows⟩ := slash_stores_agree true submission portable
  have whole : (PendingSlash.upTo true) = id := rfl
  have wholeAnswer : SlashAnswer.upTo true = id := by
    funext answer
    cases answer <;> simp [SlashAnswer.upTo, whole]
  rw [wholeAnswer, List.map_id, List.map_id] at answers
  have row := rows "I"
  rw [whole, Option.map_id, id, id] at row
  exact ⟨answers, by decide, row⟩

/-! ### What the pipeline writes -/

/-- The write of a step, with the time at which it is made. -/
def slashOperation (t : BackendTransition) : Option (Nat × SlashOperation) :=
  match t.event with
  | some ⟨_, .slashes (.createIfAbsent input), _⟩ => some (t.before.world.clock, .createIfAbsent input)
  | some ⟨_, .slashes (.claim intentId now leaseUntil), _⟩ =>
    some (t.before.world.clock, .claim intentId now leaseUntil)
  | some ⟨_, .slashes (.transition intentId «from» patch now), _⟩ =>
    some (t.before.world.clock, .transition intentId «from» patch now)
  | _ => none

/-- The writes of a run, in order. -/
def slashOperations (ts : List BackendTransition) : List (Nat × SlashOperation) :=
  ts.reverse.filterMap slashOperation

/-- Without the condition: a look for a fill fails, and then an admin cancels the slash. The cancellation sets
    `lastError` to `undefined`; the Postgres row keeps the error. -/
theorem lastError_not_cleared :
    ∃ ts c, Run (backendService {}) (slashingSetting fun _ _ _ => true) ts c ∧
      let memory := (run SlashStore.apply .empty (slashOperations ts)).2.get "I"
      let postgres := (run apply .empty (slashOperations ts)).2.findByIntent "I"
      memory = c.world.slashes.get "I" ∧ memory.map (·.lastError) = some none ∧
        postgres.map (·.lastError) = some (some "fill re-verification failed: down") := by
  obtain ⟨ts, c, run, differ⟩ := Run.exists_of_trace (backendService {}) (slashingSetting fun _ _ _ => true)
    { clock := 700000 }
    (List.flatten [.arrive (.detect ⟨"I", "S", "late", 0, 0⟩) :: List.replicate 7 (.act 0 {}),
      .arrive (.processDue 0) :: List.replicate 8 (.act 1 {}),
      .act 1 { throws := some (.other "down" false) } :: List.replicate 4 (.act 1 {}),
      .arrive (.cancelByAdmin "I" "admin" "bad evidence") :: List.replicate 8 (.act 2 {})])
    (fun ts c =>
      let memory := (run SlashStore.apply .empty (slashOperations ts)).2.get "I"
      let postgres := (run apply .empty (slashOperations ts)).2.findByIntent "I"
      memory == c.world.slashes.get "I" && memory.map (·.lastError) == some none &&
        postgres.map (·.lastError) == some (some "fill re-verification failed: down")) trivial
    (by simp [slashingSetting]) (by decide)
  simp only [Bool.and_eq_true, beq_iff_eq] at differ
  exact ⟨ts, c, run, differ.1.1, differ.1.2, differ.2⟩

end VortexBackend
