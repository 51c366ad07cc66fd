/-
Module: VortexBackend.Intents.Repository
Purpose: The in-memory intent store. Every write but `amendIfOpen` bumps the version.
Trusted boundary: the search endpoint and the demo seed are left out
Main exports: IntentStore, IntentStore.mutate, MutationResult
-/
import VortexBackend.Intents.Types
import VortexBackend.Js.Map
import Mathlib.Data.List.Sort

namespace VortexBackend

/-- The updated intent, `null`, or a `VersionConflict`. -/
inductive MutationResult where
  | written (intent : Intent)
  | missed
  | versionConflict (intentId : String) (expectedVersion actualVersion : Nat)
deriving Repr, DecidableEq

/-- `written(result)`: a conflict counts as no match. -/
def MutationResult.toOption : MutationResult → Option Intent
  | .written intent => some intent
  | _ => none

variable {result : MutationResult}

theorem MutationResult.toOption_eq_some {intent} : result.toOption = some intent ↔ result = .written intent := by
  cases result <;> simp [toOption]

/-- The stored intents; each is stored under its own id. -/
structure IntentStore where
  rows : JsMap String Intent
  keyed : ∀ id intent, rows.get id = some intent → intent.intentId = id

namespace IntentStore

def empty : IntentStore := ⟨.empty, by simp⟩

/-- `findById` -/
def get (store : IntentStore) (id : String) : Option Intent := store.rows.get id

variable (store : IntentStore)

/-- `store.set(id, intent)` for an intent of that id. -/
def put (intent : Intent) : IntentStore where
  rows := store.rows.set intent.intentId intent
  keyed := by
    intro id other h
    rw [JsMap.get_set] at h
    split at h
    · rename_i same
      cases h
      exact same.symm
    · exact store.keyed id other h

def save (intent : Intent) : Intent × IntentStore := (intent, store.put intent)

/-- All intents, newest first. -/
def findAll : List Intent :=
  store.rows.values.insertionSort fun a b => b.createdAt ≤ a.createdAt

def findByState (state : IntentState) : List Intent :=
  store.findAll.filter (·.state == state)

def findByUser (user : String) : List Intent :=
  store.findAll.filter (·.user.toLower == user.toLower)

def delete (store : IntentStore) (id : String) : Bool × IntentStore :=
  ((store.get id).isSome,
    { rows := store.rows.delete id
      keyed := by
        intro id' intent h
        rw [JsMap.get_delete] at h
        split at h
        · cases h
        · exact store.keyed id' intent h })

/-- Shared check-and-write. -/
def mutate (id : String) (expectedVersion : Option Nat) (guard : Intent → Bool)
    (apply : Intent → Intent) : MutationResult × IntentStore :=
  match store.get id with
  | none => (.missed, store)
  | some existing =>
    match expectedVersion with
    | some expected =>
      if existing.currentVersion ≠ expected then
        (.versionConflict id expected existing.currentVersion, store)
      else write existing
    | none => write existing
where
  write (existing : Intent) : MutationResult × IntentStore :=
    if guard existing then
      let updated := { apply existing with intentId := id, version := some (existing.currentVersion + 1) }
      (.written updated, store.put updated)
    else (.missed, store)

/-! ### The guarded methods -/

def update (id : String) (patch : IntentPatch) (expectedVersion : Option Nat) : MutationResult × IntentStore :=
  store.mutate id expectedVersion (fun _ => true) (·.assign patch)

/-- Writes without bumping the version. -/
def amendIfOpen (id minDstAmount : String) (deadline now : Nat) : Option Intent × IntentStore :=
  match store.get id with
  | none => (none, store)
  | some existing =>
    if existing.state ≠ .open ∨ existing.deadline ≤ now ∨ deadline ≤ now then (none, store)
    else
      let updated := { existing with minDstAmount, deadline }
      (some updated, store.put updated)

def acceptIfOpen (id solver : String) (newDeadline now : Nat)
    (expectedVersion : Option Nat) : MutationResult × IntentStore :=
  store.mutate id expectedVersion (fun i => i.state == .open && now < i.deadline) fun i =>
    { i with state := .accepted, solver := some solver, deadline := newDeadline }

def fillIfAccepted (id solver : String) (patch : IntentPatch) (now : Nat)
    (expectedVersion : Option Nat) : MutationResult × IntentStore :=
  store.mutate id expectedVersion
    (fun i => i.state == .accepted && i.solver == some solver && now < i.deadline) fun i =>
    { i.assign patch with state := .filled }

def extendDeadlineIfAccepted (id : String) (newDeadline : Nat)
    (expectedVersion : Option Nat) : MutationResult × IntentStore :=
  store.mutate id expectedVersion (fun i => i.state == .accepted && i.deadline < newDeadline) fun i =>
    { i with deadline := newDeadline }

def cancelIfOpen (id : String) (expectedVersion : Option Nat) : MutationResult × IntentStore :=
  store.mutate id expectedVersion (·.state == .open) fun i => { i with state := .cancelled }

def expireIfOpen (id : String) (expectedVersion : Option Nat) : MutationResult × IntentStore :=
  store.mutate id expectedVersion (·.state == .open) fun i => { i with state := .expired }

def slashIfAccepted (id : String) (slashedAt : Nat) (slashReason : String)
    (expectedVersion : Option Nat) : MutationResult × IntentStore :=
  store.mutate id expectedVersion (·.state == .accepted) fun i =>
    { i with slashedAt := some slashedAt, slashReason := some slashReason, state := .slashed }

def transitionIf (id : String) («from» «to» : IntentState) (patch : IntentPatch) : MutationResult × IntentStore :=
  store.mutate id none (·.state == «from») fun i => { i.assign patch with state := «to» }

end IntentStore

/-! ### The operations of the contract -/

/-- `Pick<Partial<Intent>, "filledAt" | "fillAmount" | "feeAmount" | "txHash">` -/
structure FillFields where
  filledAt : Option (Option Nat) := none
  fillAmount : Option (Option String) := none
  feeAmount : Option (Option String) := none
  txHash : Option (Option String) := none
deriving Repr, DecidableEq

/-- The same fields as a patch of the whole record. -/
def FillFields.toPatch (fields : FillFields) : IntentPatch where
  filledAt := fields.filledAt
  fillAmount := fields.fillAmount
  feeAmount := fields.feeAmount
  txHash := fields.txHash

/-- The writing methods that every adapter of the store has, with the time they are called at. -/
inductive IntentsOperation where
  | save (intent : Intent)
  | update (id : String) (patch : IntentPatch) (expectedVersion : Option Nat)
  | amendIfOpen (id minDstAmount : String) (deadline now : Nat)
  | acceptIfOpen (id solver : String) (newDeadline now : Nat) (expectedVersion : Option Nat)
  | fillIfAccepted (id solver : String) (patch : FillFields) (now : Nat) (expectedVersion : Option Nat)
  | extendDeadlineIfAccepted (id : String) (newDeadline : Nat) (expectedVersion : Option Nat)
  | cancelIfOpen (id : String) (expectedVersion : Option Nat)
  | expireIfOpen (id : String) (expectedVersion : Option Nat)
  | slashIfAccepted (id : String) (slashedAt : Nat) (slashReason : String) (expectedVersion : Option Nat)
  | transitionIf (id : String) («from» «to» : IntentState) (patch : IntentPatch)
deriving Inhabited

/-- `Intent | null` as a result. -/
def MutationResult.ofOption : Option Intent → MutationResult
  | some intent => .written intent
  | none => .missed

namespace IntentStore

/-- One operation on the in-memory store. -/
def apply (store : IntentStore) : IntentsOperation → MutationResult × IntentStore
  | .save intent => (.written (store.save intent).1, (store.save intent).2)
  | .update id patch expectedVersion => store.update id patch expectedVersion
  | .amendIfOpen id minDstAmount deadline now =>
    (.ofOption (store.amendIfOpen id minDstAmount deadline now).1,
      (store.amendIfOpen id minDstAmount deadline now).2)
  | .acceptIfOpen id solver newDeadline now expectedVersion =>
    store.acceptIfOpen id solver newDeadline now expectedVersion
  | .fillIfAccepted id solver patch now expectedVersion =>
    store.fillIfAccepted id solver patch.toPatch now expectedVersion
  | .extendDeadlineIfAccepted id newDeadline expectedVersion =>
    store.extendDeadlineIfAccepted id newDeadline expectedVersion
  | .cancelIfOpen id expectedVersion => store.cancelIfOpen id expectedVersion
  | .expireIfOpen id expectedVersion => store.expireIfOpen id expectedVersion
  | .slashIfAccepted id slashedAt slashReason expectedVersion =>
    store.slashIfAccepted id slashedAt slashReason expectedVersion
  | .transitionIf id «from» «to» patch => store.transitionIf id «from» «to» patch

/-! ### Lemmas -/

@[simp] theorem get_empty (id : String) : empty.get id = none := rfl

theorem get_put (store : IntentStore) (intent : Intent) (id : String) :
    (store.put intent).get id = if id = intent.intentId then some intent else store.get id :=
  JsMap.get_set _ _ _ _

theorem get_delete (store : IntentStore) (id id' : String) :
    (store.delete id).2.get id' = if id' = id then none else store.get id' :=
  JsMap.get_delete _ _ _

variable {store : IntentStore} {id : String} {intent : Intent} {guard : Intent → Bool}
  {apply : Intent → Intent}

theorem intentId_of_get (h : store.get id = some intent) : intent.intentId = id :=
  store.keyed id intent h

theorem mem_findAll : intent ∈ store.findAll ↔ store.get intent.intentId = some intent := by
  rw [findAll, List.mem_insertionSort, JsMap.mem_values]
  constructor
  · rintro ⟨id, h⟩
    rwa [get, store.keyed id intent h]
  · exact fun h => ⟨intent.intentId, h⟩

theorem mem_findByState {state} :
    intent ∈ store.findByState state ↔ store.get intent.intentId = some intent ∧ intent.state = state := by
  rw [findByState, List.mem_filter, mem_findAll, beq_iff_eq]

/-- What a guarded method writes over an intent. -/
def bumped (existing : Intent) (apply : Intent → Intent) : Intent :=
  { apply existing with
    intentId := existing.intentId, version := some (existing.currentVersion + 1) }

variable {expectedVersion : Option Nat} {existing : Intent}

theorem mutate_of_current (store : IntentStore) (present : store.get id = some existing)
    (current : ∀ expected, expectedVersion = some expected → existing.currentVersion = expected) :
    store.mutate id expectedVersion guard apply =
      if guard existing then (.written (bumped existing apply), store.put (bumped existing apply))
      else (.missed, store) := by
  have isId := intentId_of_get present
  cases expectedVersion with
  | none => simp only [mutate, present, mutate.write, bumped, isId]
  | some expected =>
    simp only [mutate, present, current expected rfl, ne_eq, not_true_eq_false, if_false, mutate.write,
      bumped, isId]

theorem mutate_of_stale (store : IntentStore) {expected} (present : store.get id = some existing)
    (stale : existing.currentVersion ≠ expected) :
    store.mutate id (some expected) guard apply = (.versionConflict id expected existing.currentVersion, store) := by
  simp only [mutate, present, if_pos stale]

theorem transitionIf_leaves (store : IntentStore) {«from» «to» patch} (other : «to» ≠ «from»)
    (present : (store.transitionIf id «from» «to» patch).2.get id = some intent) : intent.state ≠ «from» := by
  rw [transitionIf] at present
  cases found : store.get id with
  | none =>
    simp only [mutate, found] at present
    cases present
  | some existing =>
    have current : ∀ expected, none = some expected → existing.currentVersion = expected := nofun
    rw [store.mutate_of_current found current] at present
    by_cases isFrom : existing.state = «from»
    · rw [if_pos (beq_iff_eq.mpr isFrom), get_put, if_pos] at present
      · cases present
        exact other
      · exact (intentId_of_get found).symm
    · rw [if_neg (mt beq_iff_eq.mp isFrom), found] at present
      cases present
      exact isFrom

variable {store' : IntentStore}

theorem mutate_cases (h : store.mutate id expectedVersion guard apply = (result, store')) :
    (result.toOption = none ∧ store' = store) ∨
      ∃ existing, store.get id = some existing ∧ guard existing = true ∧
        (∀ expected, expectedVersion = some expected → existing.currentVersion = expected) ∧
        result = .written (bumped existing apply) ∧ store' = store.put (bumped existing apply) := by
  cases present : store.get id with
  | none =>
    simp only [mutate, present] at h
    cases h
    exact .inl ⟨rfl, rfl⟩
  | some existing =>
    by_cases current : ∀ expected, expectedVersion = some expected → existing.currentVersion = expected
    · rw [store.mutate_of_current present current] at h
      split at h
      · rename_i guarded
        cases h
        exact .inr ⟨existing, rfl, guarded, current, rfl, rfl⟩
      · cases h
        exact .inl ⟨rfl, rfl⟩
    · push Not at current
      obtain ⟨expected, rfl, stale⟩ := current
      rw [store.mutate_of_stale present stale] at h
      cases h
      exact .inl ⟨rfl, rfl⟩

theorem amendIfOpen_cases {minDstAmount deadline now result}
    (h : store.amendIfOpen id minDstAmount deadline now = (result, store')) :
    (result = none ∧ store' = store) ∨
      ∃ existing, store.get id = some existing ∧ existing.state = .open ∧ now < existing.deadline ∧
        now < deadline ∧ result = some { existing with minDstAmount, deadline } ∧
        store' = store.put { existing with minDstAmount, deadline } := by
  unfold amendIfOpen at h
  split at h
  · cases h
    exact .inl ⟨rfl, rfl⟩
  · rename_i existing present
    split at h
    · cases h
      exact .inl ⟨rfl, rfl⟩
    · rename_i allowed
      cases h
      push Not at allowed
      exact .inr ⟨existing, present, allowed.1, allowed.2.1, allowed.2.2, rfl, rfl⟩

end IntentStore

end VortexBackend
