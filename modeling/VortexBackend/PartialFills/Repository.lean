/-
Module: VortexBackend.PartialFills.Repository
Purpose: The store of tranches. The index lists exactly the rows of each intent, by construction.
Main exports: FillStore
-/
import VortexBackend.Js.Map
import VortexBackend.PartialFills.Math

namespace VortexBackend

open JsMap

structure ReserveRequest where
  intentId : String
  srcAmount : String
  minDstAmount : String
  minFillAmount : Option String
  solver : String
  amount : String
  deadline : Nat
  now : Nat
deriving Repr, DecidableEq

/-- The row of a planned reservation; the store gives it its id. -/
def newFillRow (request : ReserveRequest) : Option IntentFill := do
  let amount ← BigInt.parse request.amount
  let minDstAmount ← proRataMinDst request.minDstAmount request.amount request.srcAmount
  some
    { fillId := "", intentId := request.intentId, solver := request.solver
      reservedAmount := BigInt.toText amount, minDstAmount, status := .reserved
      reservedAt := request.now, deadline := request.deadline }

theorem newFillRow_some {request row} (h : newFillRow request = some row) :
    row.intentId = request.intentId ∧ row.status = .reserved ∧
      ∃ amount, BigInt.parse request.amount = some amount ∧ row.reservedAmount = BigInt.toText amount := by
  unfold newFillRow at h
  simp only [Option.bind_eq_bind, Option.bind_eq_some_iff] at h
  obtain ⟨amount, isAmount, minDstAmount, _, isRow⟩ := h
  cases isRow
  exact ⟨rfl, rfl, amount, isAmount, rfl⟩

/-- What a delivery writes. -/
structure FillPatch where
  dstAmount : String
  feeAmount : String
  txHash : Option String
  filledAt : Nat
deriving Repr, DecidableEq

structure FillStore where
  fills : JsMap String IntentFill
  byIntent : JsMap String (List String)
  keyed : ∀ id fill, fills.get id = some fill → fill.fillId = id
  listed : ∀ intentId id, id ∈ (byIntent.get intentId).getD [] ↔
    ∃ fill, fills.get id = some fill ∧ fill.intentId = intentId

namespace FillStore

def empty : FillStore := ⟨.empty, .empty, by simp, by simp⟩

def get (store : FillStore) (fillId : String) : Option IntentFill := store.fills.get fillId

variable (store : FillStore)

/-- The tranches of an intent, oldest first. -/
def listByIntent (intentId : String) : List IntentFill :=
  ((store.byIntent.get intentId).getD []).filterMap store.fills.get

/-- Live reservations whose deadline has passed, up to `limit`. -/
def findExpiredReservations (now limit : Nat) : List IntentFill :=
  (store.fills.values.filter fun fill => fill.status == .reserved && fill.deadline ≤ now).take limit

/-- Insert a row under a new id. -/
def insert (fill : IntentFill) (fresh : store.get fill.fillId = none) : FillStore where
  fills := store.fills.set fill.fillId fill
  byIntent := store.byIntent.set fill.intentId
    ((store.byIntent.get fill.intentId).getD [] ++ [fill.fillId])
  keyed := by
    intro id other h
    rw [get_set] at h
    split at h
    · rename_i same
      cases h
      exact same.symm
    · exact store.keyed id other h
  listed := by
    intro intentId id
    have old := store.listed intentId id
    rw [get_set, get_set]
    by_cases sameIntent : intentId = fill.intentId <;> by_cases sameId : id = fill.fillId
    · simp [sameIntent, sameId]
    · rw [sameIntent] at old
      simpa [sameIntent, sameId] using old
    · have absent : id ∉ (store.byIntent.get intentId).getD [] := by
        rw [old]
        rintro ⟨other, present, _⟩
        rw [sameId, show store.fills.get fill.fillId = none from fresh] at present
        cases present
      simp only [if_neg sameIntent, if_pos sameId, Option.some.injEq]
      constructor
      · exact fun h => absurd h absent
      · rintro ⟨other, rfl, same⟩
        exact absurd same.symm sameIntent
    · simpa [sameIntent, sameId] using old

/-- Replace a row by another version of itself. -/
def replace (current updated : IntentFill)
    (present : store.get current.fillId = some current) (same : updated.fillId = current.fillId)
    (sameIntent : updated.intentId = current.intentId) : FillStore where
  fills := store.fills.set current.fillId updated
  byIntent := store.byIntent
  keyed := by
    intro id other h
    rw [get_set] at h
    split at h
    · rename_i isId
      cases h
      exact same.trans isId.symm
    · exact store.keyed id other h
  listed := by
    intro intentId id
    rw [store.listed intentId id, get_set]
    by_cases isId : id = current.fillId
    · subst isId
      simp [show store.fills.get current.fillId = some current from present, sameIntent]
    · simp [isId]

/-- The guarded status change: `patch` keeps the identity of the row. -/
def change (fillId : String) (guard : IntentFill → Bool)
    (patch : IntentFill → IntentFill) : Option IntentFill × FillStore :=
  match h : store.get fillId with
  | none => (none, store)
  | some current =>
    if guard current then
      let updated := { patch current with fillId := current.fillId, intentId := current.intentId }
      (some updated, store.replace current updated (store.keyed fillId current h ▸ h) rfl rfl)
    else (none, store)

def markFilled (fillId solver : String) (patch : FillPatch) : Option IntentFill × FillStore :=
  store.change fillId
    (fun f => f.status == .reserved && f.solver == solver && patch.filledAt < f.deadline) fun f =>
    { f with
      status := .filled, dstAmount := some patch.dstAmount, feeAmount := some patch.feeAmount
      txHash := patch.txHash, filledAt := some patch.filledAt }

def markSlashed (fillId : String) (now : Nat) : Option IntentFill × FillStore :=
  store.change fillId (fun f => f.status == .reserved && f.deadline ≤ now) fun f =>
    { f with status := .slashed, slashedAt := some now }

def markReleased (fillId : String) (now : Nat) : Option IntentFill × FillStore :=
  store.change fillId (·.status == .reserved) fun f =>
    { f with status := .released, releasedAt := some now }

/-! ### Lemmas -/

variable {store : FillStore} {current updated : IntentFill} {intentId : String}

theorem mem_listByIntent {fill} :
    fill ∈ store.listByIntent intentId ↔ store.get fill.fillId = some fill ∧ fill.intentId = intentId := by
  rw [listByIntent, List.mem_filterMap]
  constructor
  · rintro ⟨id, member, present⟩
    obtain ⟨other, present', isIntent⟩ := (store.listed intentId id).mp member
    rw [present] at present'
    cases present'
    exact ⟨store.keyed id fill present ▸ present, isIntent⟩
  · rintro ⟨present, isIntent⟩
    exact ⟨fill.fillId, (store.listed intentId fill.fillId).mpr ⟨fill, present, isIntent⟩, present⟩

theorem get_insert (store : FillStore) (fill : IntentFill) (fresh : store.get fill.fillId = none)
    (id : String) : (store.insert fill fresh).get id = if id = fill.fillId then some fill else store.get id :=
  get_set _ _ _ _

theorem listByIntent_insert (store : FillStore) (fill : IntentFill)
    (fresh : store.get fill.fillId = none) (intentId : String) :
    (store.insert fill fresh).listByIntent intentId =
      if intentId = fill.intentId then store.listByIntent intentId ++ [fill] else store.listByIntent intentId := by
  have old : ∀ intentId', ((store.byIntent.get intentId').getD []).filterMap
      (store.fills.set fill.fillId fill).get = store.listByIntent intentId' := by
    intro intentId'
    apply List.filterMap_congr
    intro id member
    obtain ⟨other, present, _⟩ := (store.listed intentId' id).mp member
    apply get_set_of_ne
    rintro rfl
    rw [show store.fills.get fill.fillId = none from fresh] at present
    cases present
  unfold listByIntent
  simp only [insert]
  rw [get_set]
  split
  · rename_i same
    subst same
    rw [Option.getD_some, List.filterMap_append, old]
    simp [listByIntent]
  · exact old intentId

variable {present : store.get current.fillId = some current} {sameIntent : updated.intentId = current.intentId}
  {same : updated.fillId = current.fillId}

theorem get_replace (id : String) :
    (store.replace current updated present same sameIntent).get id =
      if id = current.fillId then some updated else store.get id :=
  get_set _ _ _ _

theorem listByIntent_replace (intentId : String) :
    (store.replace current updated present same sameIntent).listByIntent intentId =
      (store.listByIntent intentId).map fun f => if f = current then updated else f := by
  unfold listByIntent
  rw [List.map_filterMap]
  apply List.filterMap_congr
  intro id member
  obtain ⟨other, found, _⟩ := (store.listed intentId id).mp member
  change (store.fills.set current.fillId updated).get id = _
  rw [get_set, found, Option.map_some]
  by_cases isId : id = current.fillId
  · subst isId
    rw [show store.fills.get current.fillId = some current from present] at found
    cases found
    simp
  · have other' : other ≠ current := by
      rintro rfl
      exact isId (store.keyed id other found).symm
    rw [if_neg isId, if_neg other']

theorem listByIntent_replace_of_ne (other : intentId ≠ current.intentId) :
    (store.replace current updated present same sameIntent).listByIntent intentId = store.listByIntent intentId := by
  rw [listByIntent_replace]
  refine (List.map_congr_left fun f member => if_neg ?_).trans (List.map_id' _)
  rintro rfl
  exact other (mem_listByIntent.mp member).2.symm

theorem change_cases {store' fillId} {guard : IntentFill → Bool} {patch : IntentFill → IntentFill} {result}
    (h : store.change fillId guard patch = (result, store')) :
    (result = none ∧ store' = store) ∨
      ∃ current updated, ∃ present : store.get current.fillId = some current,
        current.fillId = fillId ∧ guard current = true ∧
        updated = { patch current with fillId := current.fillId, intentId := current.intentId } ∧
        ∃ same sameIntent, result = some updated ∧
          store' = store.replace current updated present same sameIntent := by
  unfold change at h
  split at h
  · cases h
    exact .inl ⟨rfl, rfl⟩
  · rename_i current present
    split at h
    · rename_i guarded
      cases h
      exact .inr ⟨current, _, store.keyed fillId current present ▸ present,
        store.keyed fillId current present, guarded, rfl, rfl, rfl, rfl, rfl⟩
    · cases h
      exact .inl ⟨rfl, rfl⟩

end FillStore

end VortexBackend
