/-
Module: VortexBackend.Proofs.TrancheConservation
Purpose: The reserved and the filled tranches of an intent never exceed its source amount.
Main exports: tranches_conserved
-/
import VortexBackend.Proofs.TrancheLock

namespace VortexBackend

open FillsRepository BigInt BackendWorld FillStore

variable (source : String → String)

/-- The runs: a new repository, and calls of its four methods, where all reservations of one intent carry the
    same source amount. -/
def conservationSetting : BackendSetting where
  initial w := w.fills = .empty
  admits
    | .storeReserve request => request.srcAmount = source request.intentId
    | .storeMarkFilled .. | .storeMarkSlashed .. | .storeMarkReleased .. => True
    | _ => False

/-! ### What the methods do -/

/-- The rows that a program listed since it took the lock and changed nothing. -/
def listing (key : String) : List BackendExchange → Option (List IntentFill)
  | [] => none
  | ⟨.fills (.listByIntent key'), rows⟩ :: earlier => if key' = key then some rows else listing key earlier
  | ⟨.fills (.findById _), _⟩ :: earlier => listing key earlier
  | ⟨.fills (.findExpiredReservations ..), _⟩ :: earlier => listing key earlier
  | ⟨.fills _, _⟩ :: _ => none
  | _ :: earlier => listing key earlier

/-- The program is inside the lock of `key`. -/
def Inside (key : String) (past : List BackendExchange) : Prop :=
  (∃ ticket, lockOf past = some (key, ticket)) ∧ waited past = true

/-- The row is changed inside the lock of the intent under which the program found it. -/
def FoundInside (fillId : String) (past : List BackendExchange) : Prop :=
  ∃ fill, (⟨.fills (.findById fillId), some fill⟩ : BackendExchange) ∈ past ∧ Inside fill.intentId past

/-- When a row may be added or changed. -/
def TrancheCall (past : List BackendExchange) : BackendCall → Prop
  | .fills (.insert row) => ∃ rows r after, r.srcAmount = source r.intentId ∧ Inside row.intentId past ∧
      listing row.intentId past = some rows ∧ newFillRow r = some row ∧
      planReservation r.srcAmount r.minFillAmount rows r.amount = some (.ok after)
  | .fills (.markFilled fillId ..) | .fills (.markSlashed fillId _) | .fills (.markReleased fillId _) =>
    FoundInside fillId past
  | _ => True

def conservationDiscipline : BackendDiscipline where
  allows _ past call := LockCall past call ∧ TrancheCall source past call

variable {source : String → String} {key srcAmount : String} {fills : List IntentFill}

theorem follows_withLock {α : Type} {request : BackendRequest} {body : Backend α} {past : List BackendExchange}
    (free : lockOf past = none)
    (inside : ∀ ticket : Nat, body.Follows ((conservationDiscipline source).allows request)
      (fun _ past' => lockOf past' = some (key, ticket) ∧ waited past' = true)
      (⟨.fills (.wait ticket), ()⟩ :: ⟨.fills (.enter key), ticket⟩ :: past)) :
    (withLock key body).Follows ((conservationDiscipline source).allows request) (fun _ _ => True) past := by
  refine .call_bind ⟨free, trivial⟩ fun ticket => ?_
  refine .call_bind ⟨⟨key, rfl⟩, trivial⟩ fun _ => ?_
  refine (Async.follows_tryFinally _ _).mpr (Async.follows_mono (fun _ past' locked => ?_) (inside ticket))
  exact ⟨⟨locked, trivial⟩, fun _ => trivial⟩

/-- Under the lock: list, ask whether the intent is open, plan on the listed rows, insert. -/
theorem follows_reserveLocked {request ticket past} (sameSource : request.srcAmount = source request.intentId) :
    (reserveLocked request (Async.attempt (Backend.external (.isOpen request.intentId)))).Follows
      ((conservationDiscipline source).allows (.storeReserve request))
      (fun _ past' => lockOf past' = some (request.intentId, ticket) ∧ waited past' = true)
      (⟨.fills (.wait ticket), ()⟩ :: ⟨.fills (.enter request.intentId), ticket⟩ :: past) := by
  refine .call_bind ⟨trivial, trivial⟩ fun rows => ?_
  refine .attempt_bind ⟨⟨trivial, trivial⟩, fun
    | .error _ | .ok false => ⟨rfl, rfl⟩
    | .ok true => ?_⟩
  refine (Async.follows_bind _ _).mpr ?_
  cases planned : planReservation request.srcAmount request.minFillAmount rows request.amount with
  | none => exact ⟨rfl, rfl⟩
  | some plan =>
    cases plan with
    | rejected reason remaining => exact ⟨rfl, rfl⟩
    | ok after =>
      refine (Async.follows_bind _ _).mpr ?_
      cases isRow : newFillRow request with
      | none => exact ⟨rfl, rfl⟩
      | some row =>
        refine .call_bind ⟨trivial, ?_⟩ fun _ => ⟨rfl, rfl⟩
        have isKey := (newFillRow_some isRow).1
        refine ⟨rows, request, after, sameSource, ?_, ?_, isRow, planned⟩
        · rw [isKey]
          exact ⟨⟨ticket, rfl⟩, rfl⟩
        · rw [isKey]
          exact if_pos rfl

/-- What a status change has done when it is inside the lock. -/
def changePast (fillId : String) (fill : IntentFill) (ticket : Nat) : List BackendExchange :=
  [⟨.fills (.wait ticket), ()⟩, ⟨.fills (.enter fill.intentId), ticket⟩,
    ⟨.fills (.findById fillId), some fill⟩]

theorem foundInside_changePast (fillId : String) (fill : IntentFill) (ticket : Nat) :
    FoundInside fillId (changePast fillId fill ticket) :=
  ⟨fill, .tail _ (.tail _ (.head _)), ⟨ticket, rfl⟩, rfl⟩

/-- A status change: look the row up, then change it inside the lock of the intent it names. -/
theorem follows_lockedChange {request : BackendRequest} {fillId : String} {write : Backend (Option IntentFill)}
    (follows : ∀ fill ticket, write.Follows ((conservationDiscipline source).allows request)
      (fun _ past' => lockOf past' = some (fill.intentId, ticket) ∧ waited past' = true)
      (changePast fillId fill ticket)) :
    (lockedChange fillId write).Follows ((conservationDiscipline source).allows request) (fun _ _ => True) [] := by
  refine .call_bind ⟨trivial, trivial⟩ fun known => ?_
  cases known with
  | none => trivial
  | some fill => exact follows_withLock rfl fun ticket => follows fill ticket

theorem conservation_followed (cfg : BackendSettings) (source : String → String) :
    (conservationDiscipline source).Followed (backendService cfg) (conservationSetting source) := by
  intro request admitted
  cases request with
  | storeReserve request =>
    exact follows_respond (follows_withLock rfl fun _ => follows_reserveLocked admitted)
  | storeMarkFilled fillId | storeMarkSlashed fillId | storeMarkReleased fillId =>
    refine follows_respond (follows_lockedChange fun fill ticket => ?_)
    exact ⟨⟨trivial, foundInside_changePast fillId fill ticket⟩, fun _ => ⟨rfl, rfl⟩⟩
  | _ => cases admitted

theorem listing_cons {x earlier rows} (inside : Inside key (x :: earlier))
    (listed : listing key (x :: earlier) = some rows) :
    x = ⟨.fills (.listByIntent key), rows⟩ ∨ Inside key earlier ∧ listing key earlier = some rows := by
  obtain ⟨call, reply⟩ := x
  cases call with
  | fills c =>
    cases c with
    | listByIntent key' =>
      simp only [listing] at listed
      split at listed
      · rename_i same
        subst same
        cases listed
        exact .inl rfl
      · exact .inr ⟨inside, listed⟩
    | findById | findExpiredReservations => exact .inr ⟨inside, listed⟩
    | _ => cases listed
  | _ => exact .inr ⟨inside, listed⟩

theorem listing_changed {x fill} (changed : x.call.tranche x.reply = some fill) (earlier : List BackendExchange) :
    listing key (x :: earlier) = none := by
  obtain ⟨call, reply⟩ := x
  cases call with
  | fills c => cases c <;> first | rfl | cases changed
  | _ => cases changed

/-! ### The invariant -/

/-- What the reserved and the filled tranches hold of the source amount. -/
def holding (fills : List IntentFill) : Int := sumIn .reserved fills + sumIn .filled fills

variable {current updated : IntentFill}

theorem holding_settle_le (wasReserved : current.status = .reserved)
    (sameAmount : updated.reservedAmount = current.reservedAmount) :
    ∀ {fills : List IntentFill}, Positive fills →
      holding (fills.map fun f => if f = current then updated else f) ≤ holding fills := by
  intro fills
  induction fills with
  | nil => exact fun _ => Int.le_refl _
  | cons fill rest ih =>
    intro positive
    have first := positive.amount_pos (.head _)
    have others := ih fun f hf => positive f (.tail _ hf)
    have amount : updated.amount = current.amount := by rw [IntentFill.amount, sameAmount]; rfl
    unfold holding at others ⊢
    simp only [List.map_cons, sumIn_cons]
    by_cases isCurrent : fill = current
    · subst isCurrent
      simp only [if_true, amount, wasReserved]
      cases updated.status <;> simp <;> omega
    · rw [if_neg isCurrent]
      omega

/-- The locks are safe; a row that a program found keeps its intent; the rows that a program listed inside the
    lock are the stored rows; and the tranches of an intent fit into its source amount. -/
structure Conserved (source : String → String) (v : BackendView) : Prop extends LockSafe v where
  known : ∀ pid fillId fill,
    (⟨.fills (.findById fillId), some fill⟩ : BackendExchange) ∈ past pid v.history →
    ∃ current, v.world.fills.get fillId = some current ∧ current.intentId = fill.intentId
  current : ∀ pid key rows, Inside key (past pid v.history) → listing key (past pid v.history) = some rows →
    v.world.fills.listByIntent key = rows
  positive : ∀ key, Positive (v.world.fills.listByIntent key)
  bounded : ∀ key (total : Nat), parse (source key) = some (total : Int) →
    holding (v.world.fills.listByIntent key) ≤ total

namespace Conserved

variable {source : String → String} {v : BackendView} {e : BackendEvent} {w : BackendWorld}
  {choice : BackendChoice}

theorem initial (isEmpty : w.fills = .empty) : Conserved source ⟨w, []⟩ where
  toLockSafe := LockSafe.initial
  known := by simp
  current := by simp [listing]
  positive := by
    intro key fill member
    rw [isEmpty] at member
    cases member
  bounded := by
    intro key total _
    rw [isEmpty]
    exact Int.natCast_nonneg total

section

variable (conserved : Conserved source v)
include conserved

theorem congr (sameFills : w.fills = v.world.fills) (sameLocks : w.locks = v.world.locks) :
    Conserved source { v with world := w } where
  toLockSafe := conserved.toLockSafe.congr sameLocks
  known := by rw [sameFills]; exact conserved.known
  current := by rw [sameFills]; exact conserved.current
  positive := by rw [sameFills]; exact conserved.positive
  bounded := by rw [sameFills]; exact conserved.bounded

theorem inside_unique {pid pid' key} (inside : Inside key (past pid v.history))
    (inside' : Inside key (past pid' v.history)) : pid = pid' := by
  obtain ⟨⟨_, lock⟩, isIn⟩ := inside
  obtain ⟨⟨_, lock'⟩, isIn'⟩ := inside'
  exact conserved.alone lock isIn lock' isIn'

section

variable (performed : perform e.call choice v.world = some (e.reply, w))
include performed

/-- What a program found is still there after a step that keeps every row under its id and intent. -/
theorem known_step (kept : ∀ id row, v.world.fills.get id = some row →
      ∃ row', w.fills.get id = some row' ∧ row'.intentId = row.intentId) (pid : Nat) (fillId : String)
    (fill : IntentFill)
    (found : (⟨.fills (.findById fillId), some fill⟩ : BackendExchange) ∈ past pid (v.after e w).history) :
    ∃ current, w.fills.get fillId = some current ∧ current.intentId = fill.intentId := by
  rcases mem_past_cons.mp found with ⟨_, now⟩ | earlier
  · obtain ⟨actor, call, reply⟩ := e
    cases now
    simp only [perform, performFill, Option.some.injEq, Prod.mk.injEq] at performed
    exact kept fillId fill performed.1
  · obtain ⟨current, present, isIntent⟩ := conserved.known pid fillId fill earlier
    obtain ⟨row, present', same⟩ := kept fillId current present
    exact ⟨row, present', same.trans isIntent⟩

section

variable (safe : LockSafe (v.after e w))
include safe

theorem quiet_step (same : w.fills = v.world.fills) : Conserved source (v.after e w) where
  toLockSafe := safe
  known := by
    apply conserved.known_step performed
    intro id row present
    exact ⟨row, same ▸ present, rfl⟩
  current := by
    intro pid key rows inside listed
    rw [View.after_world, same]
    by_cases own : e.actor.pid = pid
    · rw [past_own own] at inside listed
      rcases listing_cons inside listed with now | ⟨inside', listed'⟩
      · obtain ⟨actor, call, reply⟩ := e
        cases now
        simp only [perform, performFill, Option.some.injEq, Prod.mk.injEq]
          at performed
        exact performed.1
      · exact conserved.current pid key rows inside' listed'
    · rw [past_other own] at inside listed
      exact conserved.current pid key rows inside listed
  positive := by
    rw [View.after_world, same]
    exact conserved.positive
  bounded := by
    rw [View.after_world, same]
    exact conserved.bounded

theorem change_step {fill key} (changed : e.call.tranche e.reply = some fill)
    (inside : Inside key (past e.actor.pid v.history)) (kept : ∀ id row, v.world.fills.get id = some row →
      ∃ row', w.fills.get id = some row' ∧ row'.intentId = row.intentId)
    (others : ∀ key', key' ≠ key → w.fills.listByIntent key' = v.world.fills.listByIntent key')
    (positive : Positive (w.fills.listByIntent key))
    (bounded :
      ∀ total : Nat, parse (source key) = some (total : Int) → holding (w.fills.listByIntent key) ≤ total) :
    Conserved source (v.after e w) where
  toLockSafe := safe
  known := conserved.known_step performed kept
  current := by
    intro pid key' rows isInside listed
    by_cases own : e.actor.pid = pid
    · rw [past_own own, listing_changed changed] at listed
      cases listed
    · rw [past_other own] at isInside listed
      have differs : key' ≠ key := by
        rintro rfl
        exact own (conserved.inside_unique inside isInside)
      rw [View.after_world, others key' differs]
      exact conserved.current pid key' rows isInside listed
  positive := by
    intro key'
    by_cases same : key' = key
    · exact same ▸ positive
    · rw [View.after_world, others key' same]
      exact conserved.positive key'
  bounded := by
    intro key' total isTotal
    by_cases same : key' = key
    · subst same
      exact bounded total isTotal
    · rw [View.after_world, others key' same]
      exact conserved.bounded key' total isTotal

theorem insert_step {row fill fresh rows r after} (changed : e.call.tranche e.reply = some fill)
    (isFill : fill = { row with fillId := fill.fillId }) (stored : w.fills = v.world.fills.insert fill fresh)
    (sameSource : r.srcAmount = source r.intentId) (inside : Inside row.intentId (past e.actor.pid v.history))
    (listed : listing row.intentId (past e.actor.pid v.history) = some rows) (isRow : newFillRow r = some row)
    (planned : planReservation r.srcAmount r.minFillAmount rows r.amount = some (.ok after)) :
    Conserved source (v.after e w) := by
  have isKey : fill.intentId = row.intentId := by rw [isFill]
  have isReserved : fill.status = row.status := by rw [isFill]
  have sameAmount : fill.reservedAmount = row.reservedAmount := by rw [isFill]
  have isCurrent := conserved.current _ _ _ inside listed
  have positive := conserved.positive row.intentId
  obtain ⟨ofRequest, rowReserved, n, isAmount, rowAmount⟩ := newFillRow_some isRow
  obtain ⟨alloc, n', isAlloc, isAmount', amountPos, fits, _⟩ := planReservation_ok planned
  cases isAmount.symm.trans isAmount'
  obtain ⟨amount, rfl⟩ := Int.eq_ofNat_of_zero_le (Int.le_of_lt amountPos)
  have parsed : parse fill.reservedAmount = some (amount : Int) := by
    rw [sameAmount, rowAmount, parse_toText]
  have listing' : w.fills.listByIntent row.intentId = rows ++ [fill] := by
    rw [stored, listByIntent_insert, if_pos isKey.symm, isCurrent]
  rw [isCurrent] at positive
  refine conserved.change_step performed safe changed inside ?_ ?_ ?_ ?_
  · intro id other present
    rw [stored, get_insert, if_neg]
    · exact ⟨other, present, rfl⟩
    · rintro rfl
      rw [fresh] at present
      cases present
  · intro key' differs
    rw [stored, listByIntent_insert, if_neg]
    rwa [isKey]
  · rw [listing']
    intro f member
    rcases List.mem_append.mp member with old | new
    · exact positive f old
    · rw [List.mem_singleton.mp new]
      exact ⟨amount, Int.natCast_pos.mp amountPos, parsed⟩
  · intro total isTotal
    rw [ofRequest, ← sameSource] at isTotal
    rw [allocation_eq isTotal positive.parses] at isAlloc
    cases isAlloc
    have fillAmount : fill.amount = amount := by rw [IntentFill.amount, parsed, Option.getD_some]
    rw [listing', holding, sumIn_append, sumIn_append, sumIn_cons, sumIn_cons, isReserved, rowReserved,
      fillAmount, if_pos rfl, if_neg (by decide), sumIn_nil, sumIn_nil]
    dsimp only at fits
    omega

theorem settle_step {c : FillCall} {present : v.world.fills.get current.fillId = some current}
    {same : updated.fillId = current.fillId} {sameIntent : updated.intentId = current.intentId}
    (changed : e.call.tranche e.reply = some updated) (settles : c.Settles current updated)
    (stored : w.fills = v.world.fills.replace current updated present same sameIntent)
    (inside : Inside current.intentId (past e.actor.pid v.history)) : Conserved source (v.after e w) := by
  have positive := conserved.positive current.intentId
  refine conserved.change_step performed safe changed inside ?_ ?_ ?_ ?_
  · intro id row found
    rw [stored, get_replace]
    split
    · rename_i isId
      subst isId
      cases present.symm.trans found
      exact ⟨updated, rfl, sameIntent⟩
    · exact ⟨row, found, rfl⟩
  · intro key' differs
    rw [stored]
    exact listByIntent_replace_of_ne differs
  · rw [stored, listByIntent_replace]
    intro f member
    obtain ⟨g, old, rfl⟩ := List.mem_map.mp member
    obtain ⟨amount, isPos, parsed⟩ := positive g old
    refine ⟨amount, isPos, ?_⟩
    split
    · rename_i isCurrent
      rwa [settles.sameAmount, ← isCurrent]
    · exact parsed
  · intro total isTotal
    rw [stored, listByIntent_replace]
    exact (holding_settle_le settles.wasReserved settles.sameAmount positive).trans
      (conserved.bounded _ total isTotal)

end

end

/-- Every allowed call of the repository keeps the invariant. -/
theorem step (allowed : (conservationDiscipline source).allows e.actor.request (past e.actor.pid v.history) e.call)
    (performed : perform e.call choice v.world = some (e.reply, w)) : Conserved source (v.after e w) := by
  have safe := conserved.toLockSafe.step allowed.1 performed
  rcases perform_tranche_cases performed with same | ⟨row, fill, fresh, isCall, changed, isFill, stored⟩ |
    ⟨c, current, updated, present, same, sameIntent, isCall, changed, settles, stored⟩
  · exact conserved.quiet_step performed safe same
  · obtain ⟨rows, r, after, sameSource, inside, listed, isRow, planned⟩ :=
      (isCall ▸ allowed.2 : TrancheCall source _ (.fills (.insert row)))
    exact conserved.insert_step performed safe changed isFill stored sameSource inside listed isRow planned
  · have found : FoundInside current.fillId (past e.actor.pid v.history) := by
      have allowed' : TrancheCall source (past e.actor.pid v.history) (.fills c) := isCall ▸ allowed.2
      cases c with
      | markFilled | markSlashed | markReleased => exact settles.1 ▸ allowed'
      | _ => cases settles
    obtain ⟨fill, looked, inside⟩ := found
    obtain ⟨row, present', isIntent⟩ := conserved.known _ _ _ looked
    cases present.symm.trans present'
    exact conserved.settle_step performed safe changed settles stored (isIntent ▸ inside)

end

end Conserved

/-! ### Whole runs -/

/-- The amounts that a progress report gives add up to the source amount. -/
def FillProgress.AddsUp (progress : FillProgress) (total : Nat) : Prop :=
  ∃ filled reserved remaining : Nat, progress.filledAmount = toText filled ∧
    progress.reservedAmount = toText reserved ∧ progress.remainingAmount = toText remaining ∧
    progress.srcAmount = toText total ∧ filled + reserved + remaining = total

/-- Every delivered amount is an integer. -/
def Delivers (fills : List IntentFill) : Prop :=
  ∀ fill ∈ fills, fill.status = .filled → (parse (fill.dstAmount.getD "0")).isSome = true

theorem foldlM_addDelivered (delivers : Delivers fills) (sum : Int) :
    ∃ total, fills.foldlM addDelivered sum = some total := by
  induction fills generalizing sum with
  | nil => exact ⟨sum, rfl⟩
  | cons fill rest ih =>
    have others := ih fun f hf => delivers f (.tail _ hf)
    rw [List.foldlM_cons, addDelivered]
    split
    · rename_i isFilled
      obtain ⟨amount, isAmount⟩ := Option.isSome_iff_exists.mp (delivers fill (.head _) isFilled)
      rw [isAmount]
      exact others (sum + amount)
    · exact others sum

theorem computeFillProgress_isSome {total} (isTotal : parse srcAmount = some total) (parses : Parses fills)
    (delivers : Delivers fills) (state : IntentState) : (computeFillProgress srcAmount state fills).isSome = true := by
  obtain ⟨sum, isSum⟩ := foldlM_addDelivered delivers 0
  rw [computeFillProgress, allocation_eq isTotal parses, Option.bind_eq_bind, Option.bind_some, isSum]
  rfl

theorem computeFillProgress_some {state progress} (h : computeFillProgress srcAmount state fills = some progress) :
    ∃ alloc, allocation srcAmount fills = some alloc ∧
      progress.srcAmount = toText alloc.srcAmount ∧
      progress.reservedAmount = toText alloc.reserved ∧
      progress.filledAmount = toText alloc.filled ∧
      progress.remainingAmount = toText alloc.remaining := by
  unfold computeFillProgress at h
  simp only [Option.bind_eq_bind, Option.bind_eq_some_iff] at h
  obtain ⟨alloc, isAlloc, dstFilled, _, isProgress⟩ := h
  cases isProgress
  exact ⟨alloc, isAlloc, rfl, rfl, rfl, rfl⟩

theorem computeFillProgress_addsUp {total : Nat} (isTotal : parse srcAmount = some (total : Int))
    (positive : Positive fills) (fits : holding fills ≤ total) {state : IntentState} {progress : FillProgress}
    (h : computeFillProgress srcAmount state fills = some progress) : progress.AddsUp total := by
  obtain ⟨alloc, isAlloc, isSource, isReserved, isFilled, isRemaining⟩ := computeFillProgress_some h
  rw [allocation_eq isTotal positive.parses] at isAlloc
  cases isAlloc
  have reservedNonneg := positive.sumIn_nonneg .reserved
  have filledNonneg := positive.sumIn_nonneg .filled
  unfold holding at fits
  obtain ⟨filled, filledEq⟩ := Int.eq_ofNat_of_zero_le filledNonneg
  obtain ⟨reserved, reservedEq⟩ := Int.eq_ofNat_of_zero_le reservedNonneg
  rw [filledEq, reservedEq] at fits
  refine ⟨filled, reserved, total - reserved - filled, ?_, ?_, ?_, isSource, ?_⟩
  · rw [isFilled, filledEq]
  · rw [isReserved, reservedEq]
  · rw [isRemaining]
    dsimp only
    rw [filledEq, reservedEq]
    congr 1
    omega
  · omega

section Runs

variable {cfg : BackendSettings} {source : String → String} {ts : List BackendTransition}
  {c : BackendConfig}

theorem fills_drift {d w w'} (h : drift d w = some w') : w'.fills = w.fills ∧ w'.locks = w.locks := by
  cases d <;> cases h <;> exact ⟨rfl, rfl⟩

theorem conserved_of_run (run : Run (backendService cfg) (conservationSetting source) ts c) :
    Conserved source c.view := by
  apply (Run.invariant (conservation_followed cfg source) ?_ ?_ ?_ run).1
  · intro w isEmpty
    exact Conserved.initial isEmpty
  · intro v d w conserved drifted
    obtain ⟨sameFills, sameLocks⟩ := fills_drift drifted
    exact conserved.congr sameFills sameLocks
  · rintro v e v' conserved ⟨⟨⟨choice, w, performed, rfl⟩, _⟩, allowed, _⟩
    exact conserved.step allowed performed

/-- For any interleaving of the four methods of the repository, in every state reached and for every intent
    with source amount `total`: the reserved and the filled tranches add up to at most `total`, so what remains
    is not negative, and the progress report (which is made as soon as the delivered amounts are integers)
    gives amounts that add up to `total`. -/
theorem tranches_conserved (run : Run (backendService cfg) (conservationSetting source) ts c)
    (intentId : String) (total : Nat) (isTotal : parse (source intentId) = some (total : Int)) :
    Parses (c.world.fills.listByIntent intentId) ∧
    sumIn .reserved (c.world.fills.listByIntent intentId) +
      sumIn .filled (c.world.fills.listByIntent intentId) ≤ total ∧
    (∃ alloc, allocation (source intentId) (c.world.fills.listByIntent intentId) = some alloc ∧
      0 ≤ alloc.remaining) ∧
    ∀ state,
      (Delivers (c.world.fills.listByIntent intentId) →
        (computeFillProgress (source intentId) state (c.world.fills.listByIntent intentId)).isSome = true) ∧
      ∀ progress, computeFillProgress (source intentId) state (c.world.fills.listByIntent intentId) =
        some progress → progress.AddsUp total := by
  have conserved := conserved_of_run run
  have positive : Positive (c.world.fills.listByIntent intentId) := conserved.positive intentId
  have fits : holding (c.world.fills.listByIntent intentId) ≤ total := conserved.bounded intentId total isTotal
  refine ⟨positive.parses, fits, ⟨_, allocation_eq isTotal positive.parses, ?_⟩, fun state => ⟨?_, ?_⟩⟩
  · unfold holding at fits
    dsimp only
    omega
  · exact fun delivers => computeFillProgress_isSome isTotal positive.parses delivers state
  · exact fun progress => computeFillProgress_addsUp isTotal positive fits

end Runs

/-- A reservation of an intent with source amount 100. -/
def reserveOf (solver amount : String) : ReserveRequest where
  intentId := "I"
  srcAmount := "100"
  minDstAmount := "90"
  minFillAmount := none
  solver
  amount
  deadline := 1000
  now := 10

/-- Two solvers reserve at the same time; the second waits at the lock while the first is asked whether the
    intent is open, and is then refused. The first delivers. -/
def conservationMoves : List BackendMove :=
  ([.arrive (.storeReserve (reserveOf "A" "60")), .arrive (.storeReserve (reserveOf "B" "50")),
    .arrive (.storeMarkFilled "F" "A" ⟨"54", "0", none, 20⟩)] : List BackendMove) ++
  ([.act 0 {}, .act 1 {}, .act 0 {}, .act 0 {}, .act 0 { flag := true }, .act 0 { id := "F" }, .act 0 {}] :
    List BackendMove) ++
  ([.act 1 {}, .act 1 {}, .act 1 { flag := true }, .act 1 {}] : List BackendMove) ++
  (List.replicate 5 (.act 2 {}) : List BackendMove)

theorem second_reservation_refused :
    ∃ ts c, Run (backendService {}) (conservationSetting fun _ => "100") ts c ∧
      (c.world.fills.listByIntent "I").map (fun f => (f.solver, f.reservedAmount, f.status)) =
        [("A", "60", .filled)] ∧
      sumIn .reserved (c.world.fills.listByIntent "I") + sumIn .filled (c.world.fills.listByIntent "I") ≤ 100 := by
  obtain ⟨ts, c, run, rows⟩ := Run.exists_of_trace (backendService {}) (conservationSetting fun _ => "100")
    {} conservationMoves
    (fun _ c => (c.world.fills.listByIntent "I").map (fun f => (f.solver, f.reservedAmount, f.status)) ==
      [("A", "60", .filled)]) rfl (by simp [conservationMoves, conservationSetting, reserveOf]) (by decide)
  exact ⟨ts, c, run, beq_iff_eq.mp rows, (tranches_conserved run "I" 100 (by decide)).2.1⟩

end VortexBackend
