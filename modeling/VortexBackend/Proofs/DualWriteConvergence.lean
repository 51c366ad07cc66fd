/-
Module: VortexBackend.Proofs.DualWriteConvergence
Purpose: Mirror writes converge in any order if each supersedes what it replaces. An amendment does not.
Main exports: mirror_converges
-/
import VortexBackend.Intents.DualWriteRepository
import VortexBackend.Proofs.VersionClock
import VortexBackend.Sequential.NewestWins

namespace VortexBackend

open DualWrite Component

/-! ### When a record supersedes another -/

/-- The second record has a value in each of the columns that are written only with one, where the first has. -/
structure KeepsColumns (a b : Intent) : Prop where
  auction : b.auction = none → a.auction = none
  usdValueAtCreate : b.usdValueAtCreate = none → a.usdValueAtCreate = none
  slashedAt : b.slashedAt = none → a.slashedAt = none
  slashReason : b.slashReason = none → a.slashReason = none
  feeAmount : b.feeAmount = none → a.feeAmount = none

/-- The same record, or one of a higher version that keeps the columns. -/
def Superseded (a b : Intent) : Prop := a = b ∨ a.currentVersion < b.currentVersion ∧ KeepsColumns a b

namespace Superseded

theorem refl (a : Intent) : Superseded a a := .inl rfl

theorem trans (a b c : Intent) (ab : Superseded a b) (bc : Superseded b c) : Superseded a c := by
  rcases ab with rfl | ⟨lower, kept⟩
  · exact bc
  · rcases bc with rfl | ⟨lower', kept'⟩
    · exact .inr ⟨lower, kept⟩
    · right
      constructor
      · exact Nat.lt_trans lower lower'
      · exact ⟨kept.auction ∘ kept'.auction, kept.usdValueAtCreate ∘ kept'.usdValueAtCreate,
          kept.slashedAt ∘ kept'.slashedAt, kept.slashReason ∘ kept'.slashReason,
          kept.feeAmount ∘ kept'.feeAmount⟩

theorem antisymm (a b : Intent) (ab : Superseded a b) (ba : Superseded b a) : a = b := by
  rcases ab with same | ⟨lower, _⟩
  · exact same
  · rcases ba with same | ⟨lower', _⟩
    · exact same.symm
    · omega

theorem version_le {a b} (ab : Superseded a b) : a.currentVersion ≤ b.currentVersion := by
  rcases ab with rfl | ⟨lower, _⟩
  · exact le_rfl
  · exact Nat.le_of_lt lower

end Superseded

/-! ### Mirror writes -/

/-- Over the row of a record that it supersedes, a mirror write leaves the row of its own record. -/
theorem toDbData_createdRow {a b} (sameId : a.intentId = b.intentId) (kept : KeepsColumns a b) :
    toDbData b (createdRow a) = createdRow b := by
  have column {α : Type} {x y : Option α} (keeps : y = none → x = none) : (y <|> x) = (y <|> none) := by
    cases y with
    | none => rw [keeps rfl]
    | some value => rfl
  simp only [createdRow, toDbData, sameId, Option.orElse_eq_orElse, Option.orElse_eq_or, Option.or_none] at *
  simp [column kept.auction, column kept.usdValueAtCreate, column kept.slashedAt, column kept.slashReason,
    column kept.feeAmount]

namespace IntentTable

variable {table : IntentTable} {intent : Intent} {row : IntentRow}

theorem saveIfNewer_absent (absent : table.findUnique intent.intentId = none) :
    table.saveIfNewer intent = JsMap.set table intent.intentId (createdRow intent) := by
  simp [saveIfNewer, updateMany_absent absent, absent]

theorem saveIfNewer_newer (found : table.findUnique intent.intentId = some row)
    (newer : row.version < intent.currentVersion) :
    table.saveIfNewer intent = JsMap.set table intent.intentId (toDbData intent row) := by
  rw [saveIfNewer, updateMany_hit found]
  · rfl
  · exact decide_eq_true newer

theorem saveIfNewer_dropped (found : table.findUnique intent.intentId = some row)
    (notNewer : intent.currentVersion ≤ row.version) : table.saveIfNewer intent = table := by
  rw [saveIfNewer, updateMany_miss found]
  · simp [found]
  · exact decide_eq_false (Nat.not_lt.mpr notNewer)

end IntentTable

open IntentTable in
theorem mirror_newestWins :
    NewestWins Intent.intentId Superseded createdRow IntentTable.findUnique IntentTable.saveIfNewer where
  others := by
    intro table x id other
    cases found : table.findUnique x.intentId with
    | none => rw [saveIfNewer_absent found, findUnique_set, if_neg other]
    | some row =>
      by_cases newer : row.version < x.currentVersion
      · rw [saveIfNewer_newer found newer, findUnique_set, if_neg other]
      · rw [saveIfNewer_dropped found (Nat.not_lt.mp newer)]
  fresh := by
    intro table x absent
    rw [saveIfNewer_absent absent, findUnique_set, if_pos rfl]
  newer := by
    intro table m x sameId found supersedes
    rcases supersedes with rfl | ⟨lower, kept⟩
    · rw [saveIfNewer_dropped found le_rfl, found]
    · rw [saveIfNewer_newer found lower, findUnique_set, if_pos rfl, toDbData_createdRow sameId kept]
  older := by
    intro table m x sameId found superseded
    rw [saveIfNewer_dropped found superseded.version_le, found]

/-! ### The order of the writes -/

/-- No column that is written only with a value is set to `undefined`. -/
def IntentPatch.DefinesColumns (patch : IntentPatch) : Prop :=
  patch.auction ≠ some none ∧ patch.usdValueAtCreate ≠ some none ∧ patch.slashedAt ≠ some none ∧
    patch.slashReason ≠ some none ∧ patch.feeAmount ≠ some none

/-- An operation whose record supersedes the one it replaces. -/
def Mirrorable (store : IntentStore) : IntentsOperation → Prop
  | .save intent => store.get intent.intentId = none
  | .amendIfOpen id minDstAmount deadline now => AmendsNothing store id minDstAmount deadline now
  | .update _ patch _ | .transitionIf _ _ _ patch => patch.DefinesColumns
  | .fillIfAccepted _ _ patch _ _ => patch.feeAmount ≠ some none
  | _ => True

theorem KeepsColumns.assign (intent : Intent) {patch} (defines : patch.DefinesColumns) :
    KeepsColumns intent (intent.assign patch) := by
  have column {α : Type} {field : Option (Option α)} {old : Option α} (defined : field ≠ some none)
      (empty : field.getD old = none) : old = none := by
    rcases field with _ | _ | value
    · exact empty
    · exact absurd rfl defined
    · cases empty
  obtain ⟨auction, usdValueAtCreate, slashedAt, slashReason, feeAmount⟩ := defines
  exact ⟨column auction, column usdValueAtCreate, column slashedAt, column slashReason, column feeAmount⟩

variable {op : IntentsOperation}

theorem KeepsColumns.change {store} {change : Intent → Intent} (changes : op.change = some change)
    (mirrorable : Mirrorable store op) (intent : Intent) : KeepsColumns intent (change intent) := by
  cases op with
  | save | amendIfOpen => cases changes
  | update id patch version =>
    cases changes
    exact .assign intent mirrorable
  | transitionIf id «from» «to» patch =>
    cases changes
    exact { KeepsColumns.assign intent mirrorable with }
  | fillIfAccepted id solver patch now version =>
    cases changes
    have defines : patch.toPatch.DefinesColumns := by
      exact ⟨nofun, nofun, nofun, nofun, mirrorable⟩
    exact { KeepsColumns.assign intent defines with }
  | slashIfAccepted =>
    cases changes
    exact ⟨id, id, nofun, nofun, id⟩
  | acceptIfOpen | extendDeadlineIfAccepted | cancelIfOpen | expireIfOpen =>
    cases changes
    exact ⟨id, id, id, id, id⟩

/-- The records written so far: those of one intent are in order, and the stored one is the last. -/
structure WriteOrder (known : Intent → Prop) (store : IntentStore) : Prop where
  stored : ∀ id current, store.get id = some current → known current
  last : ∀ x, known x → ∃ current, store.get x.intentId = some current ∧ Superseded x current
  linear : ∀ x y, known x → known y → x.intentId = y.intentId → Superseded x y ∨ Superseded y x

namespace WriteOrder

variable {known : Intent → Prop} {store : IntentStore}

theorem start (store : IntentStore) : WriteOrder (fun x => store.get x.intentId = some x) store where
  stored := by
    intro id current found
    rw [IntentStore.intentId_of_get found, found]
  last := fun x found => ⟨x, found, .refl x⟩
  linear := by
    intro x y found found' sameId
    rw [sameId, found', Option.some.injEq] at found
    exact .inl (.inl found.symm)

theorem put (order : WriteOrder known store) {written}
    (supersedes : ∀ current, store.get written.intentId = some current → Superseded current written) :
    WriteOrder (fun x => x = written ∨ known x) (store.put written) := by
  have lastly (x : Intent) (isKnown : known x) (sameId : x.intentId = written.intentId) :
      Superseded x written := by
    obtain ⟨current, found, below⟩ := order.last x isKnown
    exact .trans x current written below (supersedes current (sameId ▸ found))
  constructor
  · intro id current found
    rw [IntentStore.get_put] at found
    split at found
    · exact .inl (Option.some.inj found).symm
    · exact .inr (order.stored id current found)
  · intro x isKnown
    rw [IntentStore.get_put]
    split
    · rename_i sameId
      refine ⟨written, rfl, ?_⟩
      rcases isKnown with rfl | earlier
      · exact .refl x
      · exact lastly x earlier sameId
    · rename_i otherId
      rcases isKnown with rfl | earlier
      · exact absurd rfl otherId
      · exact order.last x earlier
  · intro x y isKnown isKnown' sameId
    rcases isKnown with rfl | earlier
    · rcases isKnown' with rfl | earlier'
      · exact .inl (.refl y)
      · exact .inr (lastly y earlier' sameId.symm)
    · rcases isKnown' with rfl | earlier'
      · exact .inl (lastly x earlier sameId)
      · exact order.linear x y earlier earlier' sameId

/-- One operation: the record that it mirrors, if any, is the next in order. -/
theorem apply (order : WriteOrder known store) (mirrorable : Mirrorable store op) :
    WriteOrder (fun x => (store.apply op).1.toOption = some x ∨ known x) (store.apply op).2 := by
  generalize applied : store.apply op = outcome
  obtain ⟨result, store'⟩ := outcome
  have next (written : Intent) (supersedes : ∀ current, store.get written.intentId = some current →
      Superseded current written) :
      WriteOrder (fun x => (MutationResult.written written).toOption = some x ∨ known x)
        (store.put written) := by
    simpa only [MutationResult.toOption, Option.some.injEq, eq_comm] using order.put supersedes
  cases apply_effect applied with
  | refused _ nothing => simpa only [nothing, reduceCtorEq, false_or] using order
  | saved intent isSave =>
    subst isSave
    apply next
    intro current found
    rw [show store.get intent.intentId = none from mirrorable] at found
    cases found
  | amended existing minDstAmount deadline now isAmend present isOpen live future =>
    subst isAmend
    obtain ⟨rfl, rfl⟩ := mirrorable existing present isOpen live future
    apply next
    intro current found
    rw [present, Option.some.injEq] at found
    exact .inl found.symm
  | bumped existing change changes isTarget present current =>
    apply next
    intro stored found
    rw [show store.get existing.intentId = some stored from found, Option.some.injEq] at present
    subst present
    right
    constructor
    · exact Nat.lt_succ_self _
    · exact { KeepsColumns.change changes mirrorable stored with }

end WriteOrder

/-! ### Convergence -/

theorem newest_of_inSync {primary : IntentStore} {secondary : IntentTable}
    (inSync : ∀ id, secondary.findUnique id = (primary.get id).map createdRow) :
    Newest Intent.intentId Superseded createdRow (fun x => primary.get x.intentId = some x) secondary.findUnique := by
  intro id
  cases found : primary.get id with
  | none =>
    left
    constructor
    · rw [inSync, found]
      rfl
    · intro x stored isId
      rw [isId, found] at stored
      cases stored
  | some current =>
    have isId : current.intentId = id := IntentStore.intentId_of_get found
    subst isId
    right
    refine ⟨current, found, rfl, by rw [inSync, found]; rfl, ?_⟩
    intro x stored sameId
    rw [sameId, found, Option.some.injEq] at stored
    exact .inl stored.symm

theorem writeOrder_run (primary : IntentStore) (ops : List IntentsOperation)
    (mirrorable : Component.Meets apply (fun _ store op => Mirrorable store op) [] primary ops) :
    WriteOrder (fun x => x ∈ mirrorWrites primary ops ∨ primary.get x.intentId = some x)
      (run apply primary ops).2 := by
  have order := run_invariant
    (fun results store => WriteOrder
      (fun x => x ∈ results.filterMap (·.2) ∨ primary.get x.intentId = some x) store)
    (by
      intro _ results store op order mirrorable
      have next := order.apply mirrorable
      simpa only [apply, mirrored, List.mem_filterMap, List.mem_cons, exists_eq_or_imp,
        or_assoc] using next)
    ops [] [] primary (by simpa using WriteOrder.start primary) mirrorable
  simpa [mirrorWrites] using order

/-- From stores that agree, once the mirror writes of a run have been applied in any order, the row of every
    intent is the row of its in-memory record. -/
theorem mirror_converges (primary : IntentStore) (secondary : IntentTable)
    (inSync : ∀ id, secondary.findUnique id = (primary.get id).map createdRow) (ops : List IntentsOperation)
    (mirrorable : Component.Meets apply (fun _ store op => Mirrorable store op) [] primary ops) (arrivals : List Intent)
    (all : arrivals.Perm (mirrorWrites primary ops)) (id : String) :
    (deliver secondary arrivals).findUnique id = ((run apply primary ops).2.get id).map createdRow := by
  have order := writeOrder_run primary ops mirrorable
  have sound (x : Intent) (isBase : primary.get x.intentId = some x) :
      x ∈ mirrorWrites primary ops ∨ primary.get x.intentId = some x := .inr isBase
  have sent (x : Intent) (arrives : x ∈ arrivals) :
      x ∈ mirrorWrites primary ops ∨ primary.get x.intentId = some x := .inl (all.mem_iff.mp arrives)
  have newest := Newest.deliver_all mirror_newestWins Superseded.refl Superseded.trans order.linear arrivals
    _ secondary sound sent (newest_of_inSync inSync)
  generalize (run apply primary ops).2 = memory at order ⊢
  have isKnown (x : Intent) (isSeen : x ∈ arrivals ∨ primary.get x.intentId = some x) :
      x ∈ mirrorWrites primary ops ∨ primary.get x.intentId = some x :=
    isSeen.imp_left all.mem_iff.mp
  cases found : memory.get id with
  | none =>
    -- Whatever was sent for the intent would still be stored.
    rcases newest id with ⟨absent, _⟩ | ⟨m, isSeen, rfl, _⟩
    · exact absent
    · obtain ⟨current, stored, _⟩ := order.last m (isKnown m isSeen)
      rw [found] at stored
      cases stored
  | some current =>
    have isId : current.intentId = id := IntentStore.intentId_of_get found
    subst isId
    apply newest.eq_newest Superseded.antisymm
    · exact (order.stored _ current found).imp_left all.mem_iff.mpr
    · intro y isSeen sameId
      obtain ⟨current', stored, below⟩ := order.last y (isKnown y isSeen)
      rw [sameId, found, Option.some.injEq] at stored
      exact stored ▸ below

/-- An intent, as it was created. -/
private def newIntent : Intent where
  intentId := "intent-1"
  user := "G1"
  srcChain := .stellar
  srcToken := ⟨"C1", "XLM", 7⟩
  srcAmount := "100"
  dstToken := ⟨"C2", "USDC", 7⟩
  minDstAmount := "90"
  createdAt := 0
  deadline := 200
  version := some 0

/-- The mirror write of an accept overtakes that of the creation. -/
theorem overtaking_mirror_converges :
    let ops : List IntentsOperation := [.save newIntent, .acceptIfOpen "intent-1" "S" 400 150 none]
    (∀ id, (deliver .empty (mirrorWrites .empty ops).reverse).findUnique id =
        ((run apply .empty ops).2.get id).map createdRow) ∧
      ((run apply .empty ops).2.get "intent-1").map (·.state) = some .accepted := by
  constructor
  · intro id
    exact mirror_converges .empty .empty (fun _ => rfl) _ (by simp [Component.Meets, Mirrorable]) _
      (List.reverse_perm _) id
  · decide

/-- The mirror write of an amendment is dropped: Postgres keeps the old terms. -/
theorem amendment_not_mirrored :
    let ops : List IntentsOperation := [.save newIntent, .amendIfOpen "intent-1" "80" 300 100]
    ((deliver .empty (mirrorWrites .empty ops)).findUnique "intent-1").map
        (fun row => (row.minDstAmount, row.deadline)) = some ("90", 200) ∧
      ((run apply .empty ops).2.get "intent-1").map
        (fun i => (i.minDstAmount, i.deadline)) = some ("80", 300) := by
  decide

end VortexBackend
