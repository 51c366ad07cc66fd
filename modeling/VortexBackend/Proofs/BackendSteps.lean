/-
Module: VortexBackend.Proofs.BackendSteps
Purpose: A call writes at most one intent, one tranche and one pending slash, and says in its reply which.
Main exports: IntentCall.Writes, stored_after
-/
import VortexBackend.Backend.Service

namespace VortexBackend

open BackendWorld FillStore

/-! ### The intent store -/

/-- The intent that a call of the store wrote. -/
def IntentCall.written : (call : IntentCall) → call.Reply → Option Intent
  | .save intent, _ => some intent
  | .amendIfOpen .., reply => reply
  | .update .., reply => reply.toOption
  | .acceptIfOpen .., reply => reply.toOption
  | .fillIfAccepted .., reply => reply.toOption
  | .extendDeadlineIfAccepted .., reply => reply.toOption
  | .cancelIfOpen _, reply => reply.toOption
  | .expireIfOpen _, reply => reply.toOption
  | .slashIfAccepted .., reply => reply.toOption
  | .transitionIf .., reply => reply.toOption
  | .findById _, _ | .findAll, _ | .findByState _, _ | .findByUser _, _ | .delete _, _ => none

/-- The intent that a call names. -/
def IntentCall.target : IntentCall → String
  | .save intent => intent.intentId
  | .findById id | .delete id | .update id .. | .amendIfOpen id .. | .acceptIfOpen id .. | .fillIfAccepted id ..
  | .extendDeadlineIfAccepted id _ | .cancelIfOpen id | .expireIfOpen id | .slashIfAccepted id ..
  | .transitionIf id .. => id
  | .findAll | .findByState _ | .findByUser _ => ""

open IntentStore (bumped)

/-- When a call overwrites a stored intent, and with what. -/
def IntentCall.Writes (clock : Nat) : IntentCall → Intent → Intent → Prop
  | .update id patch version, existing, updated =>
    existing.intentId = id ∧ (∀ v, version = some v → existing.currentVersion = v) ∧
      updated = bumped existing (·.assign patch)
  | .amendIfOpen id minDstAmount deadline now, existing, updated =>
    existing.intentId = id ∧ existing.state = .open ∧ now.getD (clock / 1000) < existing.deadline ∧
      now.getD (clock / 1000) < deadline ∧ updated = { existing with minDstAmount, deadline }
  | .acceptIfOpen id solver newDeadline now, existing, updated =>
    existing.intentId = id ∧ existing.state = .open ∧ now < existing.deadline ∧
      updated = bumped existing fun i =>
        { i with state := .accepted, solver := some solver, deadline := newDeadline }
  | .fillIfAccepted id solver patch now, existing, updated =>
    existing.intentId = id ∧ existing.state = .accepted ∧ existing.solver = some solver ∧
      now < existing.deadline ∧ updated = bumped existing fun i => { i.assign patch with state := .filled }
  | .extendDeadlineIfAccepted id newDeadline, existing, updated =>
    existing.intentId = id ∧ existing.state = .accepted ∧ existing.deadline < newDeadline ∧
      updated = bumped existing fun i => { i with deadline := newDeadline }
  | .cancelIfOpen id, existing, updated =>
    existing.intentId = id ∧ existing.state = .open ∧
      updated = bumped existing fun i => { i with state := .cancelled }
  | .expireIfOpen id, existing, updated =>
    existing.intentId = id ∧ existing.state = .open ∧
      updated = bumped existing fun i => { i with state := .expired }
  | .slashIfAccepted id slashedAt slashReason, existing, updated =>
    existing.intentId = id ∧ existing.state = .accepted ∧
      updated = bumped existing fun i =>
        { i with slashedAt := some slashedAt, slashReason := some slashReason, state := .slashed }
  | .transitionIf id «from» «to» patch, existing, updated =>
    existing.intentId = id ∧ existing.state = «from» ∧
      updated = bumped existing fun i => { i.assign patch with state := «to» }
  | .save _, _, _ | .findById _, _, _ | .findAll, _, _ | .findByState _, _, _ | .findByUser _, _, _
  | .delete _, _, _ => False

theorem IntentCall.Writes.names {c : IntentCall} {clock : Nat} {existing updated : Intent}
    (writes : c.Writes clock existing updated) : existing.intentId = c.target := by
  cases c with
  | save | findById | findAll | findByState | findByUser | delete => cases writes
  | _ => exact writes.1

namespace IntentStore

theorem mutate_written {store : IntentStore} {id : String} {version : Option Nat}
    {guard : Intent → Bool} {apply : Intent → Intent} {other : Prop} {fresh : Intent → Prop}
    {Writes : Intent → Intent → Prop}
    (writes : ∀ existing, existing.intentId = id → guard existing = true →
      (∀ v, version = some v → existing.currentVersion = v) → Writes existing (bumped existing apply)) :
    ((store.mutate id version guard apply).1.toOption = none ∧
        (store.mutate id version guard apply).2 = store) ∨
      other ∨ ∃ updated, (store.mutate id version guard apply).1.toOption = some updated ∧
        (store.mutate id version guard apply).2 = store.put updated ∧
        (fresh updated ∨ ∃ existing, store.get updated.intentId = some existing ∧ Writes existing updated) := by
  generalize mutated : store.mutate id version guard apply = outcome
  obtain ⟨result, store'⟩ := outcome
  rcases mutate_cases mutated with missed | ⟨existing, present, guarded, sameVersion, rfl, stored⟩
  · exact .inl missed
  · have isId := intentId_of_get present
    exact .inr (.inr ⟨_, rfl, stored,
      .inr ⟨existing, isId.symm ▸ present, writes existing isId guarded sameVersion⟩⟩)

theorem perform_cases (store : IntentStore) (clock : Nat) (call : IntentCall) :
    (call.written (store.perform clock call).1 = none ∧ (store.perform clock call).2 = store) ∨
      (∃ id, call = .delete id ∧ (store.perform clock call).2 = (store.delete id).2) ∨
      ∃ updated, call.written (store.perform clock call).1 = some updated ∧
        (store.perform clock call).2 = store.put updated ∧
        (call = .save updated ∨
          ∃ existing, store.get updated.intentId = some existing ∧ call.Writes clock existing updated) := by
  cases call with
  | save intent => exact .inr (.inr ⟨intent, rfl, rfl, .inl rfl⟩)
  | delete id => exact .inr (.inl ⟨id, rfl, rfl⟩)
  | findAll | findById | findByState | findByUser => exact .inl ⟨rfl, rfl⟩
  | amendIfOpen id minDstAmount deadline now =>
    rcases amendIfOpen_cases
        (rfl : store.amendIfOpen id minDstAmount deadline (now.getD (clock / 1000)) = (_, _)) with
      missed | ⟨existing, present, isOpen, live, later, result, stored⟩
    · exact .inl missed
    · have isId := intentId_of_get present
      exact .inr (.inr ⟨_, result, stored, .inr ⟨existing, isId ▸ present, isId, isOpen, live, later, rfl⟩⟩)
  | update => exact mutate_written fun _ isId _ sameVersion => ⟨isId, sameVersion, rfl⟩
  | acceptIfOpen | extendDeadlineIfAccepted =>
    refine mutate_written fun _ isId guarded _ => ?_
    rw [Bool.and_eq_true, beq_iff_eq, decide_eq_true_eq] at guarded
    exact ⟨isId, guarded.1, guarded.2, rfl⟩
  | fillIfAccepted =>
    refine mutate_written fun _ isId guarded _ => ?_
    rw [Bool.and_eq_true, Bool.and_eq_true, beq_iff_eq, beq_iff_eq, decide_eq_true_eq] at guarded
    exact ⟨isId, guarded.1.1, guarded.1.2, guarded.2, rfl⟩
  | cancelIfOpen | expireIfOpen | slashIfAccepted | transitionIf =>
    exact mutate_written fun _ isId guarded _ => ⟨isId, beq_iff_eq.mp guarded, rfl⟩

end IntentStore

/-- The intent that a call wrote. -/
def BackendCall.wrote : (call : BackendCall) → BackendReply call → Option Intent
  | .intents c, reply => c.written reply
  | _, _ => none

/-- The tranche that a call added or settled. -/
def BackendCall.tranche : (call : BackendCall) → BackendReply call → Option IntentFill
  | .fills (.insert _), fill => some fill
  | .fills (.markFilled ..), result => result
  | .fills (.markSlashed ..), result => result
  | .fills (.markReleased ..), result => result
  | _, _ => none

/-- When a call settles a reservation, and how. -/
def FillCall.Settles : FillCall → IntentFill → IntentFill → Prop
  | .markFilled fillId solver patch, current, updated =>
    current.fillId = fillId ∧ current.status = .reserved ∧ current.solver = solver ∧
      patch.filledAt < current.deadline ∧
      updated = { current with
        status := .filled, dstAmount := some patch.dstAmount, feeAmount := some patch.feeAmount
        txHash := patch.txHash, filledAt := some patch.filledAt }
  | .markSlashed fillId now, current, updated =>
    current.fillId = fillId ∧ current.status = .reserved ∧ current.deadline ≤ now ∧
      updated = { current with status := .slashed, slashedAt := some now }
  | .markReleased fillId now, current, updated =>
    current.fillId = fillId ∧ current.status = .reserved ∧
      updated = { current with status := .released, releasedAt := some now }
  | _, _, _ => False

variable {current updated : IntentFill}

theorem FillCall.Settles.wasReserved {c : FillCall} (h : c.Settles current updated) : current.status = .reserved := by
  cases c with
  | markFilled | markSlashed | markReleased => exact h.2.1
  | _ => cases h

theorem FillCall.Settles.sameAmount {c : FillCall} (h : c.Settles current updated) :
    updated.reservedAmount = current.reservedAmount := by
  cases c with
  | markFilled => obtain ⟨_, _, _, _, rfl⟩ := h; rfl
  | markSlashed => obtain ⟨_, _, _, rfl⟩ := h; rfl
  | markReleased => obtain ⟨_, _, rfl⟩ := h; rfl
  | _ => cases h

/-- An open intent, for the runs on fixed inputs. -/
def sampleIntent : Intent where
  intentId := "I"
  user := "U"
  srcChain := .base
  srcToken := ⟨"T", "USDC", 6⟩
  srcAmount := "100"
  dstToken := ⟨"D", "USDC", 7⟩
  minDstAmount := "90"
  createdAt := 0
  deadline := 100

section Perform

variable {call : BackendCall} {choice : BackendChoice} {w w' : BackendWorld} {reply : BackendReply call}

section

variable (h : perform call choice w = some (reply, w'))
include h

theorem perform_frame :
    w'.clock = w.clock ∧ (w'.intents = w.intents ∨ ∃ c, call = .intents c) ∧
      ((w'.fills = w.fills ∧ w'.locks = w.locks) ∨ ∃ c, call = .fills c) ∧
      (w'.slashes = w.slashes ∨ ∃ c, call = .slashes c) := by
  cases call with
  | fills c =>
    cases c <;> simp only [perform, performFill] at h <;> (try split at h) <;> cases h <;>
      exact ⟨rfl, .inl rfl, .inr ⟨_, rfl⟩, .inl rfl⟩
  | creation | newId | beginLoop =>
    simp only [perform] at h
    split at h <;> cases h <;> exact ⟨rfl, .inl rfl, .inl ⟨rfl, rfl⟩, .inl rfl⟩
  | intents c =>
    cases h
    exact ⟨rfl, .inr ⟨c, rfl⟩, .inl ⟨rfl, rfl⟩, .inl rfl⟩
  | slashes c =>
    cases h
    exact ⟨rfl, .inl rfl, .inl ⟨rfl, rfl⟩, .inr ⟨c, rfl⟩⟩
  | solvers | schedule | external | now | killSwitch | audit | recordFill | endLoop =>
    cases h
    exact ⟨rfl, .inl rfl, .inl ⟨rfl, rfl⟩, .inl rfl⟩

theorem perform_clock : w'.clock = w.clock :=
  (perform_frame h).1

theorem perform_fills : (w'.fills = w.fills ∧ w'.locks = w.locks) ∨ ∃ c, call = .fills c :=
  (perform_frame h).2.2.1

theorem perform_slashes : w'.slashes = w.slashes ∨ ∃ c, call = .slashes c :=
  (perform_frame h).2.2.2

/-- A call writes the intent it reports, or deletes the one it names, or leaves the intents alone. -/
theorem perform_intents_cases :
    (call.wrote reply = none ∧ w'.intents = w.intents) ∨
      (∃ id, call = .intents (.delete id) ∧ w'.intents = (w.intents.delete id).2) ∨
      ∃ c updated, call = .intents c ∧ call.wrote reply = some updated ∧
        w'.intents = w.intents.put updated ∧
        (c = .save updated ∨
          ∃ existing, w.intents.get updated.intentId = some existing ∧
            c.Writes w.clock existing updated) := by
  cases call with
  | intents c =>
    cases h
    rcases w.intents.perform_cases w.clock c with
      missed | ⟨id, isDelete, deleted⟩ | ⟨updated, written, stored, how⟩
    · exact .inl missed
    · exact .inr (.inl ⟨id, by rw [isDelete], deleted⟩)
    · exact .inr (.inr ⟨c, updated, rfl, written, stored, how⟩)
  | _ =>
    rcases (perform_frame h).2.1 with same | ⟨c, isCall⟩
    · exact .inl ⟨rfl, same⟩
    · cases isCall

end

variable {c : IntentCall} {d : BackendWorld.Drift}

/-- How a call came to write an intent: a save, or a conditional write of a stored intent. -/
theorem written_how {reply} (h : perform (.intents c) choice w = some (reply, w')) {updated}
    (wrote : c.written reply = some updated) :
    w'.intents = w.intents.put updated ∧
      (c = .save updated ∨
        ∃ existing, w.intents.get updated.intentId = some existing ∧ c.Writes w.clock existing updated) := by
  rcases perform_intents_cases h with
    ⟨missed, _⟩ | ⟨id, isDelete, _⟩ | ⟨c', updated', isCall, wrote', stored, how⟩
  · cases wrote.symm.trans missed
  · cases isDelete
    cases wrote
  · cases isCall
    cases wrote.symm.trans wrote'
    exact ⟨stored, how⟩

theorem written_stored {reply : c.Reply} (h : perform (.intents c) choice w = some (reply, w'))
    {updated : Intent} (wrote : c.written reply = some updated) :
    updated.intentId = c.target ∧ w'.intents.get c.target = some updated := by
  obtain ⟨stored, how⟩ := written_how h wrote
  have isTarget : updated.intentId = c.target := by
    rcases how with rfl | ⟨existing, found, writes⟩
    · rfl
    · exact (IntentStore.intentId_of_get found).symm.trans writes.names
  rw [stored, IntentStore.get_put, if_pos isTarget.symm]
  exact ⟨isTarget, rfl⟩

/-- Where a stored intent comes from: it was stored before, or the call wrote it. -/
theorem stored_after (h : perform call choice w = some (reply, w')) {id after}
    (present : w'.intents.get id = some after) :
    w.intents.get id = some after ∨
      ∃ c, call = .intents c ∧ call.wrote reply = some after ∧
        (c = .save after ∨ ∃ before, w.intents.get id = some before ∧ c.Writes w.clock before after) := by
  rcases perform_intents_cases h with
    ⟨_, same⟩ | ⟨key, _, deleted⟩ | ⟨c, updated, isCall, wrote, stored, how⟩
  · rw [same] at present
    exact .inl present
  · rw [deleted, IntentStore.get_delete] at present
    split at present
    · cases present
    · exact .inl present
  · rw [stored, IntentStore.get_put] at present
    split at present
    · rename_i isId
      cases present
      exact .inr ⟨c, isCall, wrote, isId ▸ how⟩
    · exact .inl present

section

variable (h : drift d w = some w')
include h

theorem intents_drift : w'.intents = w.intents := by
  cases d <;> cases h <;> rfl

theorem slashes_drift : w'.slashes = w.slashes := by
  cases d <;> cases h <;> rfl

theorem clock_drift : w.clock ≤ w'.clock := by
  cases d with
  | tick ms =>
    cases h
    exact Nat.le_add_right _ _
  | setKillSwitch | losePenalties =>
    cases h
    exact le_rfl

end

theorem intents_quiet (h : w' = w ∨ ∃ d, drift d w = some w') : w'.intents = w.intents := by
  rcases h with same | ⟨d, drifted⟩
  · rw [same]
  · exact intents_drift drifted

section

variable (h : perform call choice w = some (reply, w'))
include h

theorem fills_of_intents (isCall : call = .intents c) : w'.fills = w.fills := by
  rcases perform_fills h with ⟨same, _⟩ | ⟨c', isFills⟩
  · exact same
  · rw [isCall] at isFills
    cases isFills

/-! ### The tranche store -/

/-- A call adds the tranche it reports, settles the reservation it reports, or leaves the tranches alone. -/
theorem perform_tranche_cases :
    w'.fills = w.fills ∨
      (∃ row fill fresh, call = .fills (.insert row) ∧ call.tranche reply = some fill ∧
        fill = { row with fillId := fill.fillId } ∧ w'.fills = w.fills.insert fill fresh) ∨
      ∃ c current updated present same sameIntent, call = .fills c ∧ call.tranche reply = some updated ∧
        c.Settles current updated ∧
        w'.fills = w.fills.replace current updated present same sameIntent := by
  cases call with
  | fills c =>
    cases c with
    | insert row =>
      simp only [perform, performFill] at h
      split at h
      · rename_i fresh
        cases h
        exact .inr (.inl ⟨row, _, fresh, rfl, rfl, rfl, rfl⟩)
      · cases h
    | markFilled fillId solver patch =>
      cases h
      rcases change_cases (rfl : w.fills.markFilled fillId solver patch = (_, _)) with
        ⟨_, same⟩ | ⟨current, updated, present, isId, guarded, rfl, same, sameIntent, result, stored⟩
      · exact .inl same
      · rw [Bool.and_eq_true, Bool.and_eq_true, beq_iff_eq, beq_iff_eq, decide_eq_true_eq] at guarded
        exact .inr (.inr ⟨_, current, _, present, same, sameIntent, rfl, result,
          ⟨isId, guarded.1.1, guarded.1.2, guarded.2, rfl⟩, stored⟩)
    | markSlashed fillId now =>
      cases h
      rcases change_cases (rfl : w.fills.markSlashed fillId now = (_, _)) with
        ⟨_, same⟩ | ⟨current, updated, present, isId, guarded, rfl, same, sameIntent, result, stored⟩
      · exact .inl same
      · rw [Bool.and_eq_true, beq_iff_eq, decide_eq_true_eq] at guarded
        exact .inr (.inr ⟨_, current, _, present, same, sameIntent, rfl, result,
          ⟨isId, guarded.1, guarded.2, rfl⟩, stored⟩)
    | markReleased fillId now =>
      cases h
      rcases change_cases (rfl : w.fills.markReleased fillId now = (_, _)) with
        ⟨_, same⟩ | ⟨current, updated, present, isId, guarded, rfl, same, sameIntent, result, stored⟩
      · exact .inl same
      · exact .inr (.inr ⟨_, current, _, present, same, sameIntent, rfl, result,
          ⟨isId, beq_iff_eq.mp guarded, rfl⟩, stored⟩)
    | findById | listByIntent | findExpiredReservations | enter | leave =>
      cases h
      exact .inl rfl
    | wait ticket =>
      obtain ⟨_, ⟨⟩⟩ := Option.ite_none_right_eq_some.mp h
      exact .inl rfl
  | _ =>
    rcases perform_fills h with ⟨same, _⟩ | ⟨c, isCall⟩
    · exact .inl same
    · cases isCall

theorem perform_rows_cases (id : String) :
    w'.fills.listByIntent id = w.fills.listByIntent id ∨
      (∃ row fill, call = .fills (.insert row) ∧ row.intentId = id ∧ fill = { row with fillId := fill.fillId } ∧
        w'.fills.listByIntent id = w.fills.listByIntent id ++ [fill]) ∨
      ∃ c current updated, call = .fills c ∧ c.Settles current updated ∧ current ∈ w.fills.listByIntent id ∧
        w'.fills.listByIntent id = (w.fills.listByIntent id).map fun f => if f = current then updated else f := by
  rcases perform_tranche_cases h with same | ⟨row, fill, fresh, isCall, _, isFill, stored⟩ |
    ⟨c, current, updated, present, same, sameIntent, isCall, _, settles, stored⟩
  · rw [same]
    exact .inl rfl
  · have isKey : fill.intentId = row.intentId := by rw [isFill]
    rw [stored, listByIntent_insert, isKey]
    split
    · rename_i isId
      exact .inr (.inl ⟨row, fill, isCall, isId.symm, isFill, rfl⟩)
    · exact .inl rfl
  · rw [stored]
    by_cases isId : id = current.intentId
    · refine .inr (.inr ⟨c, current, updated, isCall, settles, ?_, listByIntent_replace id⟩)
      exact mem_listByIntent.mpr ⟨present, isId.symm⟩
    · exact .inl (listByIntent_replace_of_ne isId)

end

end Perform

end VortexBackend
