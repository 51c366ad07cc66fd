/-
Module: VortexBackend.Proofs.ResumeQuorum
Purpose: A switch is resumed by as many different approvers as the resuming call asks for.
Main exports: switches_resume_by_quorum
-/
import VortexBackend.KillSwitch.Repository
import VortexBackend.Sequential.Quorum

namespace VortexBackend

open PrismaKillSwitches Ballot.Step Table

/-- What an operation was about, by its answer. A call that threw was about nothing. -/
def killSwitchEvent : KillSwitchOp → Except String KillSwitchRecord → QuorumEvent String String
  | .activate _ _, .ok record => .opened record.id
  | .resumeIfApproved id approver approvalsRequired _ _, .ok _ => .approved id approver approvalsRequired
  | _, .error _ => .other

/-- In every run, an operation after which a switch is no longer active is an approval of that switch, and with it at
    least as many different approvers as it asks for have approved since the switch was activated last. -/
def ResumesByQuorum {Store : Type} (step : Component Store KillSwitchOp (Except String KillSwitchRecord))
    (isActive : Store → String → Bool) (start : Store) : Prop :=
  ∀ (ops : List KillSwitchOp) (op : KillSwitchOp) (id : String),
    let s := (step.run start ops).2
    isActive s id = true → isActive (step s op).2 id = false →
    ∃ approver approvalsRequired note now, op = .resumeIfApproved id approver approvalsRequired note now ∧
      approvalsRequired ≤ (approvalsSince id
        (killSwitchEvent op (step s op).1 :: step.history killSwitchEvent start ops)).card

variable {id approver : String}

theorem op_of_approved {op result required} (isEvent : killSwitchEvent op result = .approved id approver required) :
    ∃ note now, op = .resumeIfApproved id approver required note now := by
  cases op with
  | activate input uuid => cases result <;> cases isEvent
  | resumeIfApproved id' approver' required' note now =>
    cases result with
    | error message => cases isEvent
    | ok record =>
      cases isEvent
      exact ⟨note, now, rfl⟩

theorem resumesByQuorum_of_ballot {Store : Type} {step} (ballot : Store → Ballot String String)
    (one : ∀ s op, Ballot.Step (ballot s) (ballot (step s op).2) (killSwitchEvent op (step s op).1)) {start}
    (nobody : ∀ id, (ballot start).approvers id = ∅) : ResumesByQuorum step (fun s => (ballot s).active) start := by
  intro ops op id s wasActive isInactive
  obtain ⟨approver, required, isEvent, quorum⟩ := closed_by_quorum ballot one nobody ops op wasActive isInactive
  obtain ⟨note, now, isOp⟩ := op_of_approved isEvent
  exact ⟨approver, required, note, now, isOp, quorum⟩

/-! ### In memory -/

variable {key : String}

namespace InMemoryKillSwitches

variable {s : InMemoryKillSwitches}

def isActive (s : InMemoryKillSwitches) (id : String) : Bool := (s.list.find id).any (·.active)

/-- The approvers are kept in the record. -/
def ballot (s : InMemoryKillSwitches) : Ballot String String where
  active := s.isActive
  approvers id := (s.list.find id).elim ∅ (·.approvers.toFinset)

theorem ballot_store (record : KillSwitchRecord) (isId : record.id = "ks_" ++ key) (nodup : record.approvers.Nodup)
    (id : String) :
    (s.store key record isId nodup).ballot.active id =
        (if id = record.id then record.active else s.ballot.active id) ∧
      (s.store key record isId nodup).ballot.approvers id =
        if id = record.id then record.approvers.toFinset else s.ballot.approvers id := by
  have replaces : s.list.Replaces key record := by
    intro old stored
    change old.id = record.id
    rw [s.ids key old stored, isId]
  have found : (s.store key record isId nodup).list.find id = if id = record.id then some record else s.list.find id :=
    find_put (s.admits isId) replaces id
  constructor
  · change Option.any _ ((s.store key record isId nodup).list.find id) = _
    rw [found]
    split <;> rfl
  · change Option.elim ((s.store key record isId nodup).list.find id) _ _ = _
    rw [found]
    split <;> rfl

variable {record : KillSwitchRecord} {key id : String}

theorem approvers_of_entry (found : s.list.entry id = some (key, record)) :
    s.ballot.approvers id = record.approvers.toFinset := by
  change Option.elim (Option.map Prod.snd (s.list.entry id)) _ _ = _
  rw [found]
  rfl

theorem active_of_entry (found : s.list.entry id = some (key, record)) : s.ballot.active id = record.active := by
  change Option.any _ (Option.map Prod.snd (s.list.entry id)) = _
  rw [found]
  rfl

theorem toFinset_approve (approvers : List String) (approver : String) :
    (approve approvers approver).toFinset = insert approver approvers.toFinset := by
  rw [approve]
  split
  · rename_i present
    exact (Finset.insert_eq_self.mpr (List.mem_toFinset.mpr present)).symm
  · ext a
    simp

theorem opened_of_store (record : KillSwitchRecord) (isId : record.id = "ks_" ++ key) (nodup : record.approvers.Nodup)
    (active : record.active = true) (nobody : record.approvers = []) :
    Ballot.Step s.ballot (s.store key record isId nodup).ballot (.opened record.id) := by
  apply opened
  · intro id
    rw [(ballot_store record isId nodup id).1, active]
  · intro id
    rw [(ballot_store record isId nodup id).2, nobody]
    rfl

theorem step_activate (input : ActivateInput) :
    Ballot.Step s.ballot (s.activate input).2.ballot (.opened (s.activate input).1.id) := by
  rw [activate]
  split
  · rename_i existing stored
    exact opened_of_store (reactivate existing input) (s.ids _ existing stored) List.nodup_nil rfl rfl
  · exact opened_of_store (create input) (create_id input) List.nodup_nil rfl rfl

theorem step_resume (id approver : String) (required now : Nat) (note : Option String) :
    Ballot.Step s.ballot (s.resumeIfApproved id approver required now).2.ballot
      (killSwitchEvent (.resumeIfApproved id approver required note now)
        (s.resumeIfApproved id approver required now).1) := by
  rw [resumeIfApproved]
  split
  · exact .other rfl
  · rename_i key record found
    obtain ⟨stored, isRecord⟩ := entry_eq_some.mp found
    have isId := s.ids key record stored
    have nodup := nodup_approve (s.distinct key record stored) approver
    have approvers := approvers_of_entry found
    split
    · exact .ignored id approver required rfl
    · rename_i isActive
      rw [Bool.not_eq_true', Bool.not_eq_false] at isActive
      dsimp only
      split
      · -- one more approver, and the switch stays active
        apply recorded
        · funext j
          rw [(ballot_store { record with approvers := approve record.approvers approver } isId nodup j).1]
          split
          · rename_i same
            rw [same, show record.id = id from isRecord, active_of_entry found]
          · rfl
        · intro j
          rw [(ballot_store { record with approvers := approve record.approvers approver } isId nodup j).2,
            show record.id = id from isRecord, toFinset_approve, approvers]
      · rename_i enough
        apply closed
        · rw [approvers, ← toFinset_approve, List.toFinset_card_of_nodup nodup]
          exact Nat.le_of_not_lt enough
        · intro j
          rw [(ballot_store (resume record now) isId List.nodup_nil j).1,
            show (resume record now).id = id from isRecord]
          rfl
        · intro j
          rw [(ballot_store (resume record now) isId List.nodup_nil j).2,
            show (resume record now).id = id from isRecord]
          rfl

theorem ballot_step (s : InMemoryKillSwitches) (op : KillSwitchOp) :
    Ballot.Step s.ballot (step s op).2.ballot (killSwitchEvent op (step s op).1) := by
  cases op with
  | activate input uuid => exact step_activate input
  | resumeIfApproved id approver required note now => exact step_resume id approver required now note

end InMemoryKillSwitches

/-! ### Behind Prisma -/

namespace PrismaKillSwitches

variable {s : PrismaKillSwitches}

def isActive (s : PrismaKillSwitches) (id : String) : Bool := (s.killSwitch.find id).any (·.active)

/-- The approvers that have a row for a switch. -/
def approversOf (approvals : JsMap (String × String) KillSwitchApproval) (id : String) : Finset String :=
  ((approvals.entries.filter (·.1.1 = id)).map (·.1.2)).toFinset

/-- The approvers are kept in the other table. -/
def ballot (s : PrismaKillSwitches) : Ballot String String where
  active := s.isActive
  approvers := approversOf s.killSwitchApproval

section Approvals

variable {approvals : JsMap (String × String) KillSwitchApproval}

theorem mem_approversOf :
    approver ∈ approversOf approvals id ↔ ∃ row, approvals.get (id, approver) = some row := by
  simp only [approversOf, List.mem_toFinset, List.mem_map, List.mem_filter, decide_eq_true_eq, JsMap.get_eq_some]
  constructor
  · rintro ⟨⟨⟨id', approver'⟩, row⟩, ⟨member, rfl⟩, rfl⟩
    exact ⟨row, member⟩
  · rintro ⟨row, member⟩
    exact ⟨((id, approver), row), ⟨member, rfl⟩, rfl⟩

theorem card_approversOf (id : String) : (approversOf approvals id).card = countApprovals approvals id := by
  rw [approversOf, countApprovals, List.toFinset_card_of_nodup, List.length_map]
  have keys : ((approvals.entries.filter (·.1.1 = id)).map Prod.fst).Nodup :=
    approvals.nodup.sublist (List.filter_sublist.map _)
  rw [List.Nodup, List.pairwise_map] at keys ⊢
  refine keys.imp_of_mem ?_
  intro e e' first second differ same
  have ofId := of_decide_eq_true (List.mem_filter.mp first).2
  have ofId' := of_decide_eq_true (List.mem_filter.mp second).2
  exact differ (Prod.ext (ofId.trans ofId'.symm) same)

theorem approversOf_set (id approver : String) (row : KillSwitchApproval) (j : String) :
    approversOf (approvals.set (id, approver) row) j =
      if j = id then insert approver (approversOf approvals id) else approversOf approvals j := by
  ext a
  rw [mem_approversOf, JsMap.get_set]
  by_cases same : j = id
  · subst same
    by_cases isApprover : a = approver
    · simp [isApprover]
    · simp [isApprover, mem_approversOf]
  · simp [same, mem_approversOf]

theorem approversOf_deleteWhere (id j : String) :
    approversOf (approvals.deleteWhere (ofSwitch id)) j = if j = id then ∅ else approversOf approvals j := by
  ext a
  rw [mem_approversOf, JsMap.get_deleteWhere]
  by_cases same : j = id
  · simp [ofSwitch, same]
  · simp [ofSwitch, same, mem_approversOf]

end Approvals

theorem active_write {row} (admits : s.killSwitch.Admits key row) (replaces : s.killSwitch.Replaces key row)
    (deleted : String × String → Bool) (id : String) :
    (s.write key row admits replaces deleted).ballot.active id =
      if id = row.id then row.active else s.ballot.active id := by
  have found : (s.killSwitch.put key row admits).find id = if id = row.id then some row else s.killSwitch.find id :=
    find_put admits replaces id
  change Option.any _ ((s.killSwitch.put key row admits).find id) = _
  rw [found]
  split <;> rfl

theorem approversOf_absent {id} (absent : s.killSwitch.find id = none) : approversOf s.killSwitchApproval id = ∅ := by
  rw [Finset.eq_empty_iff_forall_notMem]
  intro approver member
  obtain ⟨row, stored⟩ := mem_approversOf.mp member
  have isSwitch := s.references _ row stored
  rw [absent] at isSwitch
  cases isSwitch

theorem step_activate (input : ActivateInput) (uuid : String) :
    Ballot.Step s.ballot (s.activate input uuid).2.ballot
      (killSwitchEvent (.activate input uuid) (s.activate input uuid).1) := by
  rw [activate]
  split
  · rename_i row stored
    apply opened
    · intro id
      apply active_write
      exact replaces_of_same stored rfl
    · exact fun id => approversOf_deleteWhere row.id id
  · rename_i absent
    split
    · exact .other rfl
    · rename_i fresh
      apply opened
      · intro id
        apply active_write
        exact replaces_of_absent absent
      · -- a new row has a new id, and an approval refers to a row that exists
        intro id
        have kept : (s.killSwitchApproval.deleteWhere fun _ => false).entries = s.killSwitchApproval.entries := by
          simp [JsMap.deleteWhere]
        change approversOf (s.killSwitchApproval.deleteWhere fun _ => false) id = _
        rw [approversOf, kept]
        split
        · rename_i isNew
          exact isNew ▸ approversOf_absent fresh
        · rfl

theorem step_resume (id approver : String) (required : Nat) (note : Option String) (now : Nat) :
    Ballot.Step s.ballot (s.resumeIfApproved id approver required note now).2.ballot
      (killSwitchEvent (.resumeIfApproved id approver required note now)
        (s.resumeIfApproved id approver required note now).1) := by
  rw [resumeIfApproved]
  split
  · exact .other rfl
  · rename_i key row found
    have isRow : row.id = id := (entry_eq_some.mp found).2
    split
    · exact .ignored id approver required rfl
    · dsimp only
      split
      · apply recorded
        · rfl
        · exact fun j => approversOf_set id approver _ j
      · rename_i enough
        apply closed
        · have counted : approversOf (s.killSwitchApproval.set (id, approver)
              (approval (s.killSwitchApproval.get (id, approver)) note now)) id = _ := approversOf_set id approver _ id
          rw [if_pos rfl] at counted
          change required ≤ (insert approver (approversOf s.killSwitchApproval id)).card
          rw [← counted, card_approversOf]
          exact Nat.le_of_not_lt enough
        · intro j
          rw [active_write, show (resume row now).id = id from isRow]
          rfl
        · intro j
          change approversOf (JsMap.deleteWhere _ (ofSwitch id)) j = _
          rw [approversOf_deleteWhere]
          split
          · rfl
          · rename_i other
            exact (approversOf_set id approver _ j).trans (if_neg other)

theorem ballot_step (s : PrismaKillSwitches) (op : KillSwitchOp) :
    Ballot.Step s.ballot (step s op).2.ballot (killSwitchEvent op (step s op).1) := by
  cases op with
  | activate input uuid => exact step_activate input uuid
  | resumeIfApproved id approver required note now => exact step_resume id approver required note now

end PrismaKillSwitches

/-- Both stores, from empty: whatever is activated and approved in whatever order, a switch becomes inactive only by a
    complete quorum of approvers since it was activated last. -/
theorem switches_resume_by_quorum :
    ResumesByQuorum InMemoryKillSwitches.step InMemoryKillSwitches.isActive .empty ∧
      ResumesByQuorum step isActive .empty :=
  ⟨resumesByQuorum_of_ballot InMemoryKillSwitches.ballot InMemoryKillSwitches.ballot_step fun _ => rfl,
    resumesByQuorum_of_ballot ballot ballot_step fun _ => rfl⟩

/-- A switch is paused, and one operator approves twice, which does not resume it. -/
def approvedTwice : List KillSwitchOp :=
  [.activate ⟨.global, none, none, none, "INCIDENT", "bridge halted", "ann", 1⟩ "row-1",
    .resumeIfApproved "row-1" "bob" 2 none 2, .resumeIfApproved "row-1" "bob" 2 none 3]

/-- A second operator completes the quorum. -/
theorem second_operator_resumes :
    let s := (step.run .empty approvedTwice).2
    let op := KillSwitchOp.resumeIfApproved "row-1" "eve" 2 none 4
    s.isActive "row-1" = true ∧ (step s op).2.isActive "row-1" = false ∧
      ∃ approver approvalsRequired note now, op = .resumeIfApproved "row-1" approver approvalsRequired note now ∧
        approvalsRequired ≤ (approvalsSince "row-1"
          (killSwitchEvent op (step s op).1 :: step.history killSwitchEvent .empty approvedTwice)).card := by
  intro s op
  have active : s.isActive "row-1" = true := by decide +kernel
  have resumed : (step s op).2.isActive "row-1" = false := by decide +kernel
  exact ⟨active, resumed, switches_resume_by_quorum.2 approvedTwice op "row-1" active resumed⟩

end VortexBackend
