/-
Module: VortexBackend.KillSwitch.Repository
Purpose: The two stores of the kill-switches: `activate` opens a switch, `resumeIfApproved` may close it.
Trusted boundary: a Prisma transaction is one step; number columns hold any number; records are values, not the
  live objects that the in-memory store hands out and mutates; scheduled windows and the reading functions are left out
Main exports: InMemoryKillSwitches, PrismaKillSwitches
-/
import VortexBackend.Js.Table
import VortexBackend.KillSwitch.Evaluate
import VortexBackend.Sequential.Run

namespace VortexBackend

open Table

/-- A switch row plus the approval bookkeeping the service needs. -/
structure KillSwitchRecord where
  id : String
  scope : KillSwitchScope
  chain : Option String
  token : Option String
  operation : Option KillSwitchOperation
  active : Bool
  reasonCode : String
  reason : String
  activatedBy : String
  updatedAt : Nat
  approvalsRequired : Nat
  approvers : List String
  resumedAt : Option Nat := none
deriving Repr, DecidableEq

structure ActivateInput where
  scope : KillSwitchScope
  chain : Option String := none
  token : Option String := none
  operation : Option KillSwitchOperation := none
  reasonCode : String
  reason : String
  activatedBy : String
  now : Nat
deriving Repr, DecidableEq

def KillSwitchScope.text : KillSwitchScope → String
  | .global => "global"
  | .chain => "chain"
  | .token => "token"
  | .operation => "operation"

def KillSwitchOperation.text : KillSwitchOperation → String
  | .create => "create"
  | .accept => "accept"
  | .fill => "fill"
  | .slash => "slash"
  | .onchain => "onchain"

/-- The encoding of a switch address. -/
def scopeKey (scope : KillSwitchScope) (chain token : Option String) (operation : Option KillSwitchOperation) :
    String :=
  "|".intercalate [scope.text, chain.getD "", token.getD "", (operation.map (·.text)).getD ""]

def ActivateInput.scopeKey (input : ActivateInput) : String :=
  VortexBackend.scopeKey input.scope input.chain input.token input.operation

/-- An operation of a store. `uuid` is the id that the database generates for a row it creates; the in-memory store
    does not use it. -/
inductive KillSwitchOp where
  | activate (input : ActivateInput) (uuid : String)
  | resumeIfApproved (id approver : String) (approvalsRequired : Nat) (note : Option String) (now : Nat)
deriving Repr, DecidableEq

/-! ### In memory -/

/-- The map of the records. A record's id is made from its key, and its approvers are distinct. -/
structure InMemoryKillSwitches where
  list : Table String String KillSwitchRecord (·.id)
  ids : ∀ key record, list.rows.get key = some record → record.id = "ks_" ++ key
  distinct : ∀ key record, list.rows.get key = some record → record.approvers.Nodup

namespace InMemoryKillSwitches

def empty : InMemoryKillSwitches where
  list := .empty
  ids := fun _ _ stored => nomatch stored
  distinct := fun _ _ stored => nomatch stored

variable (s : InMemoryKillSwitches)

theorem admits {key record} (isId : record.id = "ks_" ++ key) : s.list.Admits key record := by
  intro key' other stored same
  change other.id = record.id at same
  rw [s.ids key' other stored, isId] at same
  rwa [String.append_right_inj] at same

/-- A record is set, or changed in place. -/
def store (key : String) (record : KillSwitchRecord) (isId : record.id = "ks_" ++ key)
    (nodup : record.approvers.Nodup) : InMemoryKillSwitches where
  list := s.list.put key record (s.admits isId)
  ids := by
    intro key' other stored
    change (s.list.rows.set key record).get key' = some other at stored
    rw [JsMap.get_set] at stored
    split at stored
    · rename_i isKey
      cases stored
      rw [isKey, isId]
    · exact s.ids key' other stored
  distinct := by
    intro key' other stored
    change (s.list.rows.set key record).get key' = some other at stored
    rw [JsMap.get_set] at stored
    split at stored
    · cases stored
      exact nodup
    · exact s.distinct key' other stored

/-- The record that `activate` leaves of one that exists. -/
def reactivate (existing : KillSwitchRecord) (input : ActivateInput) : KillSwitchRecord :=
  { existing with
    active := true
    reasonCode := input.reasonCode
    reason := input.reason
    activatedBy := input.activatedBy
    approvers := []
    updatedAt := input.now }

variable (input : ActivateInput)

/-- The record that `activate` creates. -/
def create : KillSwitchRecord where
  id := "ks_" ++ input.scopeKey
  scope := input.scope
  chain := input.chain
  token := input.token
  operation := input.operation
  active := true
  reasonCode := input.reasonCode
  reason := input.reason
  activatedBy := input.activatedBy
  updatedAt := input.now
  approvalsRequired := 2
  approvers := []

theorem create_id : (create input).id = "ks_" ++ input.scopeKey := by rw [create]

def activate : KillSwitchRecord × InMemoryKillSwitches :=
  match h : s.list.rows.get input.scopeKey with
  | some existing =>
    (reactivate existing input, s.store input.scopeKey (reactivate existing input) (s.ids _ existing h) List.nodup_nil)
  | none => (create input, s.store input.scopeKey (create input) (create_id input) List.nodup_nil)

/-- A single operator approving twice must not satisfy the two-approval rule. -/
def approve (approvers : List String) (approver : String) : List String :=
  if approver ∈ approvers then approvers else approvers ++ [approver]

theorem nodup_approve {approvers} (nodup : approvers.Nodup) (approver : String) :
    (approve approvers approver).Nodup := by
  rw [approve]
  split
  · exact nodup
  · rename_i isNew
    exact List.nodup_append.mpr ⟨nodup, List.nodup_singleton _, by
      intro a member b isLast same
      rw [List.mem_singleton.mp isLast] at same
      exact isNew (same ▸ member)⟩

/-- The record that a complete quorum leaves. -/
def resume (record : KillSwitchRecord) (now : Nat) : KillSwitchRecord :=
  { record with active := false, updatedAt := now, resumedAt := some now, approvers := [] }

def resumeIfApproved (id approver : String) (approvalsRequired : Nat) (now : Nat) :
    Except String KillSwitchRecord × InMemoryKillSwitches :=
  match h : s.list.entry id with
  | none => (.error s!"KillSwitch {id} not found", s)
  | some (key, record) =>
    have stored := (entry_eq_some.mp h).1
    if !record.active then (.ok record, s)
    else
      let approved := { record with approvers := approve record.approvers approver }
      if approved.approvers.length < approvalsRequired then
        (.ok approved, s.store key approved (s.ids key record stored) (nodup_approve (s.distinct key record stored) _))
      else (.ok (resume record now), s.store key (resume record now) (s.ids key record stored) List.nodup_nil)

def step : Component InMemoryKillSwitches KillSwitchOp (Except String KillSwitchRecord)
  | s, .activate input _ => (.ok (s.activate input).1, (s.activate input).2)
  | s, .resumeIfApproved id approver approvalsRequired _ now => s.resumeIfApproved id approver approvalsRequired now

end InMemoryKillSwitches

/-! ### Behind Prisma -/

structure KillSwitchRow where
  id : String
  scope : KillSwitchScope
  chain : Option String
  token : Option String
  operation : Option KillSwitchOperation
  active : Bool
  reasonCode : String
  reason : String
  activatedBy : String
  updatedAt : Nat
  createdAt : Nat
  lastResumedAt : Option Nat := none
  approvalsRequired : Nat
deriving Repr, DecidableEq

/-- What an approval row has beside its unique key, the switch and the approver. -/
structure KillSwitchApproval where
  approvedAt : Nat
  note : Option String
deriving Repr, DecidableEq

/-- The two tables: switches by their scope key, and approvals by switch and approver. An approval refers to a switch.
    -/
structure PrismaKillSwitches where
  killSwitch : Table String String KillSwitchRow (·.id)
  killSwitchApproval : JsMap (String × String) KillSwitchApproval
  references : ∀ key approval, killSwitchApproval.get key = some approval → (killSwitch.find key.1).isSome

namespace PrismaKillSwitches

def empty : PrismaKillSwitches where
  killSwitch := .empty
  killSwitchApproval := .empty
  references := fun _ _ stored => nomatch stored

variable (row : KillSwitchRow)

/-- A record without its approvals, as the rows are read here: after an activate there are none, and a resume reads the
    row without them. -/
def toRecord : KillSwitchRecord where
  id := row.id
  scope := row.scope
  chain := row.chain
  token := row.token
  operation := row.operation
  active := row.active
  reasonCode := row.reasonCode
  reason := row.reason
  activatedBy := row.activatedBy
  updatedAt := row.updatedAt
  approvalsRequired := row.approvalsRequired
  approvers := []

/-- The `create` part of the upsert. -/
def create (input : ActivateInput) (uuid : String) : KillSwitchRow where
  id := uuid
  scope := input.scope
  chain := input.chain
  token := input.token
  operation := input.operation
  active := true
  reasonCode := input.reasonCode
  reason := input.reason
  activatedBy := input.activatedBy
  updatedAt := input.now
  createdAt := input.now
  approvalsRequired := 2

/-- The `update` part of the upsert. -/
def reactivate (input : ActivateInput) : KillSwitchRow :=
  { row with
    active := true
    reasonCode := input.reasonCode
    reason := input.reason
    activatedBy := input.activatedBy
    updatedAt := input.now }

variable (s : PrismaKillSwitches)

/-- A switch row is written, in place of one with the same id or as a new one, and approvals are deleted. -/
def write (key : String) (row : KillSwitchRow) (admits : s.killSwitch.Admits key row)
    (replaces : s.killSwitch.Replaces key row) (deleted : String × String → Bool) : PrismaKillSwitches where
  killSwitch := s.killSwitch.put key row admits
  killSwitchApproval := s.killSwitchApproval.deleteWhere deleted
  references := by
    intro k approval stored
    rw [JsMap.get_deleteWhere] at stored
    rw [find_put admits replaces]
    split
    · rfl
    · split at stored
      · cases stored
      · exact s.references k approval stored

/-- `approvals: { deleteMany: {} }` of a switch -/
def ofSwitch (id : String) (key : String × String) : Bool := key.1 == id

def activate (input : ActivateInput) (uuid : String) : Except String KillSwitchRecord × PrismaKillSwitches :=
  match h : s.killSwitch.rows.get input.scopeKey with
  | some row =>
    (.ok (toRecord (reactivate row input)),
      s.write input.scopeKey (reactivate row input) (admits_of_same h rfl)
        (replaces_of_same h rfl) (ofSwitch row.id))
  | none =>
    match fresh : s.killSwitch.find uuid with
    | some _ => (.error "Unique constraint failed on the fields: (id)", s)
    | none =>
      (.ok (toRecord (create input uuid)),
        s.write input.scopeKey (create input uuid) (admits_of_fresh fresh)
          (replaces_of_absent h) fun _ => false)

/-- The row of `killSwitchApproval.upsert`. A note that is absent leaves the one that is there. -/
def approval (existing : Option KillSwitchApproval) (note : Option String) (now : Nat) : KillSwitchApproval :=
  match existing with
  | some row => { row with note := note.orElse fun _ => row.note }
  | none => ⟨now, note⟩

/-- `killSwitchApproval.upsert` for a switch that exists -/
def approve (id approver : String) (note : Option String) (now : Nat)
    (isSwitch : (s.killSwitch.find id).isSome) : PrismaKillSwitches where
  killSwitch := s.killSwitch
  killSwitchApproval :=
    s.killSwitchApproval.set (id, approver) (approval (s.killSwitchApproval.get (id, approver)) note now)
  references := by
    intro k approval stored
    rw [JsMap.get_set] at stored
    split at stored
    · rename_i isKey
      rw [isKey]
      exact isSwitch
    · exact s.references k approval stored

/-- `killSwitchApproval.count` of a switch -/
def countApprovals (approvals : JsMap (String × String) KillSwitchApproval) (id : String) : Nat :=
  (approvals.entries.filter (·.1.1 = id)).length

/-- The row that a complete quorum leaves. -/
def resume (now : Nat) : KillSwitchRow :=
  { row with active := false, updatedAt := now, lastResumedAt := some now }

/-- The transaction of `resumeIfApproved`. -/
def resumeIfApproved (id approver : String) (approvalsRequired : Nat) (note : Option String)
    (now : Nat) : Except String KillSwitchRecord × PrismaKillSwitches :=
  match h : s.killSwitch.entry id with
  | none => (.error s!"KillSwitch {id} not found", s)
  | some (key, row) =>
    have stored := (entry_eq_some.mp h).1
    if !row.active then (.ok (toRecord row), s)
    else
      let approved := s.approve id approver note now (by rw [find, h]; rfl)
      if countApprovals approved.killSwitchApproval id < approvalsRequired then (.ok (toRecord row), approved)
      else
        (.ok (toRecord (resume row now)),
          approved.write key (resume row now) (admits_of_same stored rfl) (replaces_of_same stored rfl)
            (ofSwitch id))

def step : Component PrismaKillSwitches KillSwitchOp (Except String KillSwitchRecord)
  | s, .activate input uuid => s.activate input uuid
  | s, .resumeIfApproved id approver approvalsRequired note now =>
    s.resumeIfApproved id approver approvalsRequired note now

end PrismaKillSwitches

end VortexBackend
