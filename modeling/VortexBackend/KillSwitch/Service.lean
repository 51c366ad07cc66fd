/-
Module: VortexBackend.KillSwitch.Service
Purpose: The service of one replica: a snapshot, and who reloads it. Whoever asks during a reload waits for it.
Trusted boundary: every replica uses the in-memory repository; its `listAll` hands out live records, which a write can
  still change in the microtask before they are mapped, and here they are mapped when they are listed;
  `listScheduledWindows` is a method of the repository that returns or throws (no adapter defines it); clocks answer
  with any number. The cached windows, which nothing here reads, the scheduler and the logs are left out.
Main exports: Replica.refresh, replicaService
-/
import VortexBackend.Async.Service
import VortexBackend.KillSwitch.Repository

namespace VortexBackend

namespace InMemoryKillSwitches

variable (s : InMemoryKillSwitches)

def listAll : List KillSwitchRecord := s.list.rows.values

/-- The newest `updatedAt` across all switches, or 0 when there are none. -/
def maxUpdatedAt : Nat :=
  s.listAll.foldl (fun max record => if max < record.updatedAt then record.updatedAt else max) 0

def listApprovals (id : String) : List String :=
  match s.list.find id with
  | some record => record.approvers
  | none => []

end InMemoryKillSwitches

/-- One switch of the snapshot, with who paused it and when it changed. -/
structure CachedSwitch extends SwitchSnapshotEntry where
  activatedBy : String
  updatedAt : Nat
deriving Repr, DecidableEq

/-- What `refresh` keeps of a record. -/
def KillSwitchRecord.cached (record : KillSwitchRecord) : CachedSwitch where
  scope := record.scope
  chain := record.chain
  token := record.token
  operation := record.operation
  active := record.active
  reasonCode := record.reasonCode
  reason := record.reason
  activatedBy := record.activatedBy
  updatedAt := record.updatedAt

/-- A reload is started, or the one under way is joined; its number stands for its promise. -/
inductive RefreshTicket where
  | started (ticket : Nat)
  | joined (ticket : Nat)
deriving Repr, DecidableEq

/-- Everything that the service awaits, reads or sets. -/
inductive ReplicaCall where
  /-- `Date.now()` -/
  | now
  /-- `repo.activate` and `repo.resumeIfApproved` -/
  | write (op : KillSwitchOp)
  | listApprovals (id : String)
  | listAll
  | maxUpdatedAt
  | listScheduledWindows
  /-- `if (this.refreshInFlight) …; this.refreshInFlight = …` -/
  | beginRefresh
  /-- `return this.refreshInFlight`, awaited -/
  | joinRefresh (ticket : Nat)
  | setSnapshot (snapshot : List CachedSwitch)
  | setLastUpdatedAt (latest : Nat)
  | setReady
  /-- `this.refreshInFlight = null`, and the promise settles -/
  | settle (ticket : Nat) (outcome : Except String Unit)
  | lastUpdatedAt
  /-- `redis.publish`; without a client nothing happens -/
  | publish
  /-- `broadcastStatus`; without a callback nothing happens -/
  | broadcastStatus (paused : Bool) (record : KillSwitchRecord)

/-- The replies; a call that may throw replies with an `Except`. -/
@[reducible] def ReplicaReply : ReplicaCall → Type
  | .now | .lastUpdatedAt => Nat
  | .write _ => Except String KillSwitchRecord
  | .listApprovals _ => List String
  | .listAll => Except String (List KillSwitchRecord)
  | .maxUpdatedAt => Except String Nat
  | .listScheduledWindows | .joinRefresh _ | .publish | .broadcastStatus .. => Except String Unit
  | .beginRefresh => RefreshTicket
  | .setSnapshot _ | .setLastUpdatedAt _ | .setReady | .settle .. => Unit

/-- The store that the replicas share, and the fields of one of them. -/
structure ReplicaWorld where
  store : InMemoryKillSwitches := .empty
  snapshot : List CachedSwitch := []
  lastUpdatedAt : Nat := 0
  ready : Bool := false
  guardianPause : Option GuardianPause := none
  refreshInFlight : Option Nat := none
  /-- the number of reloads so far -/
  reloads : Nat := 0
  /-- the reloads that are over -/
  settled : List (Nat × Except String Unit) := []

/-- What the environment decides about one call. -/
structure ReplicaChoice where
  /-- the call throws this -/
  throws : Option String := none
  now : Nat := 0
deriving Repr, DecidableEq

namespace ReplicaWorld

/-- What the evaluation sees. -/
def killSwitch (w : ReplicaWorld) : KillSwitch where
  ready := w.ready
  guardianPause := w.guardianPause
  snapshot := w.snapshot.map (·.toSwitchSnapshotEntry)

/-- A reply that is the given value unless the environment makes the call throw. -/
def answer {α : Type} (choice : ReplicaChoice) (value : α) : Except String α :=
  match choice.throws with
  | some message => .error message
  | none => .ok value

/-- The effect of one call. -/
def perform : (call : ReplicaCall) → ReplicaChoice → ReplicaWorld → Option (ReplicaReply call × ReplicaWorld)
  | .now, choice, w => some (choice.now, w)
  | .write op, _, w => some ((w.store.step op).1, { w with store := (w.store.step op).2 })
  | .listApprovals id, _, w => some (w.store.listApprovals id, w)
  | .listAll, choice, w => some (answer choice w.store.listAll, w)
  | .maxUpdatedAt, choice, w => some (answer choice w.store.maxUpdatedAt, w)
  | .listScheduledWindows, choice, w => some (answer choice (), w)
  | .beginRefresh, _, w =>
    match w.refreshInFlight with
    | some ticket => some (.joined ticket, w)
    | none => some (.started w.reloads, { w with refreshInFlight := some w.reloads, reloads := w.reloads + 1 })
  | .joinRefresh ticket, _, w => (w.settled.lookup ticket).map fun outcome => (outcome, w)
  | .setSnapshot snapshot, _, w => some ((), { w with snapshot })
  | .setLastUpdatedAt latest, _, w => some ((), { w with lastUpdatedAt := latest })
  | .setReady, _, w => some ((), { w with ready := true })
  | .settle ticket outcome, _, w =>
    some ((), { w with refreshInFlight := none, settled := (ticket, outcome) :: w.settled })
  | .lastUpdatedAt, _, w => some (w.lastUpdatedAt, w)
  | .publish, choice, w | .broadcastStatus .., choice, w => some (answer choice (), w)

/-- What happens without the service: the guardian's on-chain pause begins or ends. -/
structure Drift where
  guardianPause : Option GuardianPause
deriving Repr, DecidableEq

def drift (d : Drift) (w : ReplicaWorld) : Option ReplicaWorld := some { w with guardianPause := d.guardianPause }

end ReplicaWorld

/-- What an operator asks to pause. -/
structure PauseInput where
  scope : KillSwitchScope
  chain : Option String := none
  token : Option String := none
  operation : Option KillSwitchOperation := none
  reasonCode : String
  reason : String
  activatedBy : String
deriving Repr, DecidableEq

variable (input : PauseInput)

def PauseInput.activation (now : Nat) : ActivateInput where
  scope := input.scope
  chain := input.chain
  token := input.token
  operation := input.operation
  reasonCode := input.reasonCode
  reason := input.reason
  activatedBy := input.activatedBy
  now := now

/-- An asynchronous function of the service. -/
abbrev Replica (α : Type) := Async ReplicaReply String α

namespace Replica

/-- A text that JavaScript takes for true. -/
def truthy (text : Option String) : Bool := text.any (· ≠ "")

/-- Scope determines which columns may be set. An absent column is `none` already, and the type of operations has no
    unknown ones. -/
def normaliseScope : Except String PauseInput :=
  let chain := truthy input.chain
  let token := truthy input.token
  let operation := input.operation.isSome
  if input.scope = .global && (chain || token || operation) then
    .error "A global kill-switch cannot specify chain, token, or operation"
  else if input.scope = .chain && (!chain || token || operation) then
    .error "A chain kill-switch requires chain and cannot specify token or operation"
  else if input.scope = .token && (!chain || !token || operation) then
    .error "A token kill-switch requires chain and token, and cannot specify operation"
  else if input.scope = .operation && (!chain || !operation) then
    .error "An operation kill-switch requires chain and operation"
  else .ok input

/-- The body of a reload. -/
def reload : Replica Unit := do
  let records ← Async.attempt (Async.call ReplicaCall.listAll)
  Async.call (ReplicaCall.setSnapshot (records.map (·.cached)))
  let latest ← Async.attempt (Async.call ReplicaCall.maxUpdatedAt)
  Async.call (ReplicaCall.setLastUpdatedAt latest)
  Async.attempt (Async.call ReplicaCall.listScheduledWindows)
  Async.call ReplicaCall.setReady

/-- Reload the snapshot, or wait for the reload under way. -/
def refresh : Replica Unit := do
  match ← Async.call ReplicaCall.beginRefresh with
  | .joined ticket => Async.attempt (Async.call (ReplicaCall.joinRefresh ticket))
  | .started ticket =>
    -- The `finally` block runs before the promise settles with the outcome of the body.
    tryCatch
      (do
        reload
        Async.call (ReplicaCall.settle ticket (.ok ())))
      fun e => do
        Async.call (ReplicaCall.settle ticket (.error e))
        throw e

/-- Best-effort notice to the other replicas. -/
def broadcast : Replica Unit := tryCatch (Async.attempt (Async.call ReplicaCall.publish)) fun _ => pure ()

/-- Notice to the connected clients; a failure is swallowed. -/
def announce (paused : Bool) (record : KillSwitchRecord) : Replica Unit :=
  tryCatch (Async.attempt (Async.call (ReplicaCall.broadcastStatus paused record))) fun _ => pure ()

def pause : Replica KillSwitchRecord := do
  let normalised ← Async.ofExcept (normaliseScope input)
  let now ← Async.call ReplicaCall.now
  let record ← Async.attempt (Async.call (ReplicaCall.write (.activate (normalised.activation now) "")))
  -- Local first: the calling replica must be closed before it acknowledges.
  refresh
  broadcast
  announce true record
  pure record

/-- What `approveResume` returns. -/
structure ApprovalResult where
  record : KillSwitchRecord
  resumed : Bool
  approvals : Nat
  required : Nat
deriving Repr, DecidableEq

def approveResume (id approver : String) (approvalsRequired : Nat) (note : Option String) : Replica ApprovalResult := do
  let now ← Async.call ReplicaCall.now
  let record ← Async.attempt (Async.call
    (ReplicaCall.write (.resumeIfApproved id approver approvalsRequired note now)))
  let approvals ← Async.call (ReplicaCall.listApprovals id)
  let resumed := !record.active
  refresh
  if resumed then broadcast
  if resumed then announce false record
  pure ⟨record, resumed, approvals.length, approvalsRequired⟩

/-- One tick of the poll timer: reload when the newest timestamp has moved. -/
def poll : Replica Unit :=
  tryCatch
    (do
      let latest ← Async.attempt (Async.call ReplicaCall.maxUpdatedAt)
      let last ← Async.call ReplicaCall.lastUpdatedAt
      if latest ≠ last then refresh)
    -- Keep serving the last known snapshot.
    fun _ => pure ()

/-- A notice from another replica. -/
def notice : Replica Unit := tryCatch refresh fun _ => pure ()

/-- The first load; without it the replica stays closed. -/
def onModuleInit : Replica Unit :=
  tryCatch
    (do
      refresh
      Async.call ReplicaCall.setReady)
    fun _ => pure ()

/-- What another replica does to the store. -/
def remote (op : KillSwitchOp) : Replica Unit := do
  let _ ← Async.attempt (Async.call (ReplicaCall.write op))
  pure ()

end Replica

/-- What the service is asked to do, and the writes of the other replicas. -/
inductive ReplicaRequest where
  | onModuleInit
  | pause (input : PauseInput)
  | approveResume (id approver : String) (approvalsRequired : Nat) (note : Option String)
  | poll
  | notice
  | remote (op : KillSwitchOp)
deriving Repr, DecidableEq

inductive ReplicaResponse where
  | record (record : KillSwitchRecord)
  | approval (result : Replica.ApprovalResult)
  | done
deriving Repr, DecidableEq

/-- The response of a function. -/
def Replica.respond {α : Type} (wrap : α → ReplicaResponse) (x : Replica α) : Replica ReplicaResponse := do
  let value ← x
  pure (wrap value)

/-- The function behind each request. -/
def ReplicaRequest.handler : ReplicaRequest → Replica ReplicaResponse
  | .onModuleInit => Replica.respond (fun _ => .done) Replica.onModuleInit
  | .pause input => Replica.respond .record (Replica.pause input)
  | .approveResume id approver approvalsRequired note =>
    Replica.respond .approval (Replica.approveResume id approver approvalsRequired note)
  | .poll => Replica.respond (fun _ => .done) Replica.poll
  | .notice => Replica.respond (fun _ => .done) Replica.notice
  | .remote op => Replica.respond (fun _ => .done) (Replica.remote op)

/-- The service of one replica, beside the others. -/
def replicaService : Service ReplicaReply ReplicaWorld ReplicaChoice ReplicaWorld.Drift ReplicaRequest
    (Except String ReplicaResponse) where
  perform := ReplicaWorld.perform
  drift := ReplicaWorld.drift
  start request := request.handler.run

end VortexBackend
