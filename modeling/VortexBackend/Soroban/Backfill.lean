/-
Module: VortexBackend.Soroban.Backfill
Purpose: `BackfillService`, one step between two awaits; the process may crash between any two.
Trusted boundary: the source returns the events from the start ledger on in order, at most as many as asked for; the
  registry does not throw (it catches what its handlers throw); an upsert succeeds. Pauses between pages are left out.
Main exports: Backfill.step
-/
import VortexBackend.Js.Map
import VortexBackend.Soroban.Events

namespace VortexBackend

structure EventPage where
  events : List EventResponse
  /-- the ledger of the last event of the page -/
  lastLedger : Nat
  /-- there are no more pages -/
  done : Bool
deriving Repr, DecidableEq

/-- `fetchPage` of either source, on a history of the contract's events. -/
def fetchPage (history : List EventResponse) (startLedger pageSize : Nat) : EventPage :=
  let events := (history.filter (startLedger ≤ ·.ledger)).take pageSize
  { events
    lastLedger := (events.getLast?.map (·.ledger)).getD startLedger
    done := events.length < pageSize }

/-- The range is inclusive at both ends. -/
structure BackfillOptions where
  fromLedger : Nat
  toLedger : Nat
  pageSize : Nat := 200
deriving Repr, DecidableEq

/-- A row of `processed_events`. -/
structure ProcessedEvent where
  eventId : String
  ledger : Nat
  eventIndex : Int
  contractId : String
  topic : String
  txHash : String
deriving Repr, DecidableEq

/-- The table, by its unique key: the ledger and the index. -/
abbrev ProcessedEvents := JsMap (Nat × Int) ProcessedEvent

/-- Where a run is in its loop. -/
inductive BackfillPhase where
  | fetching
  /-- the events of the page that the registry has not been given yet -/
  | processing (page : EventPage) (left : List EventResponse)
  /-- the events of the page that are not recorded yet -/
  | recording (page : EventPage) (left : List EventResponse)
deriving Repr, DecidableEq

/-- The variables of `executeBackfill`. -/
structure BackfillRun where
  toLedger : Nat
  pageSize : Nat
  currentLedger : Nat
  phase : BackfillPhase := .fetching
deriving Repr, DecidableEq

/-- How the last call of `run` or `resume` ended. -/
inductive BackfillOutcome where
  | complete
  | failed
deriving Repr, DecidableEq

structure BackfillState where
  table : ProcessedEvents := .empty
  /-- what the registry was given since the run started -/
  handed : List EventResponse := []
  runningBackfill : Option BackfillRun := none
  outcome : Option BackfillOutcome := none

/-- What happens: calls of the service, the next step of its run, an exception of the source, and a crash, which loses
    everything but the table. -/
inductive BackfillOp where
  | run (opts : BackfillOptions)
  | resume (opts : BackfillOptions)
  | next
  | sourceThrows
  | crash
deriving Repr, DecidableEq

namespace Backfill

/-- `String(value ?? "unknown")` -/
def topicName : Option TopicValue → String
  | some (.text value) => value
  | some (.bigint value) | some (.number value) => BigInt.toText value
  | some .undefined | none => "unknown"

variable (event : EventResponse)

def extractTopicName : String := topicName event.topic[0]?

/-- The unique key of an event's row. -/
def rowKey : Nat × Int := (event.ledger, parseEventIndex event.id)

/-- The row of an event of the contract. -/
def rowOf : ProcessedEvent where
  eventId := event.id
  ledger := event.ledger
  eventIndex := parseEventIndex event.id
  contractId := event.contractId
  topic := extractTopicName event
  txHash := event.txHash

/-- `upsert` with an empty update: a row that is there stays as it is. -/
def upsert (table : ProcessedEvents) (event : EventResponse) : ProcessedEvents :=
  match table.get (rowKey event) with
  | some _ => table
  | none => table.set (rowKey event) (rowOf event)

/-- `run`: nothing starts while a run is in progress. -/
def run (s : BackfillState) (opts : BackfillOptions) : BackfillState :=
  match s.runningBackfill with
  | some _ => s
  | none =>
    if opts.fromLedger ≤ opts.toLedger then
      { s with
        handed := []
        runningBackfill := some { opts with currentLedger := opts.fromLedger }
        outcome := none }
    else { s with handed := [], outcome := some .complete }

/-- The ledgers of the contract's rows in the range. -/
def recordedLedgers (contractId : String) (table : ProcessedEvents) (opts : BackfillOptions) : List Nat :=
  (table.values.filter fun row =>
    row.contractId == contractId && opts.fromLedger ≤ row.ledger && row.ledger ≤ opts.toLedger).map (·.ledger)

/-- The ledger after the highest one recorded, or the first of the range. -/
def resumeFrom (contractId : String) (table : ProcessedEvents) (opts : BackfillOptions) : Nat :=
  match (recordedLedgers contractId table opts).max? with
  | some lastProcessed => lastProcessed + 1
  | none => opts.fromLedger

/-- `resume`: run the rest of the range, if there is one. A run in progress goes on. -/
def resume (contractId : String) (s : BackfillState) (opts : BackfillOptions) : BackfillState :=
  match s.runningBackfill with
  | some _ => s
  | none =>
    let resumed := resumeFrom contractId s.table opts
    if opts.toLedger < resumed then { s with handed := [], outcome := some .complete }
    else run s { opts with fromLedger := resumed }

/-- The next step of `executeBackfill`. -/
def executeStep (history : List EventResponse) (s : BackfillState) (r : BackfillRun) : BackfillState :=
  match r.phase with
  | .fetching =>
    let page := fetchPage history r.currentLedger r.pageSize
    { s with runningBackfill := some { r with phase := .processing page page.events } }
  | .processing page (event :: left) =>
    { s with
      handed := s.handed ++ [event]
      runningBackfill := some { r with phase := .processing page left } }
  | .processing page [] => { s with runningBackfill := some { r with phase := .recording page page.events } }
  | .recording page (event :: left) =>
    { s with
      table := upsert s.table event
      runningBackfill := some { r with phase := .recording page left } }
  | .recording page [] =>
    let currentLedger := if page.done then r.toLedger + 1 else page.lastLedger + 1
    if page.done ∨ r.toLedger < currentLedger then
      { s with runningBackfill := none, outcome := some .complete }
    else { s with runningBackfill := some { r with currentLedger, phase := .fetching } }

/-- One operation. An exception of the source ends the run with an error. -/
def step (contractId : String) (history : List EventResponse) (s : BackfillState) : BackfillOp → Unit × BackfillState
  | .run opts => ((), run s opts)
  | .resume opts => ((), resume contractId s opts)
  | .next =>
    match s.runningBackfill with
    | some r => ((), executeStep history s r)
    | none => ((), s)
  | .sourceThrows =>
    match s.runningBackfill with
    | some { phase := .fetching, .. } => ((), { s with runningBackfill := none, outcome := some .failed })
    | _ => ((), s)
  | .crash => ((), { s with handed := [], runningBackfill := none, outcome := none })

end Backfill

end VortexBackend
