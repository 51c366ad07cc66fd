/-
Module: VortexBackend.Soroban.EventIngestion
Purpose: `EventIngestionService.ingest`, with the tasks that it fires and does not wait for.
Trusted boundary: metrics and logs are left out
Main exports: EventIngestion.ingest
-/
import VortexBackend.Js.Map
import VortexBackend.Js.RecentSet
import VortexBackend.Soroban.Events

namespace VortexBackend

/-- How many keys are remembered; the oldest one is dropped for another. -/
def MAX_TRACKED_KEYS : Nat := 10000

/-- What processing an event sets off. -/
inductive EventTask where
  /-- time the confirmation of a fill -/
  | intentFilled (intentId : Option String)
  /-- `confirmPenalty` -/
  | confirmPenalty (intentId slashAmount : String)
deriving Repr, DecidableEq

/-- The service's memory. -/
structure IngestionState where
  seenKeys : RecentSet String := ∅
  lastIntentUpdateById : JsMap String Nat := .empty
  processedCount : Nat := 0
  duplicateCount : Nat := 0
  newestIngestedLedger : Option Nat := none

/-- An event that is handed to the service, at a time in seconds. -/
structure EventDelivery where
  event : EventResponse
  now : Nat
deriving Repr, DecidableEq

namespace EventIngestion

/-- The slash amount of an event, as a text. -/
def slashAmountOf : Option TopicValue → Option String
  | some (.bigint value) => some (BigInt.toText value)
  | some (.text value) => some value
  | _ => none

/-- The intent and the amount of a slash; the solver that the event names is asked for and not used. A shape that is not
    expected is skipped. -/
def handleSolverSlashed (event : EventResponse) : Option EventTask := do
  let solverAddress ← (event.topicText 1).filter (!·.isEmpty)
  let intentId ← (event.topicText 2).filter (!·.isEmpty)
  let slashAmount ← (slashAmountOf event.topic[3]?).filter (!·.isEmpty)
  let _ := solverAddress
  some (.confirmPenalty intentId slashAmount)

/-- The task that an event sets off. -/
def taskOf (event : EventResponse) : Option EventTask :=
  match event.topicText 0 with
  | some "intent_filled" => some (.intentFilled (event.topicText 1))
  | some "solver_slashed" => handleSolverSlashed event
  | _ => none

/-- Fire the task of an event, and note when its intent was last heard of. -/
def processEvent (s : IngestionState) (d : EventDelivery) : Option EventTask × IngestionState :=
  (taskOf d.event,
    match (d.event.topicText 1).filter (!·.isEmpty) with
    | some intentId => { s with lastIntentUpdateById := s.lastIntentUpdateById.set intentId d.now }
    | none => s)

/-- What became of an event that was handed in. -/
structure Ingested where
  processed : Bool
  task : Option EventTask := none
deriving Repr, DecidableEq

/-- The newest ledger of which an event was processed. -/
def newest (newestIngestedLedger : Option Nat) (ledger : Nat) : Option Nat :=
  match newestIngestedLedger with
  | none => some ledger
  | some known => if known < ledger then some ledger else some known

/-- Skip an event whose key is remembered; remember and process any other. -/
def ingest (s : IngestionState) (d : EventDelivery) : Ingested × IngestionState :=
  let dedupeKey := d.event.dedupeKey
  if s.seenKeys.has dedupeKey then ({ processed := false }, { s with duplicateCount := s.duplicateCount + 1 })
  else
    let marked := { s with seenKeys := s.seenKeys.add MAX_TRACKED_KEYS dedupeKey }
    let (task, handled) := processEvent marked d
    ({ processed := true, task },
      { handled with
        processedCount := handled.processedCount + 1
        newestIngestedLedger := newest handled.newestIngestedLedger d.event.ledger })

end EventIngestion

end VortexBackend
