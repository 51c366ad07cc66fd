/-
Module: VortexBackend.Soroban.CursorPollers
Purpose: Three pollers that move a cursor behind the latest ledger of an answer. Polls may overlap.
Trusted boundary: `getEvents` answers with a first part of the events from the start ledger up to the latest ledger, in
  order. The contract is configured; without its id no poll asks for anything.
Main exports: CursorPoller.step
-/
import VortexBackend.Sequential.OrderedLog
import VortexBackend.Sequential.Run
import VortexBackend.Soroban.Events

namespace VortexBackend

def GUARDIAN_LOOKBACK_LEDGERS : Nat := 17280

inductive CursorPoller where
  | eventIngestion
  | solverRegistry
  | guardian
deriving Repr, DecidableEq

/-- What a poll waits for: the latest ledger, the events from its start ledger on, or the handler of an event. -/
inductive PollPhase where
  | latestLedger
  | events (startLedger : Nat)
  | handler (left : List EventResponse) (latestLedger : Nat)
deriving Repr, DecidableEq

/-- The service of one process. -/
structure PollerState where
  /-- `nextStartLedger`, or the guardian's `cursor` -/
  cursor : Option Nat := none
  /-- what the polls wait for, in the order in which they were started; `none` for one that has ended -/
  polls : List (Option PollPhase) := []
  /-- the events that the handler was given -/
  handed : List EventResponse := []
  /-- the start ledger of the first call of `getEvents` -/
  startPoint : Option Nat := none
deriving Repr, DecidableEq

inductive PollerOp where
  /-- The timer starts a poll. -/
  | poll
  /-- `getLatestLedger` answers a poll, or throws. -/
  | latestLedger (poll : Nat) (sequence : Option Nat)
  /-- `getEvents` answers a poll with its latest ledger and the first `count` events, or throws. -/
  | events (poll : Nat) (answer : Option (Nat × Nat))
  /-- The handler of a poll's event returns. -/
  | handlerReturns (poll : Nat)
  /-- It throws. -/
  | handlerThrows (poll : Nat)
deriving Repr, DecidableEq

namespace CursorPoller

/-- `poll` up to its first `await`. -/
def poll (s : PollerState) : PollerState :=
  match s.cursor with
  | none => { s with polls := s.polls ++ [some .latestLedger] }
  | some cursor => { s with polls := s.polls ++ [some (.events cursor)], startPoint := s.startPoint <|> some cursor }

variable (poller : CursorPoller)

/-- The start ledger for the latest one: the guardian looks back. -/
def startLedger (sequence : Nat) : Nat :=
  match poller with
  | .eventIngestion | .solverRegistry => sequence
  | .guardian => max 1 (sequence - GUARDIAN_LOOKBACK_LEDGERS)

/-- The latest ledger is known. Only the guardian keeps the start ledger as its cursor; the others have it in a variable
    of the poll. -/
def startFrom (s : PollerState) (i sequence : Nat) : PollerState :=
  let startLedger := poller.startLedger sequence
  { s with
    cursor := if poller = .guardian then some startLedger else s.cursor
    polls := s.polls.set i (some (.events startLedger))
    startPoint := s.startPoint <|> some startLedger }

/-- The poll has ended without moving the cursor. -/
def fail (s : PollerState) (i : Nat) : PollerState := { s with polls := s.polls.set i none }

/-- The loop over the events of the answer, up to the next `await` of the handler or to the end of the poll. -/
def handNext (s : PollerState) (i : Nat) (left : List EventResponse) (latestLedger : Nat) : PollerState :=
  match left with
  | [] => { s with cursor := some (latestLedger + 1), polls := s.polls.set i none }
  | event :: left =>
    { s with handed := s.handed ++ [event], polls := s.polls.set i (some (.handler left latestLedger)) }

/-- The answer of `getEvents`. `ingest` is no asynchronous function, so that poll hands over all events at once. -/
def receive (s : PollerState) (i : Nat) (events : List EventResponse) (latestLedger : Nat) : PollerState :=
  match poller with
  | .eventIngestion => handNext { s with handed := s.handed ++ events } i [] latestLedger
  | .solverRegistry | .guardian => handNext s i events latestLedger

/-- What `getEvents` answers. -/
def answered (history : List EventResponse) (startLedger latestLedger count : Nat) : List EventResponse :=
  (between EventResponse.ledger startLedger (latestLedger + 1) history).take count

def step (history : List EventResponse) (s : PollerState) : PollerOp → Unit × PollerState
  | .poll => ((), poll s)
  | .latestLedger i sequence =>
    match s.polls[i]?, sequence with
    | some (some .latestLedger), some sequence => ((), startFrom poller s i sequence)
    | some (some .latestLedger), none => ((), fail s i)
    | _, _ => ((), s)
  | .events i answer =>
    match s.polls[i]?, answer with
    | some (some (.events startLedger)), some (latestLedger, count) =>
      ((), receive poller s i (answered history startLedger latestLedger count) latestLedger)
    | some (some (.events _)), none => ((), fail s i)
    | _, _ => ((), s)
  | .handlerReturns i =>
    match s.polls[i]? with
    | some (some (.handler left latestLedger)) => ((), handNext s i left latestLedger)
    | _ => ((), s)
  | .handlerThrows i =>
    match s.polls[i]? with
    | some (some (.handler _ _)) => ((), fail s i)
    | _ => ((), s)

end CursorPoller

end VortexBackend
