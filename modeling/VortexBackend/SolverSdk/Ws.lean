/-
Module: VortexBackend.SolverSdk.Ws
Purpose: The stream client of the solver SDK and a server whose replays are complete.
Trusted boundary: frames arrive in the order in which they are sent, so that an operation stands for sending and
  receiving; the reconnect delays and the payload of an event are left out.
Main exports: VortexWsClient, WsSession
-/
import VortexBackend.Sequential.Run

namespace VortexBackend

/-- A frame of the server. Snapshots and the answer to a subscription are `ignored`. -/
inductive WsFrame where
  | connected (seq : Option Nat)
  | replayStart
  | replayEnd
  | replayTooOld (fromSeq oldestAvailableSeq : Int)
  | authOk (method : Option String)
  | authError (reason : String)
  | rateLimited (retryAfterMs : Option Nat)
  | event (seq : Option Nat)
  | ignored
deriving Repr, DecidableEq

/-- What the client emits while it handles a frame. -/
inductive WsEmitted where
  | event (seq : Nat)
  | resyncRequired (fromSeq oldestAvailableSeq : Int)
  | authOk (method : Option String)
  | authError (reason : String)
  | rateLimited (retryAfterMs : Option Nat)
deriving Repr, DecidableEq

structure VortexWsClient where
  lastSeq : Int := -1
  replaying : Bool := false
deriving Repr, DecidableEq

namespace VortexWsClient

variable (c : VortexWsClient)

/-- The client after the request, and the number from which it asks for a replay. -/
def requestReplay : VortexWsClient × Option Int :=
  if c.replaying ∨ c.lastSeq < 0 then (c, none) else ({ c with replaying := true }, some c.lastSeq)

/-- The client after a frame, what it emits, and the replay it asks for. -/
def onFrame : WsFrame → VortexWsClient × List WsEmitted × Option Int
  | .connected seq =>
    if c.lastSeq < 0 then ({ c with lastSeq := seq.getD 0 }, [], none)
    else if seq.any (c.lastSeq < ·) then (c.requestReplay.1, [], c.requestReplay.2)
    else (c, [], none)
  | .replayStart | .ignored => (c, [], none)
  | .replayEnd => ({ c with replaying := false }, [], none)
  | .replayTooOld fromSeq oldest =>
    ({ replaying := false, lastSeq := oldest - 1 }, [.resyncRequired fromSeq oldest], none)
  | .authOk method => (c, [.authOk method], none)
  | .authError reason => (c, [.authError reason], none)
  | .rateLimited retryAfterMs => (c, [.rateLimited retryAfterMs], none)
  | .event none => (c, [], none)
  | .event (some seq) =>
    if seq ≤ c.lastSeq then (c, [], none)
    -- A gap: missed events are fetched first.
    else if 0 ≤ c.lastSeq ∧ c.lastSeq + 1 < seq ∧ ¬c.replaying then (c.requestReplay.1, [], c.requestReplay.2)
    -- The replayed ones are waited for.
    else if c.replaying ∧ c.lastSeq + 1 < seq then (c, [], none)
    else ({ c with lastSeq := seq }, [.event seq], none)

/-- The connection is closed. -/
def onClose : VortexWsClient := { c with replaying := false }

end VortexWsClient

/-- A server, the connection of one client to it, and what the client has emitted. -/
structure WsSession where
  client : VortexWsClient
  /-- The number of the newest event. -/
  sequenced : Nat := 0
  /-- The numbers of the events that pass the filter of the client. -/
  passing : List Nat := []
  connected : Bool := false
  /-- The replay that the client has asked for on this connection. -/
  asked : Option Int := none
  emitted : List Nat := []
  /-- What the replays that have ended carried. -/
  replayed : List Nat := []
deriving Repr, DecidableEq

/-- What happens between the server and the client. -/
inductive WsOp where
  /-- An event is published. It may pass the filter, and its frame may reach the client. -/
  | publish (passes arrives : Bool)
  /-- The replay is sent, and so many of its events arrive, or the whole of it. -/
  | replay (arrive : Nat)
  | connect
  | disconnect
deriving Repr, DecidableEq

namespace WsSession

def start (resumeFrom : Option Int) : WsSession := { client := { lastSeq := resumeFrom.getD (-1) } }

variable (s : WsSession)

def receive (frame : WsFrame) : WsSession :=
  let (client, emitted, asked) := s.client.onFrame frame
  { s with
    client
    emitted := s.emitted ++ emitted.filterMap fun | .event seq => some seq | _ => none
    asked := asked.or s.asked }

def receiveEvents (seqs : List Nat) : WsSession := seqs.foldl (fun s seq => s.receive (.event seq)) s

def disconnect : WsSession := { s with connected := false, asked := none, client := s.client.onClose }

/-- The events of a replay: whatever passes the filter after the number that was asked for. -/
def carried (fromSeq : Int) : List Nat := s.passing.filter (fromSeq < ·)

/-- One operation. A replay that does not arrive whole is cut off by the end of the connection. -/
def step : Component WsSession WsOp Unit
  | s, .publish passes arrives =>
    let seq := s.sequenced + 1
    let s := { s with sequenced := seq, passing := s.passing ++ if passes then [seq] else [] }
    ((), if arrives && s.connected then s.receive (.event seq) else s)
  | s, .replay arrive =>
    match s.asked with
    | none => ((), s)
    | some fromSeq =>
      let carried := s.carried fromSeq
      let s := (s.receive .replayStart).receiveEvents (carried.take arrive)
      if arrive ≤ carried.length then ((), s.disconnect)
      else ((), { s.receive .replayEnd with asked := none, replayed := s.replayed ++ carried })
  | s, .connect => ((), if s.connected then s else { s with connected := true }.receive (.connected s.sequenced))
  | s, .disconnect => ((), s.disconnect)

end WsSession

end VortexBackend
