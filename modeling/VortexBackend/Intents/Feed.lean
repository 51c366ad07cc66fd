/-
Module: VortexBackend.Intents.Feed
Purpose: The intent feed: events are numbered, stored and sent; a client that comes back is sent what it missed.
Trusted boundary: `intentsService.get` and the predicate of a solver are parameters; a client takes every frame it is
  sent. The capability index, the metrics and the Redis backplane of the gateway are left out. The backplane of the
  feed service hands an event over when the delivery before it has ended, as the read loop and the delivery chain do.
Main exports: broadcast, resume, ReplayStore.since
-/
import VortexBackend.Intents.Types
import VortexBackend.Async.Service

namespace VortexBackend

/-- `{ type: string; [key: string]: unknown }`, with the keys that the feed reads. -/
structure FeedEvent where
  type : String
  intent : Option Intent := none
  intentId : Option String := none
  srcChain : Option String := none
  user : Option String := none
  state : Option String := none
deriving DecidableEq

structure SequencedEvent where
  seq : Nat
  event : FeedEvent
deriving DecidableEq

structure SubscriberFilter where
  chains : Option (List SupportedChain) := none
  /-- the `matches` of the solver's predicate -/
  solver : Option (Intent → Bool) := none
  wantAll : Bool := false

structure FeedFilter extends SubscriberFilter where
  users : Option (List String) := none
  states : Option (List String) := none

namespace Feed

def SUPPORTED_CHAINS : List SupportedChain := [.stellar, .ethereum, .base, .polygon, .arbitrum, .optimism, .avalanche]

/-! ### The chain of an event -/

def lookupTypes : List String :=
  ["intent_accepted", "intent_filled", "intent_cancelled", "intent_expired", "intent_slashed"]

/-- The intent that has to be looked up for the chain of an event. -/
def lookupId (event : FeedEvent) : Option String :=
  if lookupTypes.contains event.type then event.intentId.filter (· ≠ "") else none

/-- The chain that live delivery goes by, from the answer of the intents service. -/
def getEventChain (get : String → Except String (Option Intent)) (event : FeedEvent) : Option SupportedChain :=
  if event.type = "intent_created" then event.intent.map (·.srcChain)
  else match lookupId event with
    | none => none
    | some id =>
      match get id with
      | .ok intent => intent.map (·.srcChain)
      | .error _ => none

/-- The chain that a replay goes by, from the event alone. -/
def getEventChainSync (event : FeedEvent) : Option SupportedChain :=
  match event.intent with
  | some intent => some intent.srcChain
  | none => event.srcChain.bind fun value => SUPPORTED_CHAINS.find? (·.name == value)

/-! ### Filters -/

/-- A solver is sent the new intents that it can serve, and every other event. -/
def solverMatches («matches» : Intent → Bool) (event : FeedEvent) : Bool :=
  event.type != "intent_created" || event.intent.all «matches»

/-- The filter of the gateway, in `deliverToMatchingSubscribers` and in `handleReplay`. An event whose chain is not
    known goes to everybody. -/
def admits (filter : SubscriberFilter) (chain : Option SupportedChain) (event : FeedEvent) : Bool :=
  if filter.wantAll then true
  else match filter.solver with
    | some «matches» => solverMatches «matches» event
    | none => filter.chains.all fun chains => chain.all chains.contains

/-- The filter of the feed service, in `deliverToMatchingClients`. -/
def delivers (filter : FeedFilter) (chain : Option SupportedChain) (event : FeedEvent) : Bool :=
  if filter.wantAll then true
  else match filter.solver with
    | some «matches» => solverMatches «matches» event
    | none =>
      match filter.chains, filter.users, filter.states with
      | some chains, _, _ => chain.all chains.contains
      | none, some users, _ => event.user.any users.contains
      | none, none, some states => event.state.any states.contains
      | none, none, none => true

/-! ### Replay -/

/-- The buffered events after a number, oldest first. -/
def since (buffer : List SequencedEvent) (fromSeq : Nat) : List SequencedEvent :=
  buffer.filter (fromSeq < ·.seq)

/-- Where a replay reads from. The ring buffer of the process answers as the memory store does. -/
inductive ReplayStore where
  | memory
  | redis

/-- The events after a number, unless the number is too old. -/
def ReplayStore.since (buffer : List SequencedEvent) (fromSeq : Nat) : ReplayStore → Option (List SequencedEvent)
  | .memory =>
    if buffer.head?.any (fromSeq + 1 < ·.seq) then none else some (Feed.since buffer fromSeq)
  | .redis =>
    match Feed.since buffer fromSeq with
    | [] => if fromSeq = 0 ∨ buffer.isEmpty then some [] else none
    | first :: rest => if fromSeq = 0 ∨ first.seq ≤ fromSeq + 1 then some (first :: rest) else none

/-- What a store keeps. -/
structure Retention where
  maxCount : Nat
  maxAgeMs : Option Nat := none

/-- The newest entries. -/
def Retention.newest {α : Type} (r : Retention) (entries : List α) : List α :=
  entries.drop (entries.length - r.maxCount)

/-- `append` of the memory store, which remembers when an event came. -/
def Retention.appendMemory (r : Retention) (buf : List (SequencedEvent × Nat)) (entry : SequencedEvent × Nat) :
    List (SequencedEvent × Nat) :=
  match r.maxAgeMs with
  | none => r.newest (buf ++ [entry])
  | some age => (r.newest (buf ++ [entry])).dropWhile (·.2 + age < entry.2)

/-- `append` of the Redis store, with an exact `MAXLEN` and `MINID`. Numbers start at 1 and increase, so that `XADD`
    takes them. The ids `0-seq` are all below `cutoffMs-0`, unless the cutoff is not even a positive time. -/
def Retention.appendRedis (r : Retention) (stream : List SequencedEvent) (entry : SequencedEvent × Nat) :
    List SequencedEvent :=
  if r.maxAgeMs.any (· < entry.2) then [] else r.newest (stream ++ [entry.1])

inductive ReplayFrame where
  | tooOld (fromSeq : Nat) (oldestAvailableSeq : Option Nat)
  | started (fromSeq count : Nat)
  | event (e : SequencedEvent)
  | ended (count : Nat)

/-- The events among the frames of a replay. -/
def ReplayFrame.sent : ReplayFrame → Option SequencedEvent
  | .event e => some e
  | _ => none

def oldestSeq (buffer : List SequencedEvent) : Option Nat := buffer.head?.map (·.seq)

/-- A replay over the WebSocket, to a client with the given filter. -/
def handleReplay (store : ReplayStore) (buffer : List SequencedEvent) (filter : Option SubscriberFilter)
    (fromSeq : Nat) : List ReplayFrame :=
  match store.since buffer fromSeq with
  | none => [.tooOld fromSeq (oldestSeq buffer)]
  | some events =>
    let passed := events.filter fun e => filter.all (admits · (getEventChainSync e.event) e.event)
    .started fromSeq events.length :: passed.map .event ++ [.ended events.length]

/-- The resumption of an SSE stream by `Last-Event-ID`. The client's filter is not asked. After `fits` events the next
    one takes the response over its buffer limit: it is written, and none behind it. -/
def resume (buffer : List SequencedEvent) (lastEventId fits : Nat) : List ReplayFrame :=
  match ReplayStore.memory.since buffer lastEventId with
  | none => [.tooOld lastEventId (oldestSeq buffer)]
  | some events => (events.take (fits + 1)).map .event

/-! ### Broadcasts -/

/-- How many events the ring buffer keeps. -/
def REPLAY_BUFFER_SIZE : Nat := 500

def push (buffer : List SequencedEvent) (e : SequencedEvent) : List SequencedEvent :=
  (if REPLAY_BUFFER_SIZE ≤ buffer.length then buffer.tail else buffer) ++ [e]

/-- The synchronous parts of `broadcast`, and what it awaits between them. -/
inductive GatewayCall where
  /-- `nextSeq++`, and the push into the ring buffer -/
  | number (event : FeedEvent)
  | append (e : SequencedEvent)
  | get (intentId : String)
  /-- the await of an async function that looks nothing up -/
  | settle
  | deliver (e : SequencedEvent) (chain : Option SupportedChain)

abbrev GatewayReply : GatewayCall → Type
  | .number _ => Nat
  | .append _ => Except String Unit
  | .get _ => Except String (Option Intent)
  | .settle | .deliver .. => Unit

structure GatewayWorld where
  nextSeq : Nat := 1
  ringBuffer : List SequencedEvent := []
  /-- the filters of the open connections -/
  subscribers : Nat → Option SubscriberFilter
  /-- the frames that each client was sent, newest first -/
  sent : Nat → List SequencedEvent := fun _ => []

/-- What the replay store and the intents service answer. -/
structure GatewayChoice where
  appended : Except String Unit := .ok ()
  found : Except String (Option Intent) := .ok none

/-- A frame goes to every open connection whose filter lets the event through. -/
def deliverToMatchingSubscribers (w : GatewayWorld) (e : SequencedEvent) (chain : Option SupportedChain) :
    GatewayWorld :=
  { w with sent := fun client =>
      if (w.subscribers client).any (admits · chain e.event) then e :: w.sent client else w.sent client }

def GatewayWorld.perform : (call : GatewayCall) → GatewayChoice → GatewayWorld →
    Option (GatewayReply call × GatewayWorld)
  | .number event, _, w =>
    some (w.nextSeq, { w with nextSeq := w.nextSeq + 1, ringBuffer := push w.ringBuffer ⟨w.nextSeq, event⟩ })
  | .append _, choice, w => some (choice.appended, w)
  | .get _, choice, w => some (choice.found, w)
  | .settle, _, w => some ((), w)
  | .deliver e chain, _, w => some ((), deliverToMatchingSubscribers w e chain)

abbrev Gateway := Async GatewayReply String

/-- A failure of the replay store is logged. -/
def appendTo (replayStore : Bool) (e : SequencedEvent) : Gateway Unit :=
  if replayStore then do
    let _ ← Async.call (.append e)
    return ()
  else return ()

def resolveChain (event : FeedEvent) : Gateway (Option SupportedChain) :=
  match lookupId event with
  | none => do
    Async.call GatewayCall.settle
    return getEventChain (fun _ => .ok none) event
  | some id => do
    let answer ← Async.call (.get id)
    return getEventChain (fun _ => answer) event

def broadcast (replayStore : Bool) (event : FeedEvent) : Gateway Unit := do
  let seq ← Async.call (.number event)
  appendTo replayStore ⟨seq, event⟩
  let chain ← resolveChain event
  Async.call (GatewayCall.deliver ⟨seq, event⟩ chain)

/-- Broadcasts of one gateway, with or without a replay store. Connections open, close and change their filters. -/
def gatewayService (replayStore : Bool) : Service GatewayReply GatewayWorld GatewayChoice
    (Nat → Option SubscriberFilter) FeedEvent (Except String Unit) where
  perform := GatewayWorld.perform
  drift subscribers w := some { w with subscribers }
  start event := (broadcast replayStore event).run

/-! ### The feed service of one replica -/

/-- Messages about quotes are sequenced with the feed but are not part of it. -/
def isFeedEvent (event : FeedEvent) : Bool := event.type != "rfq_request" && event.type != "rfq_response"

/-- `EventRingBuffer.push`. -/
def pushWithin (capacity : Nat) (buffer : List SequencedEvent) (e : SequencedEvent) : List SequencedEvent :=
  (if capacity ≤ buffer.length then buffer.tail else buffer) ++ [e]

/-- The stream in Redis, `IntentFeedService` on one replica, and an SSE connection to it. -/
structure FeedReplica where
  /-- all that was published, in the order of its numbers -/
  sequenced : List SequencedEvent := []
  /-- what Redis still has of it -/
  stream : List SequencedEvent := []
  lastSeq : Nat := 0
  ringBuffer : List SequencedEvent := []
  /-- the delivery that waits for its chain -/
  delivering : Option SequencedEvent := none
  connection : Option FeedFilter := none
  /-- the ids written to the connection, in order -/
  written : List Nat := []

inductive FeedOp where
  /-- any replica publishes -/
  | publish (event : FeedEvent)
  /-- Redis keeps the stream near its maximal length -/
  | trim (count : Nat)
  /-- the read loop takes the next entry, up to the await in `deliver` -/
  | read
  /-- the chain has been looked up; a response over its limit is closed -/
  | send (chain : Option SupportedChain) (fits : Bool)
  /-- the route is called; after `fits` replayed events the response is over its limit with the next one -/
  | connect (filter : FeedFilter) (lastEventId : Option Nat) (fits : Nat)
  | disconnect
  /-- the process starts anew, and is told the newest entry unless Redis fails -/
  | restart (answered : Bool)

namespace FeedReplica

/-- `none` is `tooOld`. -/
def replaySince (s : FeedReplica) (fromSeq : Nat) : Option (List SequencedEvent) :=
  ReplayStore.memory.since s.ringBuffer fromSeq

/-- One step is what runs between two awaits. -/
def step (capacity : Nat) (s : FeedReplica) : FeedOp → Unit × FeedReplica
  | .publish event =>
    let e := ⟨s.sequenced.length + 1, event⟩
    ((), { s with sequenced := s.sequenced ++ [e], stream := s.stream ++ [e] })
  | .trim count => ((), { s with stream := s.stream.drop count })
  | .read =>
    match s.delivering, s.stream.find? (s.lastSeq < ·.seq) with
    | none, some e =>
      if isFeedEvent e.event then
        ((), { s with lastSeq := e.seq, ringBuffer := pushWithin capacity s.ringBuffer e, delivering := some e })
      else ((), { s with lastSeq := e.seq })
    | _, _ => ((), s)
  | .send chain fits =>
    match s.delivering with
    | some e =>
      if s.connection.any (delivers · chain e.event) then
        ((), { s with
          delivering := none
          written := s.written ++ [e.seq]
          connection := if fits then s.connection else none })
      else ((), { s with delivering := none })
    | none => ((), s)
  | .connect filter lastEventId fits =>
    let replayed := (lastEventId.elim [] (resume s.ringBuffer · fits)).filterMap ReplayFrame.sent
    ((), { s with connection := some filter, written := replayed.map (·.seq) })
  | .disconnect => ((), { s with connection := none })
  | .restart answered =>
    ((), {
      sequenced := s.sequenced, stream := s.stream
      lastSeq := if answered then (s.stream.getLast?.map (·.seq)).getD 0 else 0 })

end FeedReplica

end Feed

end VortexBackend
