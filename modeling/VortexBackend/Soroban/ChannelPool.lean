/-
Module: VortexBackend.Soroban.ChannelPool
Purpose: The pool of channel accounts. A handle can be released any number of times.
Trusted boundary: the clock stands still while JavaScript runs without an `await`; metrics, logs and the key pairs
  that a handle carries are left out
Main exports: ChannelPool.step
-/
import VortexBackend.Sequential.Run

namespace VortexBackend

/-- 30 s lease timeout -/
def LEASE_TIMEOUT_MS : Nat := 30000

structure ChannelAccount where
  publicKey : String
  cachedSequence : Option Nat := none
  leased : Bool := false
  leaseExpiresAt : Nat := 0
deriving Repr, DecidableEq

/-- How far a call of `lease` is that has taken a channel: it reads the account, it has returned a handle with its
    sequence number, or the account could not be read and the call was rejected. -/
inductive LeaseStage where
  | reading
  | granted (sequence : Nat)
  | rejected
deriving Repr, DecidableEq

/-- A call of `lease` that has taken a channel. `channel` is the place of the channel object in the pool, and
    `expiresAt` and `released` are the lease's own: the pool keeps only what it has noted on the channel. -/
structure Lease where
  channel : Nat
  publicKey : String
  expiresAt : Nat
  stage : LeaseStage
  released : Bool := false
deriving Repr, DecidableEq

/-- The sequence number that a handle carries. -/
def Lease.sequence (l : Lease) : Option Nat :=
  match l.stage with
  | .granted sequence => some sequence
  | _ => none

/-- The pool, the callers that wait or were woken, and every lease so far, oldest first. -/
structure ChannelPool where
  now : Nat := 0
  channels : List ChannelAccount := []
  waiters : List Nat := []
  woken : List Nat := []
  leases : List Lease := []
deriving Repr, DecidableEq

/-- What can happen between two `await`s. -/
inductive PoolOp where
  | tick (ms : Nat)
  /-- A caller calls `lease`. -/
  | lease (caller : Nat)
  /-- A caller whose wait was ended runs the loop again. -/
  | resume (caller : Nat)
  /-- `getAccount` answers a lease, or throws. -/
  | account (lease : Nat) (answer : Option Nat)
  /-- The holder of a handle calls its `release`. -/
  | release (lease : Nat) (success : Bool)
  /-- `getAccount` answers `onModuleInit` for one of the channels. -/
  | prefetch (channel sequence : Nat)
  /-- `getAccount` answers `resyncSequence`. -/
  | resync (publicKey : String) (sequence : Nat)
deriving Repr, DecidableEq

namespace ChannelPool

/-- The constructor, for the public keys of the secrets that could be parsed. -/
def initialise (publicKeys : List String) : ChannelPool :=
  { channels := publicKeys.map fun publicKey => { publicKey } }

/-- One round of the loop of `evictExpiredLeases`. -/
def evict (now : Nat) (ch : ChannelAccount) : ChannelAccount :=
  if ch.leased && ch.leaseExpiresAt < now then
    { ch with leased := false, leaseExpiresAt := 0, cachedSequence := none }
  else ch

variable (p : ChannelPool)

def evictExpiredLeases : ChannelPool := { p with channels := p.channels.map (evict p.now) }

/-- `ch.leased = true` and the lease's expiry; a cached sequence number is counted on at once. -/
def take (now : Nat) (ch : ChannelAccount) : ChannelAccount :=
  { ch with
    leased := true
    leaseExpiresAt := now + LEASE_TIMEOUT_MS
    cachedSequence := ch.cachedSequence.map (· + 1) }

/-- The lease that a caller gets on a channel. -/
def leaseOn (now channel : Nat) (ch : ChannelAccount) : Lease where
  channel
  publicKey := ch.publicKey
  expiresAt := now + LEASE_TIMEOUT_MS
  stage :=
    match ch.cachedSequence with
    | some cached => .granted (cached + 1)
    | none => .reading

/-- The part of `lease` behind the eviction: the first free channel, or the end of the queue. -/
def takeFree (caller : Nat) : ChannelPool :=
  match p.channels.findIdx? (!·.leased) with
  | none => { p with waiters := p.waiters ++ [caller] }
  | some i =>
    { p with
      channels := p.channels.modify i (take p.now)
      leases := p.leases ++ (p.channels[i]?.map (leaseOn p.now i)).toList }

/-- The body of the loop of `lease`. -/
def lease (caller : Nat) : ChannelPool := p.evictExpiredLeases.takeFree caller

/-- The rest of `lease` when the account was read, or could not be. -/
def account (i : Nat) (answer : Option Nat) : ChannelPool :=
  match p.leases[i]? with
  | some l =>
    if l.stage = .reading then
      match answer with
      | some sequence =>
        { p with
          channels := p.channels.modify l.channel ({ · with cachedSequence := some (sequence + 1) })
          leases := p.leases.modify i ({ · with stage := .granted (sequence + 1) }) }
      | none => { p with leases := p.leases.modify i ({ · with stage := .rejected }) }
    else p
  | none => p

/-- What `release` writes on a channel. -/
def free (success : Bool) (ch : ChannelAccount) : ChannelAccount :=
  { ch with leased := false, leaseExpiresAt := 0, cachedSequence := if success then ch.cachedSequence else none }

/-- The channel with a key is changed, if there is one. -/
def onKey (publicKey : String) (f : ChannelAccount → ChannelAccount) : ChannelPool :=
  match p.channels.findIdx? (·.publicKey == publicKey) with
  | some target => { p with channels := p.channels.modify target f }
  | none => p

/-- `release` of a handle. It frees the channel by its key, whoever holds it now, and wakes the next waiter. -/
def release (i : Nat) (success : Bool) : ChannelPool :=
  match p.leases[i]? with
  | some l =>
    if l.sequence.isSome then
      let p := p.onKey l.publicKey (free success)
      { p with
        leases := p.leases.modify i ({ · with released := true })
        waiters := p.waiters.tail
        woken := p.woken ++ p.waiters.head?.toList }
    else p
  | none => p

/-- One thing happens. An operation that cannot happen (nobody was woken, no such handle) changes nothing. -/
def step : Component ChannelPool PoolOp Unit
  | p, .tick ms => ((), { p with now := p.now + ms })
  | p, .lease caller => ((), p.lease caller)
  | p, .resume caller =>
    ((), if caller ∈ p.woken then { p with woken := p.woken.erase caller }.lease caller else p)
  | p, .account i answer => ((), p.account i answer)
  | p, .release i success => ((), p.release i success)
  | p, .prefetch channel sequence =>
    ((), { p with channels := p.channels.modify channel ({ · with cachedSequence := some sequence }) })
  | p, .resync publicKey sequence => ((), p.onKey publicKey ({ · with cachedSequence := some sequence }))

end ChannelPool

end VortexBackend
