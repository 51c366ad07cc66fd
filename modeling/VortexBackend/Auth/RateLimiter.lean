/-
Module: VortexBackend.Auth.RateLimiter
Purpose: `DistributedRateLimiter` for one key: a window in Redis and one in memory. Who waits for Redis falls back late.
Trusted boundary: Redis runs the scripts of a process in the order of its requests, each at the time that it is given.
  Members of the sorted set are their scores; the counter key makes them distinct and expires together with the set.
Main exports: slidingWindowScript, RateLimiter.consume, RateLimiter.fallBack, admissions
-/
import Mathlib.Data.List.MinMax

namespace VortexBackend

/-- A verdict. `resetAt` is not a number where there is no oldest entry to count from. -/
structure RateLimitResult where
  allowed : Bool
  limit : Nat
  remaining : Nat
  resetAt : Option Nat
deriving DecidableEq, Repr

/-- The timestamps that are not older than the window. -/
def inWindow (windowMs nowMs : Nat) (timestamps : List Nat) : List Nat :=
  timestamps.filter fun t => nowMs < t + windowMs

structure SortedSet where
  scores : List Nat := []
  expiresAt : Nat := 0
deriving DecidableEq, Repr

/-- An expired set is gone. -/
def SortedSet.live (set : SortedSet) (now : Nat) : List Nat :=
  if set.expiresAt ≤ now then [] else set.scores

/-- `SLIDING_WINDOW_SCRIPT`. -/
def slidingWindowScript (set : SortedSet) (windowMs limit now : Nat) : RateLimitResult × SortedSet :=
  let scores := inWindow windowMs now (set.live now)
  if scores.length < limit then
    (⟨true, limit, limit - scores.length - 1, some (now + windowMs)⟩, ⟨scores ++ [now], now + windowMs⟩)
  else
    (⟨false, limit, 0, some ((scores.min?.map (· + windowMs)).getD now)⟩, { set with scores })

/-- The timestamps of the key; none if it has no entry. -/
abbrev LocalRateLimitStore := List Nat

namespace LocalRateLimitStore

variable (window : LocalRateLimitStore)

def consume (windowMs limit nowMs : Nat) : RateLimitResult × LocalRateLimitStore :=
  let timestamps := inWindow windowMs nowMs window
  if timestamps.length < limit then
    (⟨true, limit, limit - (timestamps.length + 1), some (nowMs + windowMs)⟩, timestamps ++ [nowMs])
  else
    (⟨false, limit, 0, timestamps.head?.map (· + windowMs)⟩, timestamps)

def prune (nowMs windowMs : Nat) : LocalRateLimitStore :=
  inWindow windowMs nowMs window

end LocalRateLimitStore

/-- Redis answers, or runs the script and its answer is lost or malformed, or does not run it. -/
inductive RedisOutcome where
  | answered
  | lost
  | unreachable
deriving DecidableEq, Repr

structure RateLimiter where
  /-- A Redis client is configured. -/
  hasRedis : Bool
  redisHealthy : Bool := true
  set : SortedSet := {}
  window : LocalRateLimitStore := []
  /-- the timestamps of the requests whose call to Redis will be rejected -/
  waiting : List Nat := []

namespace RateLimiter

/-- `localStore.consume` -/
def consumeLocally (s : RateLimiter) (limit windowMs nowMs : Nat) : RateLimitResult × RateLimiter :=
  let (result, window) := s.window.consume windowMs limit nowMs
  (result, { s with window })

/-- `consume`, up to the answer of Redis; there is no result yet if it does not come. -/
def consume (s : RateLimiter) (limit windowMs nowMs : Nat) (redis : RedisOutcome) :
    Option RateLimitResult × RateLimiter :=
  let (result, set) := slidingWindowScript s.set windowMs limit nowMs
  if s.hasRedis then
    match redis with
    | .answered => (some result, { s with set, redisHealthy := true })
    | .lost => (none, { s with set, waiting := s.waiting ++ [nowMs] })
    | .unreachable => (none, { s with waiting := s.waiting ++ [nowMs] })
  else
    let (result, s) := s.consumeLocally limit windowMs nowMs
    (some result, s)

/-- The call to Redis of a request is rejected, and `consume` goes on in its `catch` block. -/
def fallBack (s : RateLimiter) (limit windowMs nowMs : Nat) : Option RateLimitResult × RateLimiter :=
  if nowMs ∈ s.waiting then
    let (result, s) :=
      { s with redisHealthy := false, waiting := s.waiting.erase nowMs }.consumeLocally limit windowMs nowMs
    (some result, s)
  else (none, s)

end RateLimiter

/-- The window that the timer of the limiter prunes with. -/
def PRUNE_WINDOW_MS : Nat := 60000

inductive LimiterEvent where
  /-- a request comes and takes its timestamp -/
  | consume (time : Nat) (redis : RedisOutcome)
  /-- the request that came at `nowMs` falls back -/
  | fallBack (time nowMs : Nat)
  | prune (time : Nat)
deriving DecidableEq, Repr

/-- When it happens. -/
def LimiterEvent.time : LimiterEvent → Nat
  | .consume time _ | .fallBack time _ | .prune time => time

/-- A request that was let through, by the answer of Redis or by the local window. -/
structure Admission where
  nowMs : Nat
  shared : Bool
deriving DecidableEq, Repr

/-- The request, if it was let through. -/
def admission (nowMs : Nat) (shared : Bool) (result : Option RateLimitResult) : Option Admission :=
  if result.any (·.allowed) then some ⟨nowMs, shared⟩ else none

def RateLimiter.step (limit windowMs : Nat) (s : RateLimiter) : LimiterEvent → Option Admission × RateLimiter
  | .consume time redis =>
    let (result, s') := s.consume limit windowMs time redis
    (admission time s.hasRedis result, s')
  | .fallBack _ nowMs =>
    let (result, s') := s.fallBack limit windowMs nowMs
    (admission nowMs false result, s')
  | .prune time => (none, { s with window := s.window.prune time PRUNE_WINDOW_MS })

/-- What the limiter lets through, in order. -/
def admissions (limit windowMs : Nat) (s : RateLimiter) : List LimiterEvent → List Admission
  | [] => []
  | e :: events => (s.step limit windowMs e).1.toList ++ admissions limit windowMs (s.step limit windowMs e).2 events

end VortexBackend
