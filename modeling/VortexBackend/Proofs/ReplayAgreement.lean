/-
Module: VortexBackend.Proofs.ReplayAgreement
Purpose: For which numbers the two replay stores give the same answer.
Main exports: Retention.redis_suffix_memory, replay_stores_agree_iff
-/
import Mathlib.Data.List.Induction
import VortexBackend.Intents.Feed

namespace VortexBackend.Feed

/-! ### What the stores hold -/

namespace Retention

variable (r : Retention) (appends : List (SequencedEvent × Nat))

def memory : List SequencedEvent := (appends.foldl r.appendMemory []).map Prod.fst

def redis : List SequencedEvent := appends.foldl r.appendRedis []

theorem map_newest {α β : Type} (f : α → β) (l : List α) : (r.newest l).map f = r.newest (l.map f) := by
  rw [newest, newest, List.map_drop, List.length_map]

theorem newest_suffix {α : Type} {l l' : List α} (suffix : l <:+ l') : r.newest l <:+ r.newest l' := by
  apply List.suffix_of_suffix_length_le ((List.drop_suffix _ _).trans suffix) (List.drop_suffix _ _)
  have shorter := suffix.length_le
  rw [List.length_drop, List.length_drop]
  omega

/-- Whatever the ages, the memory store has what the Redis store has, and perhaps older events. -/
theorem redis_suffix_memory : r.redis appends <:+ r.memory appends := by
  induction appends using List.reverseRecOn with
  | nil => exact List.nil_suffix
  | append_singleton appends entry ih =>
    have longer : r.redis appends ++ [entry.1] <:+ (appends.foldl r.appendMemory [] ++ [entry]).map Prod.fst := by
      obtain ⟨older, isMemory⟩ := ih
      refine ⟨older, ?_⟩
      rw [← List.append_assoc, isMemory, List.map_append, List.map_singleton, memory]
    have kept : r.newest (r.redis appends ++ [entry.1]) <:+
        (r.newest (appends.foldl r.appendMemory [] ++ [entry])).map Prod.fst := by
      rw [map_newest]
      exact r.newest_suffix longer
    rw [redis, memory, List.foldl_append, List.foldl_append]
    simp only [List.foldl_cons, List.foldl_nil, appendRedis, appendMemory]
    cases r.maxAgeMs with
    | none => exact kept
    | some age =>
      dsimp only [Option.any_some]
      split
      · exact List.nil_suffix
      · -- an append at a time within the age drops nothing
        rename_i young
        have none : ∀ l : List (SequencedEvent × Nat), l.dropWhile (·.2 + age < entry.2) = l := by
          intro l
          cases l with
          | nil => rfl
          | cons x _ =>
            apply List.dropWhile_cons_of_neg
            simp only [decide_eq_true_eq] at young ⊢
            omega
        rw [none]
        exact kept

theorem memory_sublist : (r.memory appends).Sublist (appends.map Prod.fst) := by
  have kept : (appends.foldl r.appendMemory []).Sublist appends := by
    induction appends using List.reverseRecOn with
    | nil => exact List.Sublist.refl _
    | append_singleton appends entry ih =>
      have longer := ih.append (List.Sublist.refl [entry])
      rw [List.foldl_append]
      simp only [List.foldl_cons, List.foldl_nil, appendMemory]
      split
      · exact (List.drop_sublist _ _).trans longer
      · exact (List.dropWhile_sublist _).trans ((List.drop_sublist _ _).trans longer)
  exact kept.map Prod.fst

end Retention

/-! ### What they answer -/

section

variable {buffer older stream : List SequencedEvent} {fromSeq : Nat}

theorem memory_empty_iff :
    ReplayStore.memory.since buffer fromSeq = some [] ↔ ∀ e ∈ buffer, e.seq ≤ fromSeq := by
  unfold ReplayStore.since
  cases buffer with
  | nil => simp [since]
  | cons first rest =>
    simp only [List.head?_cons, Option.any_some, decide_eq_true_eq]
    by_cases far : fromSeq + 1 < first.seq
    · simp only [if_pos far, reduceCtorEq, false_iff]
      intro seen
      have isSeen := seen first (.head _)
      omega
    · rw [if_neg far, Option.some.injEq, since, List.filter_eq_nil_iff]
      simp

/-- A client is too old for the memory store if the next event comes before all that it has. -/
theorem memory_tooOld_iff (increasing : buffer.Pairwise (·.seq < ·.seq)) (held : buffer ≠ []) :
    ReplayStore.memory.since buffer fromSeq = none ↔ ∀ e ∈ buffer, fromSeq + 1 < e.seq := by
  unfold ReplayStore.since
  cases increasing with
  | nil => exact absurd rfl held
  | @cons first rest above _ =>
    simp only [List.head?_cons, Option.any_some, ite_eq_left_iff, decide_eq_true_eq, reduceCtorEq, imp_false, not_not]
    constructor
    · intro far e member
      rcases List.mem_cons.mp member with rfl | later
      · exact far
      · exact Nat.lt_trans far (above e later)
    · exact fun all => all first (.head _)

/-- The stream has the event after `fromSeq`: both stores send it and all behind it. -/
theorem since_eq_of_next (increasing : (older ++ stream).Pairwise (·.seq < ·.seq)) {e : SequencedEvent}
    (member : e ∈ stream) (isNext : e.seq = fromSeq + 1) :
    ReplayStore.memory.since (older ++ stream) fromSeq = ReplayStore.redis.since stream fromSeq := by
  obtain ⟨_, ordered, across⟩ := List.pairwise_append.mp increasing
  have near : ¬ ∀ e ∈ older ++ stream, fromSeq + 1 < e.seq := by
    intro far
    have isFar := far e (List.mem_append_right _ member)
    omega
  have notOld : (older ++ stream).head?.any (fromSeq + 1 < ·.seq) = false := by
    rw [Bool.eq_false_iff]
    intro old
    have held : older ++ stream ≠ [] := List.ne_nil_of_mem (List.mem_append_right _ member)
    exact near ((memory_tooOld_iff increasing held).mp (if_pos old))
  have seen : since older fromSeq = [] := by
    rw [since, List.filter_eq_nil_iff]
    intro x isOlder
    have before := across x isOlder e member
    simp only [decide_eq_true_eq]
    omega
  have same : since (older ++ stream) fromSeq = since stream fromSeq := by
    rw [since, List.filter_append]
    change since older fromSeq ++ since stream fromSeq = _
    rw [seen, List.nil_append]
  have sent : e ∈ since stream fromSeq := List.mem_filter.mpr ⟨member, by simp [isNext]⟩
  simp only [ReplayStore.since, notOld, same]
  have sorted : (since stream fromSeq).Pairwise (·.seq < ·.seq) := ordered.filter _
  cases isSince : since stream fromSeq with
  | nil =>
    rw [isSince] at sent
    cases sent
  | cons first rest =>
    rw [isSince] at sent sorted
    have first_le : first.seq ≤ fromSeq + 1 := by
      rcases List.mem_cons.mp sent with rfl | later
      · exact Nat.le_of_eq isNext
      · rw [← isNext]
        exact Nat.le_of_lt ((List.pairwise_cons.mp sorted).1 e later)
    simp [first_le]

/-- Without it the Redis store calls everybody too old, except for a client that asks from the start. -/
theorem redis_tooOld (held : stream ≠ []) (absent : ∀ e ∈ stream, e.seq ≠ fromSeq + 1)
    (positive : 0 < fromSeq) :
    ReplayStore.redis.since stream fromSeq = none := by
  have notStart : ¬ fromSeq = 0 := Nat.ne_of_gt positive
  unfold ReplayStore.since
  dsimp only
  cases isSince : since stream fromSeq with
  | nil => simp [notStart, held]
  | cons first rest =>
    have isBehind : first ∈ since stream fromSeq := by
      rw [isSince]
      exact .head _
    obtain ⟨member, behind⟩ := List.mem_filter.mp isBehind
    have other := absent first member
    simp only [decide_eq_true_eq] at behind
    have far : ¬ first.seq ≤ fromSeq + 1 := by omega
    simp [notStart, far]

/-- From the start: the Redis store sends all that it has, and the memory store more or nothing. -/
theorem start_differs (increasing : (older ++ stream).Pairwise (·.seq < ·.seq))
    (positive : ∀ e ∈ older ++ stream, 0 < e.seq) (held : stream ≠ [])
    (absent : ∀ e ∈ stream, e.seq ≠ 0 + 1) :
    ReplayStore.memory.since (older ++ stream) 0 ≠ ReplayStore.redis.since stream 0 := by
  have all : ∀ l : List SequencedEvent, (∀ e ∈ l, 0 < e.seq) → since l 0 = l := by
    intro l positive
    rw [since, List.filter_eq_self]
    simpa using positive
  have sent : ReplayStore.redis.since stream 0 = some stream := by
    unfold ReplayStore.since
    dsimp only
    rw [all stream fun e member => positive e (List.mem_append_right _ member)]
    cases stream with
    | nil => exact absurd rfl held
    | cons first rest => simp
  rw [sent]
  cases older with
  | nil =>
    have far : ∀ e ∈ stream, 0 + 1 < e.seq := by
      intro e member
      have isPositive := positive e member
      have other := absent e member
      omega
    rw [(memory_tooOld_iff increasing held).mpr far]
    exact nofun
  | cons first rest =>
    intro same
    unfold ReplayStore.since at same
    dsimp only at same
    split at same
    · cases same
    · rw [all _ positive, Option.some.injEq] at same
      have lengths := congrArg List.length same
      simp at lengths
      omega

/-- Both stores give the same answer for these numbers: the stream is empty and the client has seen all of the buffer,
    or the stream has the next event, or it has some and the next event comes before everything in the buffer. -/
def Agreed (buffer stream : List SequencedEvent) (fromSeq : Nat) : Prop :=
  (stream = [] ∧ ∀ e ∈ buffer, e.seq ≤ fromSeq) ∨ (∃ e ∈ stream, e.seq = fromSeq + 1) ∨
    stream ≠ [] ∧ 0 < fromSeq ∧ ∀ e ∈ buffer, fromSeq + 1 < e.seq

theorem since_eq_iff (suffix : stream <:+ buffer) (increasing : buffer.Pairwise (·.seq < ·.seq))
    (positive : ∀ e ∈ buffer, 0 < e.seq) :
    ReplayStore.memory.since buffer fromSeq = ReplayStore.redis.since stream fromSeq ↔
      Agreed buffer stream fromSeq := by
  obtain ⟨older, rfl⟩ := suffix
  by_cases empty : stream = []
  · have nothing : ReplayStore.redis.since stream fromSeq = some [] := by simp [ReplayStore.since, since, empty]
    rw [nothing, memory_empty_iff]
    simp [Agreed, empty]
  · by_cases next : ∃ e ∈ stream, e.seq = fromSeq + 1
    · obtain ⟨e, member, isNext⟩ := next
      simp only [since_eq_of_next increasing member isNext, true_iff]
      exact .inr (.inl ⟨e, member, isNext⟩)
    · have absent : ∀ e ∈ stream, e.seq ≠ fromSeq + 1 := fun e member isNext => next ⟨e, member, isNext⟩
      rcases Nat.eq_zero_or_pos fromSeq with rfl | isPositive
      · simp [Agreed, empty, next, start_differs increasing positive empty absent]
      · rw [redis_tooOld empty absent isPositive, memory_tooOld_iff increasing (by simp [empty])]
        simp [Agreed, empty, next, isPositive]

end

/-- For every sequence of appends with increasing numbers, at any times, and any limits: the stores give the same answer
    for a number if and only if what they hold agrees about it. -/
theorem replay_stores_agree_iff (r : Retention) {appends : List (SequencedEvent × Nat)} (fromSeq : Nat)
    (increasing : (0 :: appends.map (·.1.seq)).Pairwise (· < ·)) :
    ReplayStore.memory.since (r.memory appends) fromSeq = ReplayStore.redis.since (r.redis appends) fromSeq ↔
      Agreed (r.memory appends) (r.redis appends) fromSeq := by
  obtain ⟨positive, ordered⟩ := List.pairwise_cons.mp increasing
  have kept : ((r.memory appends).map (·.seq)).Sublist (appends.map (·.1.seq)) := by
    have kept := (r.memory_sublist appends).map (·.seq)
    rwa [List.map_map] at kept
  apply since_eq_iff (r.redis_suffix_memory appends)
  · exact List.pairwise_map.mp (ordered.sublist kept)
  · exact fun e member => positive _ (kept.subset (List.mem_map_of_mem member))

/-- Two of three events are kept, and a client has seen the older of the two. -/
theorem replay_stores_agree_three : ∃ appends : List (SequencedEvent × Nat), appends.length = 3 ∧
    ReplayStore.memory.since (Retention.memory ⟨2, none⟩ appends) 2 =
      ReplayStore.redis.since (Retention.redis ⟨2, none⟩ appends) 2 :=
  ⟨[(⟨1, { type := "a" }⟩, 10), (⟨2, { type := "b" }⟩, 20), (⟨3, { type := "c" }⟩, 30)], rfl,
    (replay_stores_agree_iff ⟨2, none⟩ 2 (by decide)).mpr (.inr (.inl ⟨_, .tail _ (.head _), rfl⟩))⟩

/-- A client that has seen the only event is up to date for the memory store and too old for the Redis store. -/
theorem caught_up_too_old : ∃ appends : List (SequencedEvent × Nat), (appends.map (·.1.seq)).Pairwise (· < ·) ∧
    ReplayStore.memory.since (Retention.memory ⟨500, none⟩ appends) 1 = some [] ∧
    ReplayStore.redis.since (Retention.redis ⟨500, none⟩ appends) 1 = none :=
  ⟨[(⟨1, { type := "a" }⟩, 0)], by decide⟩

end VortexBackend.Feed
