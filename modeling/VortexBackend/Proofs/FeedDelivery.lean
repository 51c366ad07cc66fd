/-
Module: VortexBackend.Proofs.FeedDelivery
Purpose: What the feed service replays and writes. After a restart its buffer is empty, which leaves a gap.
Main exports: replay_without_gap, sse_ids_increase
-/
import VortexBackend.Proofs.FeedReplay
import VortexBackend.Sequential.Run

namespace VortexBackend.Feed

open FeedReplica Component

variable {capacity n : Nat} {s : FeedReplica} {e : SequencedEvent} {op : FeedOp}

theorem pushWithin_eq (capacity : Nat) (buffer : List SequencedEvent) (e : SequencedEvent) :
    ∃ kept, kept <:+ buffer ∧ pushWithin capacity buffer e = kept ++ [e] := by
  unfold pushWithin
  split
  · exact ⟨_, List.tail_suffix buffer, rfl⟩
  · exact ⟨_, List.suffix_rfl, rfl⟩

/-- Numbers that increase up to `top`. -/
def Climbs (ids : List Nat) (top : Nat) : Prop := ids.Pairwise (· < ·) ∧ ∀ id ∈ ids, id ≤ top

theorem Climbs.nil {top} : Climbs [] top := ⟨.nil, nofun⟩

theorem Climbs.snoc {ids top id} (climbs : Climbs ids top) (later : top < id) : Climbs (ids ++ [id]) id := by
  have below : ∀ x ∈ ids, x < id := fun x member => Nat.lt_of_le_of_lt (climbs.2 x member) later
  refine ⟨List.pairwise_append.mpr ⟨climbs.1, List.pairwise_singleton _ _, by simpa using below⟩, ?_⟩
  simpa [or_imp, forall_and] using fun x member => Nat.le_of_lt (below x member)

theorem Climbs.mono {ids part top top'} (climbs : Climbs ids top) (sublist : part.Sublist ids) (le : top ≤ top') :
    Climbs part top' :=
  ⟨climbs.1.sublist sublist, fun id member => Nat.le_trans (climbs.2 id (sublist.mem member)) le⟩

namespace FeedReplica

/-- Numbers increase along the stream and along the buffer. -/
structure Numbered (s : FeedReplica) : Prop where
  sequenced : Climbs (s.sequenced.map (·.seq)) s.sequenced.length
  lastSeq : s.lastSeq ≤ s.sequenced.length
  stream : s.stream <:+ s.sequenced
  buffer : Climbs (s.ringBuffer.map (·.seq)) s.lastSeq

theorem read_cases (capacity : Nat) (s : FeedReplica) :
    (step capacity s .read).2 = s ∨ ∃ e, s.delivering = none ∧ s.stream.find? (s.lastSeq < ·.seq) = some e ∧
      ((isFeedEvent e.event = true ∧ (step capacity s .read).2 = { s with
          lastSeq := e.seq, ringBuffer := pushWithin capacity s.ringBuffer e, delivering := some e }) ∨
        (isFeedEvent e.event = false ∧ (step capacity s .read).2 = { s with lastSeq := e.seq })) := by
  cases waiting : s.delivering with
  | some _ => simp [step, waiting]
  | none =>
    cases found : s.stream.find? (s.lastSeq < ·.seq) with
    | none => simp [step, waiting, found]
    | some e =>
      refine .inr ⟨e, rfl, rfl, ?_⟩
      cases feed : isFeedEvent e.event <;> simp [step, waiting, found, feed]

theorem start_numbered : Numbered {} := ⟨.nil, Nat.le_refl _, List.nil_suffix, .nil⟩

namespace Numbered

variable (ok : Numbered s)
include ok

theorem numbered (member : e ∈ s.sequenced) : e.seq ≤ s.sequenced.length :=
  ok.sequenced.2 _ (List.mem_map_of_mem member)

theorem split (found : s.stream.find? (s.lastSeq < ·.seq) = some e) :
    s.lastSeq < e.seq ∧ e.seq ≤ s.sequenced.length ∧ ∃ before after, s.sequenced = before ++ e :: after ∧
      (∀ x ∈ before, x.seq < e.seq ∧ (x ∈ s.stream → x.seq ≤ s.lastSeq)) ∧
      ∀ x ∈ after, e.seq < x.seq ∧ x ∈ s.stream := by
  have later : s.lastSeq < e.seq := by simpa using List.find?_some found
  obtain ⟨gone, isStream⟩ := ok.stream
  obtain ⟨_, skipped, after, isSplit, read⟩ := List.find?_eq_some_iff_append.mp found
  have all : s.sequenced = (gone ++ skipped) ++ e :: after := by
    rw [← isStream, isSplit, List.append_assoc]
  have ordered := List.pairwise_map.mp ok.sequenced.1
  rw [all, List.pairwise_append, List.pairwise_cons] at ordered
  have member : e ∈ s.sequenced := by simp [all]
  refine ⟨later, ok.numbered member, _, after, all, fun x inBefore => ?_, fun x inAfter => ?_⟩
  · have earlier := ordered.2.2 x inBefore e (.head _)
    refine ⟨earlier, fun inStream => ?_⟩
    rw [isSplit] at inStream
    rcases List.mem_append.mp inStream with isSkipped | rest
    · simpa using read x isSkipped
    · rcases List.mem_cons.mp rest with rfl | isAfter
      · exact absurd earlier (Nat.lt_irrefl _)
      · exact absurd (ordered.2.1.1 x isAfter) (Nat.lt_asymm earlier)
  · exact ⟨ordered.2.1.1 x inAfter, by simp [isSplit, inAfter]⟩

theorem unread_next (found : s.stream.find? (s.lastSeq < ·.seq) = some e) {x} (member : x ∈ s.sequenced)
    (later : e.seq < x.seq) : x ∈ s.stream := by
  obtain ⟨_, _, before, after, all, earlier, behind⟩ := ok.split found
  rw [all, List.mem_append, List.mem_cons] at member
  rcases member with isBefore | rfl | isAfter
  · exact absurd (earlier x isBefore).1 (Nat.lt_asymm later)
  · exact absurd later (Nat.lt_irrefl _)
  · exact (behind x isAfter).2

theorem step (op : FeedOp) : Numbered (step capacity s op).2 := by
  cases op with
  | publish event =>
    refine { ok with sequenced := ?_, lastSeq := ?_, stream := ?_ }
    · simpa [FeedReplica.step] using ok.sequenced.snoc (Nat.lt_succ_self _)
    · simpa [FeedReplica.step] using Nat.le_succ_of_le ok.lastSeq
    · obtain ⟨gone, isStream⟩ := ok.stream
      exact ⟨gone, by simp [FeedReplica.step, ← isStream]⟩
  | trim count => exact { ok with stream := (List.drop_suffix count _).trans ok.stream }
  | read =>
    rcases read_cases capacity s with same | ⟨e, _, found, next⟩
    · rwa [same]
    · obtain ⟨later, bound, _⟩ := ok.split found
      rcases next with ⟨_, next⟩ | ⟨_, next⟩
      · obtain ⟨kept, suffix, pushed⟩ := pushWithin_eq capacity s.ringBuffer e
        have older := ok.buffer.mono (suffix.sublist.map _) (Nat.le_refl _)
        rw [next, pushed]
        exact { ok with lastSeq := bound, buffer := by simpa using older.snoc later }
      · rw [next]
        exact { ok with lastSeq := bound, buffer := ok.buffer.mono (.refl _) (Nat.le_of_lt later) }
  | send chain fits =>
    simp only [FeedReplica.step]
    split
    · split <;> exact { ok with }
    · exact ok
  | connect | disconnect => exact { ok with }
  | restart answered =>
    refine { ok with lastSeq := ?_, buffer := .nil }
    simp only [FeedReplica.step]
    split
    · cases last : s.stream.getLast? with
      | none => exact Nat.zero_le _
      | some e => exact ok.numbered (ok.stream.mem (List.mem_of_getLast? last))
    · exact Nat.zero_le _

end Numbered

/-! ### Replays -/

/-- The feed events up to a number. -/
def feedUpTo (sequenced : List SequencedEvent) (seq : Nat) : List SequencedEvent :=
  sequenced.filter fun e => isFeedEvent e.event && e.seq ≤ seq

/-- Redis trims nothing that a replica with events in its buffer has yet to read. -/
def trimsRead (s : FeedReplica) : FeedOp → Bool
  | .trim count => s.ringBuffer.isEmpty || (s.stream.take count).all (·.seq ≤ s.lastSeq)
  | _ => true

/-- The buffer is the end of what was delivered, and what comes next is in the stream. -/
structure Gapless (s : FeedReplica) : Prop extends Numbered s where
  suffix : s.ringBuffer <:+ feedUpTo s.sequenced s.lastSeq
  unread : s.ringBuffer ≠ [] → ∀ e ∈ s.sequenced, s.lastSeq < e.seq → e ∈ s.stream

theorem Gapless.feed_next (ok : Gapless s) (found : s.stream.find? (s.lastSeq < ·.seq) = some e) :
    ∃ before, s.ringBuffer <:+ before ∧
      feedUpTo s.sequenced e.seq = if isFeedEvent e.event then before ++ [e] else before := by
  obtain ⟨later, _, before, after, all, earlier, behind⟩ := ok.split found
  refine ⟨before.filter (isFeedEvent ·.event), ?_, ?_⟩
  · rcases List.eq_nil_or_concat s.ringBuffer with empty | ⟨_, _, isBuffer⟩
    · exact empty ▸ List.nil_suffix
    have read : ∀ x ∈ before, x.seq ≤ s.lastSeq := by
      intro x member
      by_contra unread
      exact unread ((earlier x member).2
        (ok.unread (by simp [isBuffer]) x (by simp [all, member]) (Nat.not_le.mp unread)))
    have none : feedUpTo (e :: after) s.lastSeq = [] := by
      simpa [feedUpTo, List.filter_eq_nil_iff, later] using fun x member _ => Nat.lt_trans later (behind x member).1
    have every : feedUpTo before s.lastSeq = before.filter (isFeedEvent ·.event) :=
      List.filter_congr fun x member => by simp [read x member]
    have suffix := ok.suffix
    rwa [all, feedUpTo, List.filter_append, ← feedUpTo, ← feedUpTo, none, every, List.append_nil] at suffix
  · have none : feedUpTo after e.seq = [] := by
      simpa [feedUpTo, List.filter_eq_nil_iff] using fun x member _ => (behind x member).1
    have every : feedUpTo before e.seq = before.filter (isFeedEvent ·.event) :=
      List.filter_congr fun x member => by simp [Nat.le_of_lt (earlier x member).1]
    rw [all, feedUpTo, List.filter_append, List.filter_cons, ← feedUpTo, ← feedUpTo, none, every]
    cases feed : isFeedEvent e.event <;> simp

theorem Gapless.step (ok : Gapless s) (met : trimsRead s op = true) : Gapless (step capacity s op).2 := by
  have numbered : Numbered (FeedReplica.step capacity s op).2 := ok.toNumbered.step op
  cases op with
  | publish event =>
    refine { numbered with suffix := ?_, unread := ?_ }
    · have new : ¬s.sequenced.length + 1 ≤ s.lastSeq := Nat.not_le.mpr (Nat.lt_succ_of_le ok.lastSeq)
      have same : feedUpTo (s.sequenced ++ [⟨s.sequenced.length + 1, event⟩]) s.lastSeq =
          feedUpTo s.sequenced s.lastSeq := by
        simp [feedUpTo, new]
      exact same ▸ ok.suffix
    · intro some x member later
      rcases List.mem_append.mp member with old | isNew
      · exact List.mem_append_left _ (ok.unread some x old later)
      · exact List.mem_append_right _ isNew
  | trim count =>
    refine { numbered with suffix := ok.suffix, unread := fun some x member later => ?_ }
    have inStream := ok.unread some x member later
    rw [← List.take_append_drop count s.stream] at inStream
    rcases List.mem_append.mp inStream with dropped | kept
    · simp only [trimsRead, Bool.or_eq_true, List.isEmpty_iff, List.all_eq_true, decide_eq_true_eq] at met
      exact absurd (met.resolve_left some x dropped) (Nat.not_le.mpr later)
    · exact kept
  | read =>
    rcases read_cases capacity s with same | ⟨e, _, found, ⟨feed, next⟩ | ⟨feed, next⟩⟩
    · rwa [same]
    · obtain ⟨before, ⟨older, isBefore⟩, grown⟩ := ok.feed_next found
      obtain ⟨kept, ⟨evicted, isKept⟩, pushed⟩ := pushWithin_eq capacity s.ringBuffer e
      rw [next] at numbered ⊢
      refine { numbered with suffix := ?_, unread := fun _ _ => ok.unread_next found }
      rw [pushed, grown, if_pos feed, ← isBefore, ← isKept]
      exact ⟨older ++ evicted, by simp⟩
    · obtain ⟨before, suffix, grown⟩ := ok.feed_next found
      rw [next] at numbered ⊢
      refine { numbered with suffix := ?_, unread := fun _ _ => ok.unread_next found }
      rwa [grown, if_neg (by simp [feed])]
  | send chain fits =>
    simp only [FeedReplica.step]
    split
    · split <;> exact { ok with }
    · exact ok
  | connect | disconnect => exact { numbered with suffix := ok.suffix, unread := ok.unread }
  | restart answered =>
    exact { numbered with suffix := List.nil_suffix, unread := fun some => absurd rfl some }

theorem Gapless.replay (ok : Gapless s) (buffered : s.ringBuffer = [] → s.lastSeq ≤ n) :
    s.replaySince n = none ∨ s.replaySince n = some (since (feedUpTo s.sequenced s.lastSeq) n) := by
  simp only [replaySince, ReplayStore.since]
  cases isBuffer : s.ringBuffer with
  | nil =>
    have low := buffered isBuffer
    have none : since (feedUpTo s.sequenced s.lastSeq) n = [] := by
      simp only [since, feedUpTo, List.filter_eq_nil_iff, List.mem_filter, Bool.and_eq_true, decide_eq_true_eq]
      omega
    rw [none]
    exact .inr rfl
  | cons oldest rest =>
    split
    · exact .inl rfl
    · rename_i recent
      obtain ⟨before, isFeed⟩ := ok.suffix
      have ordered : (feedUpTo s.sequenced s.lastSeq).Pairwise (·.seq < ·.seq) :=
        (List.pairwise_map.mp ok.sequenced.1).sublist List.filter_sublist
      rw [← isFeed, isBuffer] at ordered ⊢
      -- What is older than the buffer is no newer than `n`.
      have none : since before n = [] := by
        rw [since, List.filter_eq_nil_iff]
        intro x member
        have older := (List.pairwise_append.mp ordered).2.2 x member oldest (.head _)
        simp only [List.head?_cons, Option.any_some, decide_eq_true_eq] at recent ⊢
        omega
      refine .inr (congrArg some ?_)
      rw [since, since, List.filter_append, ← since.eq_def before, none, List.nil_append]

end FeedReplica

/-- In every run in which Redis trims nothing that the replica has yet to read, a replay that is not too old returns
    every feed event after the number, up to the last one delivered; an empty buffer has to be asked from there on. -/
theorem replay_without_gap (capacity : Nat) (ops : List FeedOp)
    (meets : Component.Meets (step capacity) (fun _ s op => trimsRead s op = true) [] {} ops) (s : FeedReplica)
    (reached : s ∈ states (step capacity) {} ops) (n : Nat) (buffered : s.ringBuffer = [] → s.lastSeq ≤ n) :
    s.replaySince n = none ∨ s.replaySince n = some (since (feedUpTo s.sequenced s.lastSeq) n) := by
  have start : Gapless {} := ⟨start_numbered, List.nil_suffix, fun h => absurd rfl h⟩
  have ok := states_invariant Gapless (fun _ _ _ ok met => ok.step met) ops [] {} start meets s reached
  exact ok.replay buffered

/-- An event of the feed. -/
private def opened : FeedEvent := { type := "intent_created" }

/-- Three events in a buffer of two: from the first on they are replayed. -/
theorem replay_without_gap_two :
    ∃ s ∈ states (step 2) {} ([.publish opened, .publish opened, .publish opened, .read, .send none true,
        .read, .send none true, .read] : List FeedOp),
      s.replaySince 1 = some [⟨2, opened⟩, ⟨3, opened⟩] ∧
      (s.replaySince 1 = none ∨ s.replaySince 1 = some (since (feedUpTo s.sequenced s.lastSeq) 1)) := by
  refine ⟨_, List.getLast_mem (by decide), by decide, ?_⟩
  exact replay_without_gap 2 _ (by decide) _ (List.getLast_mem (by decide)) 1 (by decide)

/-- After a restart the buffer is empty and the last number is that of the stream: a client that has missed an event is
    told that there is none. -/
theorem restart_hides_events :
    ∃ s ∈ states (step 500) {} ([.publish opened, .read, .send none true, .restart true] : List FeedOp),
      s.lastSeq = 1 ∧ s.replaySince 0 = some [] ∧ since (feedUpTo s.sequenced s.lastSeq) 0 = [⟨1, opened⟩] :=
  ⟨_, List.getLast_mem (by decide), by decide⟩

/-! ### The ids of an SSE connection -/

namespace FeedReplica

/-- No connection resumes while a delivery waits for its chain. -/
def resumesBetween (s : FeedReplica) : FeedOp → Bool
  | .connect _ (some _) _ => s.delivering.isNone
  | _ => true

/-- The ids so far increase, and what waits to be sent is newer. -/
structure InOrder (s : FeedReplica) : Prop extends Numbered s where
  written : ∃ top, Climbs s.written top ∧ top ≤ s.lastSeq ∧ ∀ e, s.delivering = some e → top < e.seq ∧
    e.seq = s.lastSeq

theorem sent_resume_sublist (buffer : List SequencedEvent) (n fits : Nat) :
    ((resume buffer n fits).filterMap ReplayFrame.sent).Sublist buffer := by
  simp only [resume, ReplayStore.since]
  by_cases tooOld : buffer.head?.any (n + 1 < ·.seq) = true
  · rw [if_pos tooOld]
    exact List.nil_sublist _
  · rw [if_neg tooOld]
    change ((((since buffer n).take (fits + 1)).map ReplayFrame.event).filterMap ReplayFrame.sent).Sublist buffer
    rw [sent_map_event]
    exact (List.take_sublist _ _).trans List.filter_sublist

theorem InOrder.step (ok : InOrder s) (met : resumesBetween s op = true) : InOrder (step capacity s op).2 := by
  refine { ok.toNumbered.step op with written := ?_ }
  obtain ⟨top, climbs, low, newer⟩ := ok.written
  cases op with
  | publish | trim | disconnect => exact ⟨top, climbs, low, newer⟩
  | read =>
    rcases read_cases capacity s with same | ⟨e, waiting, found, next⟩
    · rw [same]
      exact ok.written
    · have later := (ok.split found).1
      rcases next with ⟨_, next⟩ | ⟨_, next⟩ <;> rw [next] <;>
        refine ⟨top, climbs, Nat.le_trans low (Nat.le_of_lt later), fun e' isDelivering => ?_⟩
      · cases isDelivering
        exact ⟨Nat.lt_of_le_of_lt low later, rfl⟩
      · cases waiting.symm.trans isDelivering
  | send chain fits =>
    simp only [FeedReplica.step]
    split
    · rename_i e isDelivering
      obtain ⟨recent, isLast⟩ := newer e isDelivering
      split
      · exact ⟨e.seq, climbs.snoc recent, Nat.le_of_eq isLast, fun _ h => nomatch h⟩
      · exact ⟨top, climbs, low, fun _ h => nomatch h⟩
    · exact ok.written
  | connect filter lastEventId fits =>
    cases lastEventId with
    | none =>
      refine ⟨0, .nil, Nat.zero_le _, fun e isDelivering => ?_⟩
      exact ⟨Nat.zero_lt_of_lt (newer e isDelivering).1, (newer e isDelivering).2⟩
    | some n =>
      have part := sent_resume_sublist s.ringBuffer n fits
      have replayed := ok.buffer.mono (part.map (·.seq)) (Nat.le_refl _)
      refine ⟨s.lastSeq, replayed, Nat.le_refl _, fun e isDelivering => ?_⟩
      cases (Option.isNone_iff_eq_none.mp met).symm.trans isDelivering
  | restart answered => exact ⟨0, .nil, Nat.zero_le _, fun _ h => nomatch h⟩

end FeedReplica

/-- In every run in which no connection resumes while a delivery waits for its chain, the ids written to a connection
    increase. -/
theorem sse_ids_increase (capacity : Nat) (ops : List FeedOp)
    (meets : Component.Meets (step capacity) (fun _ s op => resumesBetween s op = true) [] {} ops) (s : FeedReplica)
    (reached : s ∈ states (step capacity) {} ops) : s.written.Pairwise (· < ·) := by
  have start : FeedReplica.InOrder {} := ⟨start_numbered, 0, .nil, Nat.le_refl _, fun _ h => nomatch h⟩
  have ok := states_invariant _ (fun _ _ _ ok met => ok.step met) ops [] {} start meets s reached
  exact ok.written.elim fun _ climbs => climbs.1.1

/-- An event by replay and the next one live. -/
theorem sse_ids_increase_two :
    ∃ s ∈ states (step 500) {} ([.publish opened, .publish opened, .read, .send none true,
        .connect {} (some 0) 9, .read, .send none true] : List FeedOp),
      s.written = [1, 2] ∧ s.written.Pairwise (· < ·) := by
  refine ⟨_, List.getLast_mem (by decide), by decide, ?_⟩
  exact sse_ids_increase 500 _ (by decide) _ (List.getLast_mem (by decide))

/-- A connection that resumes while an event waits for its chain is sent it by replay, and then once more. -/
theorem resumption_repeats_id :
    ∃ s ∈ states (step 500) {}
        ([.publish opened, .read, .connect {} (some 0) 9, .send none true] : List FeedOp),
      s.written = [1, 1] :=
  ⟨_, List.getLast_mem (by decide), by decide⟩

end VortexBackend.Feed
