/-
Module: VortexBackend.Proofs.ExactDedupe
Purpose: Events are processed once, if redelivery stays within the remembered keys and indexes tell events apart.
Main exports: exact_deduplication
-/
import VortexBackend.Sequential.Run
import VortexBackend.Soroban.EventIngestion

namespace VortexBackend.EventIngestion

open EventResponse

/-- The events of a stream that are processed, in order. -/
def processed (s : IngestionState) : List EventDelivery → List EventResponse
  | [] => []
  | d :: ds =>
    if (ingest s d).1.processed then d.event :: processed (ingest s d).2 ds else processed (ingest s d).2 ds

variable (s : IngestionState) (ds : List EventDelivery)

/-- The state after a stream. -/
def after : IngestionState := (Component.run ingest s ds).2

/-- The ids of a stream. -/
def ids : List String := ds.map (·.event.id)

/-- A redelivered event is one of the last `n` distinct events. -/
def ReachesBack (n : Nat) (ds : List EventDelivery) : Prop :=
  ∀ before d rest, ds = before ++ d :: rest → d.event.id ∈ ids before →
    d.event.id ∈ (distinct (ids before)).rtake n

/-- Events of one ledger with one index are one event. -/
def IndexesTell : Prop :=
  ∀ d ∈ ds, ∀ d' ∈ ds, d.event.ledger = d'.event.ledger →
    parseEventIndex d.event.id = parseEventIndex d'.event.id → d.event.id = d'.event.id

/-! ### One event -/

section Step

variable {s : IngestionState} {d : EventDelivery}

theorem processed_iff : (ingest s d).1.processed = true ↔ s.seenKeys.has d.event.dedupeKey = false := by
  unfold ingest
  cases known : s.seenKeys.has d.event.dedupeKey <;> simp [known]

theorem seenKeys_of_duplicate (known : s.seenKeys.has d.event.dedupeKey = true) :
    (ingest s d).2.seenKeys = s.seenKeys := by
  simp [ingest, known]

theorem seenKeys_of_fresh (fresh : s.seenKeys.has d.event.dedupeKey = false) :
    (ingest s d).2.seenKeys = s.seenKeys.add MAX_TRACKED_KEYS d.event.dedupeKey := by
  simp only [ingest, fresh, processEvent, Bool.false_eq_true, if_false]
  split <;> rfl

end Step

/-! ### The keys of a stream -/

variable {ds : List EventDelivery} {d : EventDelivery}

/-- In a stream from the node whose indexes tell its events apart, two events have one key exactly when they have one
    id. -/
theorem dedupeKey_eq_iff (rpc : ∀ d ∈ ds, FromRpc d.event) (tell : IndexesTell ds) {d'} (member : d ∈ ds)
    (member' : d' ∈ ds) : d.event.dedupeKey = d'.event.dedupeKey ↔ d.event.id = d'.event.id := by
  constructor
  · intro sameKey
    obtain ⟨id, isText, _⟩ := rpc d member
    obtain ⟨id', isText', _⟩ := rpc d' member'
    have index : parseEventIndex d.event.id = id.index := by rw [isText, id.parseEventIndex_text]
    have index' : parseEventIndex d'.event.id = id'.index := by rw [isText', id'.parseEventIndex_text]
    simp only [dedupeKey, index, index'] at sameKey
    obtain ⟨sameLedger, sameIndex⟩ := buildDedupeKey_inj sameKey
    exact tell d member d' member' sameLedger (by rw [index, index', sameIndex])
  · intro sameId
    rw [dedupeKey, dedupeKey, (rpc d member).ledger_eq (rpc d' member') sameId, sameId]

/-! ### What is remembered of a stream -/

theorem processed_concat (ds : List EventDelivery) (d : EventDelivery) :
    processed s (ds ++ [d]) = processed s ds ++ if (ingest (after s ds) d).1.processed then [d.event] else [] := by
  induction ds generalizing s with
  | nil => rfl
  | cons d' ds ih =>
    simp only [List.cons_append, processed, ih]
    split <;> rfl

theorem after_concat (ds : List EventDelivery) (d : EventDelivery) :
    after s (ds ++ [d]) = (ingest (after s ds) d).2 := by
  induction ds generalizing s with
  | nil => rfl
  | cons d' ds ih => exact ih (ingest s d').2

theorem mem_of_processed {s e} (member : e ∈ processed s ds) : ∃ d ∈ ds, d.event = e := by
  induction ds generalizing s with
  | nil => cases member
  | cons d ds ih =>
    simp only [processed] at member
    split at member
    · rcases List.mem_cons.mp member with rfl | later
      · exact ⟨d, .head _, rfl⟩
      · obtain ⟨d', inRest, isEvent⟩ := ih later
        exact ⟨d', .tail _ inRest, isEvent⟩
    · obtain ⟨d', inRest, isEvent⟩ := ih member
      exact ⟨d', .tail _ inRest, isEvent⟩

/-- After a stream, the service remembers the keys of the last processed events, and it has processed every distinct
    event once. -/
structure Remembers (ds : List EventDelivery) : Prop where
  keys : (after {} ds).seenKeys.Holds MAX_TRACKED_KEYS ((processed {} ds).map dedupeKey)
  once : (processed {} ds).map EventResponse.id = distinct (ids ds)

section

variable (remembers : Remembers ds)
  (sameKey : ∀ d' ∈ ds, d'.event.dedupeKey = d.event.dedupeKey ↔ d'.event.id = d.event.id)
include remembers sameKey

theorem Remembers.known_iff :
    (after {} ds).seenKeys.has d.event.dedupeKey = true ↔
      d.event.id ∈ (distinct (ids ds)).rtake MAX_TRACKED_KEYS := by
  rw [remembers.keys.has, ← remembers.once, List.rtake, List.rtake, List.length_map, List.length_map,
    ← List.map_drop, ← List.map_drop, List.mem_map, List.mem_map]
  constructor
  · rintro ⟨e, recent, isKey⟩
    obtain ⟨d', member, rfl⟩ := mem_of_processed (List.mem_of_mem_drop recent)
    exact ⟨_, recent, (sameKey d' member).mp isKey⟩
  · rintro ⟨e, recent, isId⟩
    obtain ⟨d', member, rfl⟩ := mem_of_processed (List.mem_of_mem_drop recent)
    exact ⟨_, recent, (sameKey d' member).mpr isId⟩

section

variable (recent : d.event.id ∈ ids ds → d.event.id ∈ (distinct (ids ds)).rtake MAX_TRACKED_KEYS)
include recent

theorem Remembers.processed_iff_new : (ingest (after {} ds) d).1.processed = true ↔ d.event.id ∉ ids ds := by
  rw [processed_iff, ← Bool.not_eq_true, remembers.known_iff sameKey]
  constructor
  · intro unknown old
    exact unknown (recent old)
  · intro new known
    exact new (mem_distinct.mp (List.mem_of_mem_drop known))

theorem Remembers.concat : Remembers (ds ++ [d]) := by
  have isNew := remembers.processed_iff_new sameKey recent
  have ids_concat : ids (ds ++ [d]) = ids ds ++ [d.event.id] := by simp [ids]
  by_cases new : d.event.id ∈ ids ds
  · have skipped : (ingest (after {} ds) d).1.processed = false := by
      rw [← Bool.not_eq_true, isNew]
      exact fun h => h new
    have known : (after {} ds).seenKeys.has d.event.dedupeKey = true := by
      rw [← Bool.not_eq_false, ← processed_iff, skipped]
      exact Bool.false_ne_true
    constructor
    · rw [after_concat, processed_concat, skipped, seenKeys_of_duplicate known]
      simpa using remembers.keys
    · rw [processed_concat, skipped, ids_concat, distinct_concat, if_pos (mem_distinct.mpr new)]
      simpa using remembers.once
  · have processes : (ingest (after {} ds) d).1.processed = true := isNew.mpr new
    have fresh := processed_iff.mp processes
    constructor
    · rw [after_concat, processed_concat, processes, if_pos rfl, seenKeys_of_fresh fresh, List.map_append]
      exact remembers.keys.add fresh
    · rw [processed_concat, processes, if_pos rfl, ids_concat, distinct_concat,
        if_neg (fun old => new (mem_distinct.mp old)), List.map_append, remembers.once]
      rfl

end

end

theorem remembers (rpc : ∀ d ∈ ds, FromRpc d.event) (tell : IndexesTell ds)
    (recent : ReachesBack MAX_TRACKED_KEYS ds) : Remembers ds := by
  induction ds using List.reverseRecOn with
  | nil => exact ⟨RecentSet.Holds.empty _, rfl⟩
  | append_singleton ds d ih =>
    have inFront : ∀ d' ∈ ds, d' ∈ ds ++ [d] := fun d' member => List.mem_append_left _ member
    have last : d ∈ ds ++ [d] := List.mem_append_right _ (.head _)
    have earlier : Remembers ds := by
      apply ih (fun d' member => rpc d' (inFront d' member))
      · exact fun d₁ h₁ d₂ h₂ => tell d₁ (inFront d₁ h₁) d₂ (inFront d₂ h₂)
      · intro before d' rest split
        exact recent before d' (rest ++ [d]) (by rw [split]; simp)
    exact earlier.concat (fun d' member => dedupeKey_eq_iff rpc tell (inFront d' member) last)
      (recent ds d [] rfl)

/-- For every stream from the node whose indexes tell the events of a ledger apart, and in which redelivery reaches back
    at most as many distinct events as keys are tracked, an event is processed exactly when no event with its id was
    processed before. -/
theorem exact_deduplication {ds : List EventDelivery} (rpc : ∀ d ∈ ds, FromRpc d.event) (tell : IndexesTell ds)
    (recent : ReachesBack MAX_TRACKED_KEYS ds) {before rest : List EventDelivery} {d : EventDelivery}
    (split : ds = before ++ d :: rest) :
    (ingest (after {} before) d).1.processed = true ↔ ∀ e ∈ processed {} before, e.id ≠ d.event.id := by
  have inFront : ∀ d' ∈ before, d' ∈ ds := fun d' member => split ▸ List.mem_append_left _ member
  have here : d ∈ ds := split ▸ List.mem_append_right _ (.head _)
  have earlier : Remembers before := by
    apply remembers (fun d' member => rpc d' (inFront d' member))
    · exact fun d₁ h₁ d₂ h₂ => tell d₁ (inFront d₁ h₁) d₂ (inFront d₂ h₂)
    · intro before' d' rest' split'
      exact recent before' d' (rest' ++ d :: rest) (by rw [split, split']; simp)
  rw [earlier.processed_iff_new (fun d' member => dedupeKey_eq_iff rpc tell (inFront d' member) here)
    (recent before d rest split)]
  have processedIds : d.event.id ∈ ids before ↔ ∃ e ∈ processed {} before, e.id = d.event.id := by
    rw [← mem_distinct, ← earlier.once, List.mem_map]
  rw [processedIds]
  push Not
  rfl

/-! ### Two transactions of one ledger -/

theorem reachesBack_of_length {n} (short : ds.length ≤ n) : ReachesBack n ds := by
  intro before d rest split seen
  have bounded : (distinct (ids before)).length ≤ n := by
    have fewer := length_distinct_le (ids before)
    have whole := congrArg List.length split
    simp only [ids, List.length_map, List.length_append, List.length_cons] at fewer whole
    exact fewer.trans (by omega)
  rw [List.rtake, Nat.sub_eq_zero_of_le bounded, List.drop_zero]
  exact mem_distinct.mpr seen

/-- An event of ledger 1000. -/
private def eventOf (transaction index : Nat) (bound : transaction < 2 ^ 20) : EventResponse where
  id := RpcEventId.text ⟨1000, transaction, 0, index, bound, by decide⟩
  ledger := 1000

theorem eventOf_fromRpc (transaction index : Nat) (bound : transaction < 2 ^ 20) :
    FromRpc (eventOf transaction index bound) :=
  ⟨⟨1000, transaction, 0, index, bound, by decide⟩, rfl, rfl⟩

/-- Two events of one operation, and the first of them once more. -/
private def redelivered : List EventDelivery :=
  [⟨eventOf 1 0 (by decide), 5⟩, ⟨eventOf 1 1 (by decide), 5⟩, ⟨eventOf 1 0 (by decide), 6⟩]

theorem redelivery_skipped :
    processed {} redelivered = [eventOf 1 0 (by decide), eventOf 1 1 (by decide)] ∧
      ((ingest (after {} (redelivered.take 2)) ⟨eventOf 1 0 (by decide), 6⟩).1.processed = true ↔
        ∀ e ∈ processed {} (redelivered.take 2), e.id ≠ (eventOf 1 0 (by decide)).id) := by
  refine ⟨by decide +kernel, @exact_deduplication redelivered ?_ ?_ (reachesBack_of_length (by decide)) _ _ _ rfl⟩
  · intro d member
    simp only [redelivered, List.mem_cons, List.not_mem_nil, or_false] at member
    rcases member with rfl | rfl | rfl <;> exact eventOf_fromRpc _ _ _
  · unfold IndexesTell
    decide +kernel

/-- The first events of two transactions of ledger 1000. -/
private def twoTransactions : List EventDelivery := [⟨eventOf 1 0 (by decide), 5⟩, ⟨eventOf 2 0 (by decide), 5⟩]

/-- The second event has an id of its own, was never delivered before, and is dropped. -/
theorem second_transaction_dropped :
    (∀ d ∈ twoTransactions, FromRpc d.event) ∧ ReachesBack MAX_TRACKED_KEYS twoTransactions ∧
      (∀ e ∈ processed {} (twoTransactions.take 1), e.id ≠ (eventOf 2 0 (by decide)).id) ∧
      (ingest (after {} (twoTransactions.take 1)) ⟨eventOf 2 0 (by decide), 5⟩).1.processed = false := by
  refine ⟨?_, reachesBack_of_length (by decide), by decide +kernel, by decide +kernel⟩
  intro d member
  simp only [twoTransactions, List.mem_cons, List.not_mem_nil, or_false] at member
  rcases member with rfl | rfl <;> exact eventOf_fromRpc _ _ _

end VortexBackend.EventIngestion
