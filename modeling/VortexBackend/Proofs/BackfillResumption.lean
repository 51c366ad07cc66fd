/-
Module: VortexBackend.Proofs.BackfillResumption
Purpose: Resumed backfills record their range if no event below the highest recorded ledger lacks its row.
Main exports: resumption_records_the_range
-/
import VortexBackend.Proofs.BackfillCompleteness

namespace VortexBackend

open EventResponse Component Backfill

/-! ### The table -/

/-- Every event has a row. -/
def Present (table : ProcessedEvents) (events : List EventResponse) : Prop :=
  ∀ e ∈ events, (table.get (rowKey e)).isSome

/-- The rows of a list of events, written in order. -/
def recordAll (table : ProcessedEvents) (events : List EventResponse) : ProcessedEvents :=
  events.foldl upsert table

section Table

variable {table : ProcessedEvents} {e : EventResponse} {events : List EventResponse}

theorem upsert_of_isSome (recorded : (table.get (rowKey e)).isSome) : upsert table e = table := by
  unfold upsert
  split
  · rfl
  · rename_i missing
    rw [missing] at recorded
    cases recorded

theorem isSome_upsert_self : ((upsert table e).get (rowKey e)).isSome := by
  unfold upsert
  split
  · rename_i found
    rw [found]
    rfl
  · rw [JsMap.get_set_self]
    rfl

variable {key : Nat × Int}

theorem isSome_upsert (recorded : (table.get key).isSome) : ((upsert table e).get key).isSome := by
  by_cases same : key = rowKey e
  · rw [same]
    exact isSome_upsert_self
  · unfold upsert
    split
    · exact recorded
    · rwa [JsMap.get_set_of_ne _ _ same]

theorem Present.upsert (present : Present table events) : Present (upsert table e) events :=
  fun e' member => isSome_upsert (present e' member)

variable {left right : List EventResponse}

theorem present_append (first : Present table left) (second : Present table right) : Present table (left ++ right) := by
  exact List.forall_mem_append.mpr ⟨first, second⟩

theorem recordAll_of_present (present : Present table events) : recordAll table events = table := by
  induction events with
  | nil => rfl
  | cons e events ih =>
    simp only [recordAll, List.foldl_cons, upsert_of_isSome (present e (.head _))]
    exact ih fun e' member => present e' (.tail _ member)

theorem isSome_recordAll (recorded : (table.get key).isSome) : ((recordAll table events).get key).isSome := by
  induction events generalizing table with
  | nil => exact recorded
  | cons e events ih => exact ih (isSome_upsert recorded)

theorem present_recordAll : Present (recordAll table events) events := by
  induction events generalizing table with
  | nil => exact nofun
  | cons e events ih =>
    intro e' member
    change ((recordAll (upsert table e) events).get _).isSome
    rcases List.mem_cons.mp member with rfl | later
    · exact isSome_recordAll isSome_upsert_self
    · exact ih e' later

theorem recordAll_append : recordAll table (left ++ right) = recordAll (recordAll table left) right :=
  List.foldl_append

variable {earlier : ProcessedEvents}

/-- A table with the rows of some first events that has a row for all of them is the table of all. -/
theorem eq_recordAll_of_present {written} (isTable : table = recordAll earlier written) (first : written <+: events)
    (present : Present table events) : table = recordAll earlier events := by
  obtain ⟨left, rfl⟩ := first
  rw [recordAll_append, ← isTable]
  symm
  apply recordAll_of_present
  exact fun e member => present e (List.mem_append_right _ member)

/-- The next event in order, on a table with the rows of some first events. If it is not among them then the events
    before it, which all have rows, add nothing. -/
theorem upsert_eq_recordAll {written before after} (isTable : table = recordAll earlier written)
    (first : written <+: before ++ e :: after) (present : Present table before) :
    ∃ written', written' <+: before ++ e :: after ∧ upsert table e = recordAll earlier written' := by
  by_cases recorded : (table.get (rowKey e)).isSome
  · exact ⟨written, first, (upsert_of_isSome recorded).trans isTable⟩
  · have upToHere : before ++ [e] <+: before ++ e :: after := ⟨after, by simp⟩
    refine ⟨before ++ [e], upToHere, ?_⟩
    have short : written <+: before := by
      rcases List.prefix_or_prefix_of_prefix first upToHere with shorter | longer
      · rcases List.prefix_concat_iff.mp shorter with whole | shorter
        · apply absurd _ recorded
          rw [isTable, whole]
          exact present_recordAll e (by simp)
        · exact shorter
      · apply absurd _ recorded
        rw [isTable]
        exact present_recordAll e (longer.subset (by simp))
    rw [recordAll_append, ← eq_recordAll_of_present isTable short present]
    rfl

end Table

/-! ### The runs -/

/-- No event of the range up to a recorded ledger lacks its row. -/
def RecordedUpTo (contractId : String) (history : List EventResponse) (opts : BackfillOptions)
    (table : ProcessedEvents) : Prop :=
  ∀ row ∈ table.values, row.contractId = contractId → opts.fromLedger ≤ row.ledger →
    row.ledger ≤ opts.toLedger →
    ∀ e ∈ history, opts.fromLedger ≤ e.ledger → e.ledger ≤ row.ledger → (table.get (rowKey e)).isSome

instance {contractId : String} {history : List EventResponse} {opts : BackfillOptions} {table : ProcessedEvents} :
    Decidable (RecordedUpTo contractId history opts table) := by
  unfold RecordedUpTo
  infer_instance

/-- The calls are for the given options, the pages that are fetched fit, and what `resume` passes over is recorded. -/
def ResumptionFits (contractId : String) (history : List EventResponse) (opts : BackfillOptions) (s : BackfillState) :
    BackfillOp → Prop
  | .run opts' => opts' = opts
  | .resume opts' => opts' = opts ∧ RecordedUpTo contractId history opts s.table
  | .next => NextFits history s.runningBackfill
  | .sourceThrows | .crash => True

instance {contractId : String} {history : List EventResponse} {opts : BackfillOptions} {s : BackfillState} :
    (op : BackfillOp) → Decidable (ResumptionFits contractId history opts s op)
  | .run opts' => inferInstanceAs (Decidable (opts' = opts))
  | .resume opts' => inferInstanceAs (Decidable (opts' = opts ∧ RecordedUpTo contractId history opts s.table))
  | .next => inferInstanceAs (Decidable (NextFits history s.runningBackfill))
  | .sourceThrows | .crash => inferInstanceAs (Decidable True)

/-- The events of the range. -/
def BackfillOptions.range (opts : BackfillOptions) (history : List EventResponse) : List EventResponse :=
  between ledger opts.fromLedger (opts.toLedger + 1) history

/-- The rows that a run has written of its page. -/
def PhaseRecorded (history : List EventResponse) (table : ProcessedEvents) (r : BackfillRun) : BackfillPhase → Prop
  | .fetching => True
  | .processing page _ => page = r.page history ∧ PageFits history r
  | .recording page left =>
    page = r.page history ∧ PageFits history r ∧ ∃ written, page.events = written ++ left ∧
      Present table written

/-- The run has rows for everything before its place. -/
structure Recording (history : List EventResponse) (opts : BackfillOptions) (table : ProcessedEvents)
    (r : BackfillRun) : Prop where
  toLedger : r.toLedger = opts.toLedger
  started : opts.fromLedger ≤ r.currentLedger
  inside : r.currentLedger ≤ r.toLedger
  passed : Present table (between ledger opts.fromLedger r.currentLedger history)
  page : PhaseRecorded history table r r.phase

/-- The table has the rows of some first events of the range over those it had earlier, and it has them all once a run
    has completed. -/
structure Resumable (history : List EventResponse) (opts : BackfillOptions) (earlier : ProcessedEvents)
    (s : BackfillState) : Prop where
  written : ∃ first, first <+: opts.range history ∧ s.table = recordAll earlier first
  underway : ∀ r, s.runningBackfill = some r → s.outcome = none ∧ Recording history opts s.table r
  complete : s.outcome = some .complete → Present s.table (opts.range history)

section Steps

variable {contractId : String} {history : List EventResponse} {opts : BackfillOptions} {earlier : ProcessedEvents}
  {s : BackfillState}

theorem resumable_initial : Resumable history opts earlier { table := earlier } :=
  ⟨⟨[], List.nil_prefix, rfl⟩, nofun, nofun⟩

/-- A run from a ledger before which everything is recorded. -/
theorem Resumable.run {opts'} (resumable : Resumable history opts earlier s)
    (started : opts.fromLedger ≤ opts'.fromLedger) (sameEnd : opts'.toLedger = opts.toLedger)
    (passed : Present s.table (between ledger opts.fromLedger opts'.fromLedger history)) :
    Resumable history opts earlier (Backfill.run s opts') := by
  unfold Backfill.run
  cases running : s.runningBackfill with
  | some r => exact resumable
  | none =>
    dsimp only
    split
    · rename_i nonempty
      constructor
      · exact resumable.written
      · intro r isRun
        cases isRun
        exact ⟨rfl, sameEnd, started, nonempty, passed, trivial⟩
      · exact nofun
    · rename_i empty
      constructor
      · exact resumable.written
      · intro r isRun
        cases isRun
      · intro _ e member
        obtain ⟨inHistory, low, high⟩ := mem_between.mp member
        exact passed e (mem_between.mpr ⟨inHistory, low, by omega⟩)

/-- `resume` starts behind events that are recorded. -/
theorem RecordedUpTo.passed (recorded : RecordedUpTo contractId history opts s.table) :
    opts.fromLedger ≤ resumeFrom contractId s.table opts ∧
      Present s.table (between ledger opts.fromLedger (resumeFrom contractId s.table opts) history) := by
  unfold resumeFrom
  cases isMax : (recordedLedgers contractId s.table opts).max? with
  | none => simp [Present]
  | some last =>
    have member := List.max?_mem isMax
    simp only [recordedLedgers, List.mem_map, List.mem_filter, Bool.and_eq_true, beq_iff_eq,
      decide_eq_true_eq] at member
    obtain ⟨row, ⟨stored, ⟨ofContract, low⟩, high⟩, rfl⟩ := member
    constructor
    · exact Nat.le_succ_of_le low
    · intro e passed
      obtain ⟨inHistory, fromLow, before⟩ := mem_between.mp passed
      exact recorded row stored ofContract low high e inHistory fromLow (Nat.le_of_lt_succ before)

theorem Resumable.resume (resumable : Resumable history opts earlier s)
    (recorded : RecordedUpTo contractId history opts s.table) :
    Resumable history opts earlier (Backfill.resume contractId s opts) := by
  obtain ⟨low, passed⟩ := recorded.passed
  unfold Backfill.resume
  cases running : s.runningBackfill with
  | some r => exact resumable
  | none =>
    dsimp only
    split
    · rename_i behind
      constructor
      · exact resumable.written
      · intro r isRun
        cases isRun
      · intro _ e member
        obtain ⟨inHistory, low, high⟩ := mem_between.mp member
        exact passed e (mem_between.mpr ⟨inHistory, low, by omega⟩)
    · exact resumable.run low rfl passed

section

variable (ordered : Ordered ledger history)
include ordered

variable {r : BackfillRun}

theorem range_split (recording : Recording history opts s.table r) (fits : PageFits history r) :
    opts.range history =
      between ledger opts.fromLedger r.currentLedger history ++ (r.page history).events ++
        between ledger (r.nextLedger (r.page history)) (opts.toLedger + 1) history := by
  obtain ⟨later, bounded⟩ := nextLedger_bounds fits recording.inside
  rw [recording.toLedger] at bounded
  have low := recording.started
  rw [page_eq_between ordered fits, between_append ordered low (by omega), between_append ordered (by omega) bounded]
  rfl

theorem Resumable.executeStep (resumable : Resumable history opts earlier s) (running : s.runningBackfill = some r)
    (fits : r.phase = .fetching → PageFits history r) :
    Resumable history opts earlier (Backfill.executeStep history s r) := by
  obtain ⟨pending, recording⟩ := resumable.underway r running
  have isPage := recording.page
  -- The next phase of the same page.
  have next {handed phase} (page : PhaseRecorded history s.table { r with phase } phase) :
      Resumable history opts earlier { s with handed, runningBackfill := some { r with phase } } := by
    refine { resumable with underway := ?_ }
    intro r' isRun
    cases isRun
    exact ⟨pending, { recording with page }⟩
  cases isPhase : r.phase with
  | fetching =>
    simp only [Backfill.executeStep, isPhase]
    exact next ⟨rfl, (fits isPhase).whole, (fits isPhase).within⟩
  | processing page left =>
    rw [isPhase] at isPage
    obtain ⟨isPage, pageFits⟩ := isPage
    cases left with
    | nil =>
      simp only [Backfill.executeStep, isPhase]
      exact next ⟨isPage, ⟨pageFits.whole, pageFits.within⟩, [], rfl, by simp [Present]⟩
    | cons e left =>
      simp only [Backfill.executeStep, isPhase]
      exact next ⟨isPage, pageFits.whole, pageFits.within⟩
  | recording page left =>
    rw [isPhase] at isPage
    obtain ⟨rfl, pageFits, written, isEvents, present⟩ := isPage
    have split := range_split ordered recording pageFits
    cases left with
    | cons e left =>
      simp only [Backfill.executeStep, isPhase]
      constructor
      · obtain ⟨first, isFirst, isTable⟩ := resumable.written
        rw [isEvents, ← List.append_assoc, List.append_assoc] at split
        rw [split] at isFirst ⊢
        exact upsert_eq_recordAll isTable isFirst (present_append recording.passed present)
      · intro r' isRun
        cases isRun
        refine ⟨pending, recording.toLedger, recording.started, recording.inside, recording.passed.upsert, rfl,
          ⟨pageFits.whole, pageFits.within⟩, written ++ [e], by simpa using isEvents, ?_⟩
        apply present_append present.upsert
        simp only [Present, List.mem_singleton, forall_eq]
        exact isSome_upsert_self
      · intro isComplete
        cases pending.symm.trans isComplete
    | nil =>
      obtain ⟨later, bounded⟩ := nextLedger_bounds pageFits recording.inside
      have upToNext : Present s.table
          (between ledger opts.fromLedger (r.nextLedger (r.page history)) history) := by
        rw [← between_append ordered recording.started (Nat.le_of_lt later), ← page_eq_between ordered pageFits,
          isEvents, List.append_nil]
        exact present_append recording.passed present
      by_cases last : (r.page history).done = true ∨ r.toLedger < r.nextLedger (r.page history)
      · rw [executeStep_end isPhase last]
        constructor
        · exact resumable.written
        · simp
        · intro _
          rwa [nextLedger_of_last last bounded, recording.toLedger] at upToNext
      · rw [executeStep_more isPhase last]
        constructor
        · exact resumable.written
        · intro r' isRun
          cases isRun
          have inside : r.nextLedger (r.page history) ≤ r.toLedger := Nat.not_lt.mp (not_or.mp last).2
          have started := Nat.le_trans recording.started (Nat.le_of_lt later)
          exact ⟨pending, recording.toLedger, started, inside, upToNext, trivial⟩
        · exact resumable.complete

/-- Every operation that fits keeps the table resumable. -/
theorem Resumable.step {op} (resumable : Resumable history opts earlier s)
    (fits : ResumptionFits contractId history opts s op) :
    Resumable history opts earlier (Backfill.step contractId history s op).2 := by
  cases op with
  | run opts' =>
    obtain rfl : opts' = opts := fits
    exact resumable.run le_rfl rfl (by simp [Present])
  | resume opts' =>
    obtain ⟨rfl, recorded⟩ := fits
    exact resumable.resume recorded
  | next =>
    simp only [Backfill.step]
    cases running : s.runningBackfill with
    | none => exact resumable
    | some r =>
      simp only [ResumptionFits, NextFits, running] at fits
      exact resumable.executeStep ordered running fits
  | sourceThrows =>
    simp only [Backfill.step]
    split
    · exact ⟨resumable.written, by simp, by simp⟩
    · exact resumable
  | crash => exact ⟨resumable.written, by simp [Backfill.step], by simp [Backfill.step]⟩

/-- Whatever happened on the way, a backfill that has completed has written the rows of its range, in order, over those
    of the table it started with. -/
theorem completed_table {ops}
    (fits : Component.Meets (step contractId history) (fun _ => ResumptionFits contractId history opts) []
      { table := earlier } ops)
    (complete : (run (step contractId history) { table := earlier } ops).2.outcome = some .complete) :
    (run (step contractId history) { table := earlier } ops).2.table = recordAll earlier (opts.range history) := by
  have final : Resumable history opts earlier
      (run (step contractId history) { table := earlier } ops).2 :=
    run_invariant (fun _ s => Resumable history opts earlier s)
      (fun _ _ _ _ resumable fits => resumable.step ordered fits) ops [] [] _ resumable_initial fits
  obtain ⟨first, isFirst, isTable⟩ := final.written
  exact eq_recordAll_of_present isTable isFirst (final.complete complete)

end

end Steps

/-- A backfill that was interrupted any number of times and resumed until it completed leaves the same table as one that
    ran through. -/
theorem resumption_records_the_range {contractId : String} {history : List EventResponse} {opts : BackfillOptions}
    {earlier : ProcessedEvents} {ops : List BackfillOp} {n : Nat} (ordered : Ordered ledger history)
    (fits : Component.Meets (step contractId history) (fun _ => ResumptionFits contractId history opts) []
      { table := earlier } ops)
    (complete : (run (step contractId history) { table := earlier } ops).2.outcome = some .complete)
    (through : Component.Meets (step contractId history) (fun _ => ResumptionFits contractId history opts) []
      { table := earlier } (.run opts :: List.replicate n .next))
    (throughComplete : (run (step contractId history) { table := earlier }
      (.run opts :: List.replicate n .next)).2.outcome = some .complete) :
    (run (step contractId history) { table := earlier } ops).2.table =
      (run (step contractId history) { table := earlier }
        (.run opts :: List.replicate n .next)).2.table := by
  rw [completed_table ordered fits complete, completed_table ordered through throughComplete]

/-- Two events of ledger 1. -/
private def ledgerOfTwo : List EventResponse :=
  [{ id := "1-0", ledger := 1, contractId := "C" }, { id := "1-1", ledger := 1, contractId := "C" }]

/-- A run that crashes before it has written a row, and one that crashes behind both. -/
theorem resumption_after_two_crashes :
    (run (step "C" ledgerOfTwo) { table := .empty }
      (List.flatten [[.run ⟨1, 1, 3⟩, .next, .next, .crash, .resume ⟨1, 1, 3⟩], List.replicate 6 .next,
        [.crash, .resume ⟨1, 1, 3⟩]])).2.table =
    (run (step "C" ledgerOfTwo) { table := .empty }
      (.run ⟨1, 1, 3⟩ :: List.replicate 7 .next)).2.table :=
  resumption_records_the_range (by simp [Ordered, ledgerOfTwo]) (by decide +kernel) (by decide +kernel)
    (by decide +kernel) (by decide +kernel)

/-- A crash between the rows of one ledger. The resumed backfill reports that there is nothing left to do, and the
    second event never gets its row; the uninterrupted run records it. -/
theorem crash_inside_ledger : let resumed := (run (step "C" ledgerOfTwo) {}
      (List.flatten [[.run ⟨1, 1, 3⟩], List.replicate 5 .next, [.crash, .resume ⟨1, 1, 3⟩]])).2
    let through := (run (step "C" ledgerOfTwo) {} (.run ⟨1, 1, 3⟩ :: List.replicate 7 .next)).2
    resumed.outcome = some .complete ∧ through.outcome = some .complete ∧
      resumed.table.get (1, 1) = none ∧ (through.table.get (1, 1)).isSome := by
  decide +kernel

end VortexBackend
