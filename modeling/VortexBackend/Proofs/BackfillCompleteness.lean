/-
Module: VortexBackend.Proofs.BackfillCompleteness
Purpose: A backfill hands over its range if every page ends with a ledger. Otherwise it loses the rest of one.
Main exports: backfill_complete
-/
import VortexBackend.Sequential.OrderedLog
import VortexBackend.Sequential.Run
import VortexBackend.Soroban.Backfill

namespace VortexBackend

open EventResponse Backfill BackfillRun

variable (history : List EventResponse)

/-- The page of a run that is about to fetch. -/
def BackfillRun.page (r : BackfillRun) : EventPage :=
  fetchPage history r.currentLedger r.pageSize

/-- The ledger with which a run goes on after a page. -/
def BackfillRun.nextLedger (r : BackfillRun) (page : EventPage) : Nat :=
  if page.done then r.toLedger + 1 else page.lastLedger + 1

/-- The page does not end inside a ledger, and it has no event past the range. -/
@[mk_iff]
structure PageFits (history : List EventResponse) (r : BackfillRun) : Prop where
  whole : (r.page history).done = false →
    ∀ e ∈ (history.filter (r.currentLedger ≤ ·.ledger)).drop r.pageSize, (r.page history).lastLedger < e.ledger
  within : ∀ e ∈ (r.page history).events, e.ledger ≤ r.toLedger

instance {history : List EventResponse} {r : BackfillRun} : Decidable (PageFits history r) :=
  decidable_of_iff _ (pageFits_iff history r).symm

/-- If a run is about to fetch a page, then the page fits. -/
def NextFits : Option BackfillRun → Prop
  | some r => r.phase = .fetching → PageFits history r
  | none => True

instance {history : List EventResponse} : (running : Option BackfillRun) → Decidable (NextFits history running)
  | some r => inferInstanceAs (Decidable (r.phase = .fetching → PageFits history r))
  | none => inferInstanceAs (Decidable True)

/-- A step that fetches a page fetches one that fits. -/
def FetchFits (s : BackfillState) : BackfillOp → Prop
  | .next => NextFits history s.runningBackfill
  | _ => True

instance {history : List EventResponse} {s : BackfillState} : (op : BackfillOp) → Decidable (FetchFits history s op)
  | .next => inferInstanceAs (Decidable (NextFits history s.runningBackfill))
  | .run _ | .resume _ | .sourceThrows | .crash => inferInstanceAs (Decidable True)

/-! ### Pages -/

variable {page : EventPage}

section Page

variable {history : List EventResponse} {r : BackfillRun} {e : EventResponse}

theorem lastLedger_eq (last : (r.page history).events.getLast? = some e) : (r.page history).lastLedger = e.ledger := by
  have events : ((history.filter (r.currentLedger ≤ ·.ledger)).take r.pageSize).getLast? = some e := last
  simp only [page, fetchPage, events, Option.map_some, Option.getD_some]

theorem lastLedger_of_empty (empty : (r.page history).events = []) : (r.page history).lastLedger = r.currentLedger := by
  have events : (history.filter (r.currentLedger ≤ ·.ledger)).take r.pageSize = [] := empty
  simp only [page, fetchPage, events, List.getLast?_nil, Option.map_none, Option.getD_none]

theorem currentLedger_le_of_mem (member : e ∈ (r.page history).events) : r.currentLedger ≤ e.ledger := by
  have filtered : e ∈ history.filter (r.currentLedger ≤ ·.ledger) := List.mem_of_mem_take member
  exact of_decide_eq_true (List.mem_filter.mp filtered).2

theorem ledger_le_lastLedger (ordered : Ordered ledger history) (member : e ∈ (r.page history).events) :
    e.ledger ≤ (r.page history).lastLedger := by
  have sorted : (r.page history).events.Pairwise fun x y => x.ledger ≤ y.ledger :=
    (ordered.sublist List.filter_sublist).sublist (List.take_sublist _ _)
  cases last : (r.page history).events.getLast? with
  | none =>
    rw [List.getLast?_eq_none_iff.mp last] at member
    cases member
  | some final =>
    rw [lastLedger_eq last]
    obtain ⟨front, isPage⟩ := List.getLast?_eq_some_iff.mp last
    rw [isPage] at sorted member
    rcases List.mem_append.mp member with inFront | isLast
    · exact (List.pairwise_append.mp sorted).2.2 e inFront final (.head _)
    · rw [List.mem_singleton.mp isLast]

theorem nextLedger_bounds (fits : PageFits history r) (inside : r.currentLedger ≤ r.toLedger) :
    r.currentLedger < r.nextLedger (r.page history) ∧ r.nextLedger (r.page history) ≤ r.toLedger + 1 := by
  unfold nextLedger
  split
  · omega
  · cases last : (r.page history).events.getLast? with
    | none =>
      rw [lastLedger_of_empty (List.getLast?_eq_none_iff.mp last)]
      omega
    | some e =>
      have member : e ∈ (r.page history).events := List.mem_of_getLast? last
      rw [lastLedger_eq last]
      have low := currentLedger_le_of_mem member
      have high := fits.within e member
      omega

theorem nextLedger_of_last (last : page.done = true ∨ r.toLedger < r.nextLedger page)
    (bounded : r.nextLedger page ≤ r.toLedger + 1) : r.nextLedger page = r.toLedger + 1 := by
  rcases last with done | past
  · rw [nextLedger, if_pos done]
  · omega

theorem page_eq_between (ordered : Ordered ledger history) (fits : PageFits history r) :
    (r.page history).events = between ledger r.currentLedger (r.nextLedger (r.page history)) history := by
  apply take_eq_between
  · intro e member
    unfold nextLedger
    split
    · exact Nat.lt_succ_of_le (fits.within e member)
    · exact Nat.lt_succ_of_le (ledger_le_lastLedger ordered member)
  · intro e behind
    unfold nextLedger
    split
    · -- A short page is the last one: nothing is behind it.
      rename_i done
      have short : (r.page history).events.length < r.pageSize := of_decide_eq_true done
      have whole : (history.filter (r.currentLedger ≤ ·.ledger)).length ≤ r.pageSize := by
        simp only [page, fetchPage, List.length_take] at short
        omega
      rw [List.drop_eq_nil_of_le whole] at behind
      cases behind
    · rename_i more
      exact fits.whole (Bool.not_eq_true _ ▸ more) e behind

end Page

/-! ### One run -/

/-- What the registry was given, wherever the run is. -/
def PhaseHanded (fromLedger : Nat) (r : BackfillRun) (handed : List EventResponse) : BackfillPhase → Prop
  | .fetching => handed = between ledger fromLedger r.currentLedger history
  | .processing page left =>
    page = r.page history ∧ PageFits history r ∧
      handed ++ left = between ledger fromLedger r.currentLedger history ++ page.events
  | .recording page _ =>
    page = r.page history ∧ PageFits history r ∧
      handed = between ledger fromLedger r.currentLedger history ++ page.events

/-- The run of the given options is on its way. -/
structure RunUnderway (history : List EventResponse) (opts : BackfillOptions) (handed : List EventResponse)
    (r : BackfillRun) : Prop where
  toLedger : r.toLedger = opts.toLedger
  started : opts.fromLedger ≤ r.currentLedger
  inside : r.currentLedger ≤ r.toLedger
  handed : PhaseHanded history opts.fromLedger r handed r.phase

/-- It is on its way, or it has ended and handed over the range. -/
structure Handing (history : List EventResponse) (opts : BackfillOptions) (s : BackfillState) : Prop where
  underway : ∀ r, s.runningBackfill = some r → s.outcome = none ∧ RunUnderway history opts s.handed r
  complete : s.outcome = some .complete →
    s.handed = between ledger opts.fromLedger (opts.toLedger + 1) history

section Run

variable {history : List EventResponse} {opts : BackfillOptions} {s : BackfillState} {contractId : String}

theorem handing_run (idle : s.runningBackfill = none) : Handing history opts (run s opts) := by
  unfold run
  simp only [idle]
  split
  · rename_i nonempty
    constructor
    · intro r isRun
      cases isRun
      exact ⟨rfl, rfl, le_rfl, nonempty, between_self.symm⟩
    · exact nofun
  · rename_i empty
    constructor
    · intro r isRun
      cases isRun
    · intro _
      symm
      rw [List.eq_nil_iff_forall_not_mem]
      intro e member
      have bounds := (mem_between.mp member).2
      omega

variable {r : BackfillRun}

theorem executeStep_end (isPhase : r.phase = .recording page [])
    (last : page.done = true ∨ r.toLedger < r.nextLedger page) :
    executeStep history s r = { s with runningBackfill := none, outcome := some .complete } := by
  simp only [executeStep, isPhase]
  exact if_pos last

theorem executeStep_more (isPhase : r.phase = .recording page [])
    (more : ¬(page.done = true ∨ r.toLedger < r.nextLedger page)) :
    executeStep history s r =
      { s with runningBackfill := some { r with currentLedger := r.nextLedger page, phase := .fetching } } := by
  simp only [executeStep, isPhase]
  exact if_neg more

theorem Handing.of_underway {r'} (runs : s.runningBackfill = some r') (pending : s.outcome = none)
    (underway : RunUnderway history opts s.handed r') : Handing history opts s := by
  refine ⟨fun r isRun => ?_, fun isComplete => nomatch pending.symm.trans isComplete⟩
  cases runs.symm.trans isRun
  exact ⟨pending, underway⟩

section

variable (ordered : Ordered ledger history)
include ordered

theorem RunUnderway.executeStep (pending : s.outcome = none) (underway : RunUnderway history opts s.handed r)
    (fits : r.phase = .fetching → PageFits history r) : Handing history opts (Backfill.executeStep history s r) := by
  obtain ⟨isTo, started, inside, handed⟩ := underway
  cases isPhase : r.phase with
  | fetching =>
    rw [isPhase] at handed
    simp only [Backfill.executeStep, isPhase]
    refine .of_underway rfl pending
      ⟨isTo, started, inside, rfl, ⟨(fits isPhase).whole, (fits isPhase).within⟩, ?_⟩
    exact congrArg (· ++ (r.page history).events) handed
  | processing page left =>
    rw [isPhase] at handed
    obtain ⟨isPage, pageFits, isHanded⟩ := handed
    cases left with
    | nil =>
      simp only [Backfill.executeStep, isPhase]
      refine .of_underway rfl pending ⟨isTo, started, inside, isPage, ⟨pageFits.whole, pageFits.within⟩, ?_⟩
      rwa [List.append_nil] at isHanded
    | cons e left =>
      simp only [Backfill.executeStep, isPhase]
      refine .of_underway rfl pending ⟨isTo, started, inside, isPage, ⟨pageFits.whole, pageFits.within⟩, ?_⟩
      rw [List.append_assoc]
      exact isHanded
  | recording page left =>
    rw [isPhase] at handed
    obtain ⟨rfl, pageFits, isHanded⟩ := handed
    cases left with
    | cons e left =>
      simp only [Backfill.executeStep, isPhase]
      exact .of_underway rfl pending ⟨isTo, started, inside, rfl, ⟨pageFits.whole, pageFits.within⟩, isHanded⟩
    | nil =>
      obtain ⟨later, bounded⟩ := nextLedger_bounds pageFits inside
      have upToNext : s.handed =
          between ledger opts.fromLedger (r.nextLedger (r.page history)) history := by
        rw [isHanded, page_eq_between ordered pageFits, between_append ordered started (Nat.le_of_lt later)]
      by_cases last : (r.page history).done = true ∨ r.toLedger < r.nextLedger (r.page history)
      · rw [executeStep_end isPhase last]
        refine ⟨nofun, fun _ => ?_⟩
        rwa [nextLedger_of_last last bounded, isTo] at upToNext
      · rw [executeStep_more isPhase last]
        have inside : r.nextLedger (r.page history) ≤ r.toLedger := Nat.not_lt.mp (not_or.mp last).2
        exact .of_underway rfl pending ⟨isTo, Nat.le_trans started (Nat.le_of_lt later), inside, upToNext⟩

theorem Handing.next (handing : Handing history opts s) (fit : FetchFits history s .next) :
    Handing history opts (step contractId history s .next).2 := by
  simp only [step]
  cases running : s.runningBackfill with
  | none => exact handing
  | some r =>
    simp only [FetchFits, NextFits, running] at fit
    obtain ⟨pending, underway⟩ := handing.underway r running
    exact underway.executeStep ordered pending fit

theorem Handing.nexts {n earlier} (handing : Handing history opts s)
    (fit : Component.Meets (step contractId history) (fun _ => FetchFits history) earlier s (List.replicate n .next)) :
    Handing history opts (Component.run (step contractId history) s (List.replicate n .next)).2 := by
  induction n generalizing earlier s with
  | zero => exact handing
  | succ n ih => exact ih (handing.next ordered fit.1) fit.2

end

end Run

/-- A run that starts while no other is in progress, whose pages all fit, and that finishes without error has handed
    over exactly the events of its range, in order. -/
theorem backfill_complete {contractId : String} {history : List EventResponse} {opts : BackfillOptions}
    {s : BackfillState} {n : Nat} (ordered : Ordered ledger history) (idle : s.runningBackfill = none)
    (fit : Component.Meets (step contractId history) (fun _ => FetchFits history) [] s
      (.run opts :: List.replicate n .next)) (finished : (Component.run (step contractId history) s
      (.run opts :: List.replicate n .next)).2.outcome = some .complete) :
    (Component.run (step contractId history) s (.run opts :: List.replicate n .next)).2.handed =
      between ledger opts.fromLedger (opts.toLedger + 1) history :=
  ((handing_run idle).nexts ordered fit.2).complete finished

/-- An event of the ledger, with the index. -/
private def sampleEvent (ledger index : Nat) : EventResponse where
  id := toString ledger ++ "-" ++ toString index
  ledger
  contractId := "C"
  topic := []
  txHash := ""
  ledgerClosedAt := ""

/-- Two ledgers of a range in pages of two. -/
theorem backfill_complete_two_pages :
    (Component.run (step "C" [sampleEvent 1 0, sampleEvent 1 1, sampleEvent 2 0]) {}
      (.run ⟨1, 5, 2⟩ :: List.replicate 12 .next)).2.handed =
    between ledger 1 6 [sampleEvent 1 0, sampleEvent 1 1, sampleEvent 2 0] :=
  backfill_complete (by simp [Ordered, sampleEvent]) rfl
    (by decide +kernel) (by decide +kernel)

/-- Pages of one event, on the range of the ledgers 1 and 2. The second event of ledger 1 is never handed over, and the
    event of ledger 3 is. -/
theorem page_cuts_ledger :
    (Component.run (step "C" [sampleEvent 1 0, sampleEvent 1 1, sampleEvent 3 0]) {}
      (.run ⟨1, 2, 1⟩ :: List.replicate 10 .next)).2.outcome = some .complete ∧
    (Component.run (step "C" [sampleEvent 1 0, sampleEvent 1 1, sampleEvent 3 0]) {}
      (.run ⟨1, 2, 1⟩ :: List.replicate 10 .next)).2.handed = [sampleEvent 1 0, sampleEvent 3 0] := by
  decide +kernel

end VortexBackend
