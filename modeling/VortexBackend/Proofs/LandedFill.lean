/-
Module: VortexBackend.Proofs.LandedFill
Purpose: A solver who filled in time is not slashed, if the node fills its pages. A short page ends the scan.
Trusted boundary: the node serves the events of the chain in order, at most as many as asked for
Main exports: timely_fill_not_slashed
-/
import VortexBackend.Sequential.PagedLog
import VortexBackend.Soroban.FillVerifier
import VortexBackend.Proofs.SlashingSaga

namespace VortexBackend

open FillVerifier

/-! ### The events of the chain -/

/-- The events of the chain, oldest first, and how a node answers one scan: which requests fail, and which get fewer
    events than asked for. -/
structure EventLog where
  events : List ContractEvent
  latest : Nat
  ordered : events.Pairwise (·.ledger ≤ ·.ledger)
  unique : (events.map (·.pagingToken)).Nodup
  named : ∀ event ∈ events, event.pagingToken ≠ ""
  shortPages : List (EventsStart × Nat) := []
  failures : List (EventsStart × BackendError) := []
  unavailable : Option BackendError := none

namespace EventLog

/-- The events of a contract from a ledger on, or behind a cursor. -/
def served (log : EventLog) (contract : String) : EventsStart → List ContractEvent
  | .ledger start => log.events.filter fun event => event.contractId == contract && start ≤ event.ledger
  | .cursor token => (PagedLog.after (·.pagingToken) log.events token).filter (·.contractId == contract)

/-- How many events the answer to a request may hold. -/
def pageSize (log : EventLog) (start : EventsStart) (limit : Nat) : Nat :=
  min ((log.shortPages.lookup start).getD limit) limit

def rpc (log : EventLog) : SorobanRpc BackendError where
  getLatestLedger := match log.unavailable with
    | some e => .error e
    | none => .ok log.latest
  getEvents start contract limit := match log.failures.lookup start with
    | some e => .error e
    | none => .ok ((log.served contract start).take (log.pageSize start limit))

end EventLog

/-! ### The scan -/

/-- What the scan reports of a fill. -/
def landedFill (event : ContractEvent) : LandedFill := ⟨event.txHash, event.ledger, event.closedAt⟩

variable {fillDeadline now : Nat}

section Scan

variable {log : EventLog} {contract intentId : String} {start latestAcceptable : Nat}

/-- An event of the contract in the ledgers of the scan. -/
def inScan (contract : String) (start : Nat) (event : ContractEvent) : Bool :=
  event.contractId == contract && start ≤ event.ledger

/-- Where the next page starts. -/
def nextPage (start : Nat) (cursor : Option String) : EventsStart :=
  match cursor.filter (!·.isEmpty) with
  | some token => .cursor token
  | none => .ledger start

theorem served_cursor {left last size} (reading : PagedLog.Left (inScan contract start) log.events left)
    (isLast : (left.take size).getLast? = some last) :
    log.served contract (.cursor last.pagingToken) = left.drop size := by
  have behind := (reading.page log.unique isLast).1
  have isLeft : last ∈ left := List.mem_of_mem_take (List.mem_of_getLast? isLast)
  obtain ⟨read, unread, isLog, rfl⟩ := reading
  obtain ⟨isUnread, isInScan⟩ := List.mem_filter.mp isLeft
  obtain ⟨before, rest, rfl⟩ := List.append_of_mem isUnread
  have split : log.events = (read ++ before) ++ last :: rest := by rw [isLog, List.append_assoc]
  have later : ∀ event ∈ rest, last.ledger ≤ event.ledger := by
    have ordered := log.ordered
    rw [split, List.pairwise_append] at ordered
    exact (List.pairwise_cons.mp ordered.2.1).1
  rw [← behind, EventLog.served, PagedLog.after_of_split log.unique split]
  apply List.filter_congr
  intro event member
  rw [inScan, Bool.and_eq_true, decide_eq_true_eq] at isInScan
  simp [inScan, isInScan.2.trans (later event member)]

/-- With full pages, a scan that does not fail reports the first fill in time among the events of its pages. -/
theorem scanPages_full (full : log.shortPages = []) (pages : Nat) (cursor : Option String) (left : List ContractEvent)
    (reading : PagedLog.Left (inScan contract start) log.events left)
    (serves : log.served contract (nextPage start cursor) = left) :
    (log.failures ≠ [] ∧
      ∃ e, scanPages log.rpc contract intentId start latestAcceptable pages cursor = .error e) ∨
      scanPages log.rpc contract intentId start latestAcceptable pages cursor =
        .ok (((left.take (pages * EVENTS_PAGE_LIMIT)).find?
          (·.isTimelyFill intentId latestAcceptable)).map landedFill) := by
  induction pages generalizing cursor left with
  | zero =>
    right
    simp [scanPages]
  | succ pages ih =>
    have whole : left.take ((pages + 1) * EVENTS_PAGE_LIMIT) =
        left.take EVENTS_PAGE_LIMIT ++ (left.drop EVENTS_PAGE_LIMIT).take (pages * EVENTS_PAGE_LIMIT) := by
      rw [Nat.add_mul, Nat.one_mul, Nat.add_comm, List.take_add]
    have answer : log.rpc.getEvents (nextPage start cursor) contract EVENTS_PAGE_LIMIT =
        match log.failures.lookup (nextPage start cursor) with
        | some e => .error e
        | none => .ok (left.take EVENTS_PAGE_LIMIT) := by
      simp [EventLog.rpc, EventLog.pageSize, full, serves]
    rw [scanPages, whole, List.find?_append]
    split
    · rename_i e isError
      rw [show log.rpc.getEvents (nextPage start cursor) contract EVENTS_PAGE_LIMIT = _ from isError] at answer
      refine .inl ⟨?_, e, rfl⟩
      rintro none
      simp [none] at answer
    · rename_i events isPage
      have isPage : events = left.take EVENTS_PAGE_LIMIT := by
        rw [show log.rpc.getEvents (nextPage start cursor) contract EVENTS_PAGE_LIMIT = _ from isPage] at answer
        split at answer <;> cases answer
        rfl
      subst isPage
      split
      · rename_i event found
        rw [found]
        exact .inr rfl
      · rename_i found
        rw [found]
        split
        · -- A short page leaves nothing.
          rename_i short
          right
          have nothing : left.drop EVENTS_PAGE_LIMIT = [] := by
            rw [List.length_take] at short
            exact List.drop_eq_nil_of_le (by omega)
          simp [nothing]
        · rename_i isFull
          have nonempty : left.take EVENTS_PAGE_LIMIT ≠ [] := by
            intro empty
            rw [empty] at isFull
            exact isFull (by decide)
          obtain ⟨last, isLast⟩ : ∃ last, (left.take EVENTS_PAGE_LIMIT).getLast? = some last :=
            ⟨_, List.getLast?_eq_some_getLast nonempty⟩
          have isToken : last.pagingToken ≠ "" := by
            have isLeft := List.mem_of_mem_take (List.mem_of_getLast? isLast)
            obtain ⟨read, unread, isLog, rfl⟩ := reading
            exact log.named last (isLog ▸ List.mem_append_right _ (List.mem_of_mem_filter isLeft))
          have next : nextPage start (some last.pagingToken) = .cursor last.pagingToken := by
            simp [nextPage, Option.filter, isToken]
          rw [isLast, Option.map_some]
          refine ih (some last.pagingToken) _ (reading.page log.unique isLast).2 ?_
          rw [next]
          exact served_cursor reading isLast

theorem findLandedFill_full {settlement} (full : log.shortPages = []) (isNamed : settlement ≠ "") :
    ((log.failures ≠ [] ∨ log.unavailable ≠ none) ∧
        ∃ e, findLandedFill log.rpc (some settlement) intentId fillDeadline latestAcceptable now = .error e) ∨
      findLandedFill log.rpc (some settlement) intentId fillDeadline latestAcceptable now =
        .ok ((((log.served settlement (.ledger (startLedger log.latest now fillDeadline))).take
          (MAX_EVENT_PAGES * EVENTS_PAGE_LIMIT)).find? (·.isTimelyFill intentId latestAcceptable)).map
            landedFill) := by
  have isSettlement : (some settlement).filter (!·.isEmpty) = some settlement := by
    simp [Option.filter, isNamed]
  rw [findLandedFill, isSettlement]
  cases isDown : log.unavailable with
  | some e => exact .inl ⟨.inr nofun, e, by simp [EventLog.rpc, isDown, bind, Except.bind]⟩
  | none =>
    have latest : log.rpc.getLatestLedger = .ok log.latest := by simp [EventLog.rpc, isDown]
    rw [latest]
    rcases scanPages_full full MAX_EVENT_PAGES none _ (.whole _ _) rfl with ⟨failures, e, isError⟩ | isOk
    · exact .inl ⟨.inl failures, e, isError⟩
    · exact .inr isOk

end Scan

/-! ### Runs of the pipeline over a chain -/

/-- The events of the settlement contract in the ledgers that a scan covers. -/
def EventLog.covered (log : EventLog) (cfg : BackendSettings) (fillDeadline now : Nat) : List ContractEvent :=
  match cfg.settlementContractId with
  | some settlement =>
    if settlement.isEmpty then []
    else log.served settlement (.ledger (startLedger log.latest now fillDeadline))
  | none => []

variable (cfg : BackendSettings)

/-- A fill of the intent in time, with the tolerance for clock skew. -/
def isTimely (intentId : String) (fillDeadline : Nat) (event : ContractEvent) : Bool :=
  event.isTimelyFill intentId (fillDeadline + cfg.clockSkewToleranceSeconds)

/-- Every scan is answered from the events that the chain has at that time. -/
def scanAnswered (logs : BackendView → EventLog) (v : BackendView) (e : BackendEvent) (_ : BackendWorld) : Bool :=
  match e with
  | ⟨_, .external (.findLandedFill intentId fillDeadline latestAcceptable now), answer⟩ =>
    decide (answer = (findLandedFill (logs v).rpc cfg.settlementContractId intentId fillDeadline latestAcceptable
      now).map (·.map (·.txHash)))
  | _ => true

/-- The condition on a scan: the node fills its pages, and a fill in time is among the events that the pages hold. -/
def scanReaches (logs : BackendView → EventLog) (v : BackendView) (e : BackendEvent) (w : BackendWorld) : Bool :=
  scanAnswered cfg logs v e w && match e with
  | ⟨_, .external (.findLandedFill intentId fillDeadline _ now), _⟩ =>
    (logs v).shortPages.isEmpty &&
      (!((logs v).covered cfg fillDeadline now).any (isTimely cfg intentId fillDeadline) ||
        (((logs v).covered cfg fillDeadline now).take (MAX_EVENT_PAGES * EVENTS_PAGE_LIMIT)).any
          (isTimely cfg intentId fillDeadline))
  | _ => true

variable (t : BackendTransition)

/-- The scan that a step makes, and by which program. -/
def scanOf : Option (Nat × FillScan) :=
  match t.event with
  | some ⟨actor, .external (.findLandedFill intentId fillDeadline latestAcceptable now), _⟩ =>
    some (actor.pid, ⟨intentId, fillDeadline, latestAcceptable, now⟩)
  | _ => none

/-- The slash that a step submits, and by which program. -/
def submissionOf : Option (Nat × String) :=
  match t.event with
  | some ⟨actor, .external (.slashSolver _ intentId _), _⟩ => some (actor.pid, intentId)
  | _ => none

def scansFor (pid : Nat) (intentId : String) (t : BackendTransition) : Bool :=
  (scanOf t).any fun scan => scan.1 == pid && scan.2.intentId == intentId

theorem scan_observe (m : PipelineMemory) (x : BackendExchange)
    (noScan : ∀ intentId fillDeadline latestAcceptable now answer,
      x ≠ ⟨.external (.findLandedFill intentId fillDeadline latestAcceptable now), answer⟩) :
    (m.observe x).scan = m.scan := by
  obtain ⟨call, reply⟩ := x
  cases call with
  | slashes c =>
    cases c with
    | claim | transition => cases reply <;> rfl
    | _ => rfl
  | external c =>
    cases c with
    | findLandedFill intentId fillDeadline latestAcceptable now =>
      exact absurd rfl (noScan intentId fillDeadline latestAcceptable now reply)
    | storeAnswer => cases reply <;> rfl
    | _ => rfl
  | intents c =>
    cases c with
    | findById | transitionIf =>
      simp only [PipelineMemory.observe]
      split <;> rfl
    | _ => rfl
  | solvers c => cases c <;> rfl
  | _ => rfl

/-- The step makes the scan, and finds nothing. -/
def FindsNothing (pid : Nat) (scan : FillScan) : Prop :=
  ∃ actor : Actor BackendRequest, actor.pid = pid ∧
    t.event = some ⟨actor, .external (.findLandedFill scan.intentId
    scan.fillDeadline scan.latestAcceptable scan.now), .ok none⟩

theorem latest_scan {pid scan} (ts : List BackendTransition)
    (recalled : (pipelineMemory (past pid (ts.filterMap (·.event)))).scan = some scan) :
    ∃ t ∈ ts, ts.find? (scansFor pid scan.intentId) = some t ∧ FindsNothing t pid scan := by
  induction ts with
  | nil => cases recalled
  | cons t ts ih =>
    have older (notThis : scansFor pid scan.intentId t = false)
        (earlier : (pipelineMemory (past pid (ts.filterMap (·.event)))).scan = some scan) :
        ∃ t' ∈ t :: ts, (t :: ts).find? (scansFor pid scan.intentId) = some t' ∧ FindsNothing t' pid scan := by
      obtain ⟨t', member, found, made⟩ := ih earlier
      exact ⟨t', .tail _ member, by rw [List.find?_cons, notThis]; exact found, made⟩
    cases isEvent : t.event with
    | none =>
      rw [List.filterMap_cons_none isEvent] at recalled
      exact older (by simp [scansFor, scanOf, isEvent]) recalled
    | some e =>
      rw [List.filterMap_cons_some isEvent] at recalled
      by_cases own : e.actor.pid = pid
      · subst own
        rw [past_cons_self] at recalled
        obtain ⟨actor, call, reply⟩ := e
        by_cases isScan : ∃ intentId fillDeadline latestAcceptable now answer, (⟨call, reply⟩ : BackendExchange) =
            ⟨.external (.findLandedFill intentId fillDeadline latestAcceptable now), answer⟩
        · obtain ⟨intentId, fillDeadline, latestAcceptable, now, answer, isCall⟩ := isScan
          cases isCall
          rcases answer with e | (_ | txHash)
          · cases recalled
          · cases recalled
            refine ⟨t, .head _, ?_, actor, rfl, isEvent⟩
            rw [List.find?_cons_of_pos]
            simp [scansFor, scanOf, isEvent]
          · cases recalled
        · have noScan : scanOf t = none := by
            unfold scanOf
            rw [isEvent]
            split
            · rename_i isCall
              cases isCall
              exact absurd ⟨_, _, _, _, _, rfl⟩ isScan
            · rfl
          refine older (by rw [scansFor, noScan]; rfl) ?_
          rw [← recalled]
          refine (scan_observe _ _ ?_).symm
          exact fun intentId fillDeadline latestAcceptable now answer isCall =>
            isScan ⟨intentId, fillDeadline, latestAcceptable, now, answer, isCall⟩
      · rw [past_cons_of_ne own] at recalled
        refine older ?_ recalled
        unfold scansFor scanOf
        rw [isEvent]
        split
        · rename_i isCall
          cases isCall
          simp [own]
        · rfl

variable {cfg : BackendSettings} {intentId : String}

theorem scanReaches_iff {logs : BackendView → EventLog} {v actor fillDeadline latestAcceptable now w} :
    scanReaches cfg logs v
        ⟨actor, .external (.findLandedFill intentId fillDeadline latestAcceptable now), .ok none⟩ w = true ↔
      findLandedFill (logs v).rpc cfg.settlementContractId intentId fillDeadline latestAcceptable now = .ok none ∧
        (logs v).shortPages = [] ∧
        (((logs v).covered cfg fillDeadline now).any (isTimely cfg intentId fillDeadline) = true →
          (((logs v).covered cfg fillDeadline now).take (MAX_EVENT_PAGES * EVENTS_PAGE_LIMIT)).any
            (isTimely cfg intentId fillDeadline) = true) := by
  have isNone (answer : Except BackendError (Option LandedFill)) :
      .ok none = answer.map (·.map (·.txHash)) ↔ answer = .ok none := by
    rcases answer with e | (_ | fill) <;> simp [Except.map]
  rw [scanReaches, scanAnswered, Bool.and_eq_true, Bool.and_eq_true, decide_eq_true_eq, isNone, List.isEmpty_iff,
    Bool.or_eq_true, Bool.not_eq_true', imp_iff_not_or, Bool.not_eq_true]

theorem no_fill_covered {log : EventLog} (full : log.shortPages = [])
    (nothing : findLandedFill log.rpc cfg.settlementContractId intentId fillDeadline
      (fillDeadline + cfg.clockSkewToleranceSeconds) now = .ok none)
    (reached : (log.covered cfg fillDeadline now).any (isTimely cfg intentId fillDeadline) = true →
      ((log.covered cfg fillDeadline now).take (MAX_EVENT_PAGES * EVENTS_PAGE_LIMIT)).any
        (isTimely cfg intentId fillDeadline) = true) :
    (log.covered cfg fillDeadline now).any (isTimely cfg intentId fillDeadline) = false := by
  cases isContract : cfg.settlementContractId with
  | none => simp [EventLog.covered, isContract]
  | some settlement =>
    by_cases isEmpty : settlement = ""
    · simp [EventLog.covered, isContract, isEmpty]
    · have isCovered : log.covered cfg fillDeadline now =
          log.served settlement (.ledger (startLedger log.latest now fillDeadline)) := by
        simp [EventLog.covered, isContract, isEmpty]
      rw [isContract] at nothing
      rcases findLandedFill_full full isEmpty with ⟨_, e, isError⟩ | isOk
      · rw [nothing] at isError
        cases isError
      · rw [nothing, ← isCovered, Except.ok.injEq, eq_comm, Option.map_eq_none_iff, List.find?_eq_none] at isOk
        apply Bool.eq_false_iff.mpr
        intro some
        obtain ⟨event, member, timely⟩ := List.any_eq_true.mp (reached some)
        exact isOk event member timely

/-- In every run of the pipeline whose scans all meet the condition: whoever submits a slash has looked for a fill of
    the intent before, with the fill deadline of the stored slash, and at the latest look no fill in time was in the
    ledgers that the scan covers. -/
theorem timely_fill_not_slashed {cfg : BackendSettings} {logs : BackendView → EventLog}
    {ts later earlier : List BackendTransition} {c : BackendConfig} {submit : BackendTransition} {pid : Nat}
    {intentId : String} (run : Run (backendService cfg) (slashingSetting (scanReaches cfg logs)) ts c)
    (split : ts = later ++ submit :: earlier) (submits : submissionOf submit = some (pid, intentId)) :
    ∃ scan fillDeadline latestAcceptable now, earlier.find? (scansFor pid intentId) = some scan ∧
      scanOf scan = some (pid, ⟨intentId, fillDeadline, latestAcceptable, now⟩) ∧
      (submit.before.world.slashes.get intentId).map (·.fillDeadline) = some fillDeadline ∧
      ((logs scan.before.view).covered cfg fillDeadline now).any (isTimely cfg intentId fillDeadline) = false := by
  subst split
  have kept := (pipeline_kept run).2
  obtain ⟨safe, _, events⟩ := kept submit (List.mem_append_right _ (.head _))
  unfold submissionOf at submits
  split at submits
  · rename_i actor solver id reason answer isEvent
    cases submits
    obtain ⟨_, ⟨scan, recalled, rfl, tolerance, row, isRow, isId, isDeadline⟩, _⟩ := events _ isEvent
    have deadline : (submit.before.world.slashes.get scan.intentId).map (·.fillDeadline) = some scan.fillDeadline := by
      obtain ⟨stored, present, sameTerms⟩ := safe.seen actor.pid row (safe.rows actor.pid row isRow)
      have same : stored.fillDeadline = row.fillDeadline := congrArg (·.2.1) sameTerms
      have present : submit.before.world.slashes.get scan.intentId = some stored := isId ▸ present
      rw [present, Option.map_some, same, isDeadline]
    have recalled : (pipelineMemory (past actor.pid (earlier.filterMap (·.event)))).scan = some scan := by
      rw [← run.before.history_eq]
      exact recalled
    obtain ⟨t, member, found, other, own, isScan⟩ := latest_scan earlier recalled
    obtain ⟨⟨_, met⟩, _, _⟩ := (kept t (List.mem_append_right _ (.tail _ member))).2.2 _ isScan
    refine ⟨t, scan.fillDeadline, scan.latestAcceptable, scan.now, found, ?_, deadline, ?_⟩
    · rw [scanOf, isScan]
      dsimp only
      rw [own]
    · obtain ⟨answered, full, reached⟩ := scanReaches_iff.mp met
      exact no_fill_covered full (tolerance ▸ answered) reached
  · cases submits

/-! ### Runs on fixed chains -/

/-- The settlement contract is configured. -/
def settlementConfig : BackendSettings := { settlementContractId := some "C" }

/-- A chain with one fill of the intent, which closed long after the deadline. -/
def lateFill : EventLog where
  events := [{ contractId := "C", topic := [some "intent_filled", some "I"], ledger := 1, ledgerClosedAt := 600000
               txHash := "F", pagingToken := "1" }]
  latest := 1
  ordered := List.pairwise_singleton _ _
  unique := List.nodup_singleton _
  named := by simp

theorem late_fill_slashed :
    ∃ ts c later submit earlier,
      Run (backendService settlementConfig) (slashingSetting (scanReaches settlementConfig fun _ => lateFill)) ts c ∧
        ts = later ++ submit :: earlier ∧ submissionOf submit = some (0, "I") ∧
        ∃ scan fillDeadline latestAcceptable now, earlier.find? (scansFor 0 "I") = some scan ∧
          scanOf scan = some (0, ⟨"I", fillDeadline, latestAcceptable, now⟩) ∧
          (submit.before.world.slashes.get "I").map (·.fillDeadline) = some fillDeadline ∧
          (lateFill.covered settlementConfig fillDeadline now).any
            (isTimely settlementConfig "I" fillDeadline) = false := by
  obtain ⟨ts, c, run, last⟩ := Run.exists_of_trace (backendService settlementConfig)
    (slashingSetting (scanReaches settlementConfig fun _ => lateFill)) dueWorld
    (List.flatten [.arrive (.processDue 0) :: List.replicate 5 (.act 0 {}), submitMoves 0])
    (fun ts _ => ts.head?.any fun t => submissionOf t == some (0, "I")) trivial
    (by simp [submitMoves, slashingSetting]) (by decide)
  cases ts with
  | nil => cases last
  | cons submit earlier =>
    have submits : submissionOf submit = some (0, "I") := beq_iff_eq.mp last
    exact ⟨_, c, [], submit, earlier, run, rfl, submits,
      timely_fill_not_slashed run (List.nil_append _).symm submits⟩

/-- The events of a chain where other intents are created before the intent is filled. -/
def floodEvent (others n : Nat) : ContractEvent where
  contractId := "C"
  topic := if n < others then [some "intent_created"] else [some "intent_filled", some "I"]
  ledger := 1
  ledgerClosedAt := 0
  txHash := "F"
  pagingToken := String.ofList (List.replicate (n + 1) 'x')

/-- A chain where the intent is filled in time, behind the events of other intents. -/
def floodedChain (others : Nat) : EventLog where
  events := (List.range (others + 1)).map (floodEvent others)
  latest := 1
  ordered := List.pairwise_map.mpr (List.pairwise_of_forall fun _ _ => Nat.le_refl 1)
  unique := by
    rw [List.map_map]
    refine List.nodup_range.map fun n n' same => ?_
    have sameLength := congrArg String.length same
    simpa [floodEvent] using sameLength
  named := by
    intro event member empty
    obtain ⟨n, _, rfl⟩ := List.mem_map.mp member
    have length := congrArg String.length empty
    simp [floodEvent] at length

section Flood

variable {others : Nat}

theorem flooded_served (now fillDeadline : Nat) :
    (floodedChain others).served "C" (.ledger (startLedger 1 now fillDeadline)) = (floodedChain others).events := by
  have start : startLedger 1 now fillDeadline = 1 := by
    simp only [startLedger, MAX_FILL_WINDOW_SECONDS, LEDGER_SECONDS]
    omega
  rw [start, EventLog.served, List.filter_eq_self]
  intro event member
  obtain ⟨n, _, rfl⟩ := List.mem_map.mp member
  simp [floodEvent]

theorem flooded_scan (many : MAX_EVENT_PAGES * EVENTS_PAGE_LIMIT ≤ others)
    (intentId : String) (fillDeadline latestAcceptable now : Nat) :
    findLandedFill (floodedChain others).rpc (some "C") intentId fillDeadline latestAcceptable now = .ok none := by
  have full : (floodedChain others).shortPages = [] := rfl
  have isNamed : "C" ≠ "" := by decide
  rcases findLandedFill_full full isNamed with ⟨failed, _⟩ | isOk
  · rcases failed with failed | failed <;> exact absurd rfl failed
  · rw [isOk, show (floodedChain others).latest = 1 from rfl, flooded_served, Except.ok.injEq,
      Option.map_eq_none_iff, List.find?_eq_none]
    intro event member
    rw [show (floodedChain others).events = (List.range (others + 1)).map (floodEvent others) from rfl,
      ← List.map_take, List.take_range] at member
    obtain ⟨n, isBelow, rfl⟩ := List.mem_map.mp member
    have early : n < others := by
      have below := List.mem_range.mp isBelow
      omega
    simp [ContractEvent.isTimelyFill, isIntentFilled, floodEvent, early]

theorem flooded_covered (now : Nat) :
    ((floodedChain others).covered settlementConfig 0 now).any (isTimely settlementConfig "I" 0) = true := by
  have isCovered : (floodedChain others).covered settlementConfig 0 now = (floodedChain others).events :=
    flooded_served now 0
  rw [isCovered, List.any_eq_true]
  refine ⟨floodEvent others others, List.mem_map_of_mem List.self_mem_range_succ, ?_⟩
  simp [isTimely, ContractEvent.isTimelyFill, isIntentFilled, floodEvent, ContractEvent.closedAt]

/-- The answers that the scans of the flooded chain give. -/
private def nothingFound (_ : BackendView) (e : BackendEvent) (_ : BackendWorld) : Bool :=
  match e with
  | ⟨_, .external (.findLandedFill ..), answer⟩ => decide (answer = .ok none)
  | _ => true

theorem flooded_answers (many : MAX_EVENT_PAGES * EVENTS_PAGE_LIMIT ≤ others) :
    scanAnswered settlementConfig (fun _ => floodedChain others) = nothingFound := by
  funext v e w
  unfold scanAnswered nothingFound
  split
  · rename_i intentId fillDeadline latestAcceptable now answer
    have nothing := flooded_scan many intentId fillDeadline latestAcceptable now
    rw [show settlementConfig.settlementContractId = some "C" from rfl, nothing]
    rfl
  · rfl

end Flood

/-- Without the condition: the node serves full pages, but the fill lies behind the last page that the scan reads. -/
theorem buried_fill_slashed :
    ∃ ts c later submit earlier,
      Run (backendService settlementConfig)
          (slashingSetting (scanAnswered settlementConfig fun _ => floodedChain 2000)) ts c ∧
        ts = later ++ submit :: earlier ∧ submissionOf submit = some (0, "I") ∧
        ∃ scan now, earlier.find? (scansFor 0 "I") = some scan ∧ scanOf scan = some (0, ⟨"I", 0, 30, now⟩) ∧
          (submit.before.world.slashes.get "I").map (·.fillDeadline) = some 0 ∧
          ((floodedChain 2000).covered settlementConfig 0 now).any (isTimely settlementConfig "I" 0) = true := by
  obtain ⟨ts, c, run, last⟩ := Run.exists_of_trace (backendService settlementConfig) (slashingSetting nothingFound)
    dueWorld (List.flatten [.arrive (.processDue 0) :: List.replicate 5 (.act 0 {}), submitMoves 0])
    (fun ts _ => ts.head?.any (fun t => submissionOf t == some (0, "I") &&
        (t.before.world.slashes.get "I").map (·.fillDeadline) == some 0) &&
      (ts.tail.find? (scansFor 0 "I")).any fun t => (scanOf t).any fun scan => scan.1 == 0 &&
        scan.2.intentId == "I" && scan.2.fillDeadline == 0 && scan.2.latestAcceptable == 30) trivial
    (by simp [submitMoves, slashingSetting]) (by decide)
  cases ts with
  | nil => cases last
  | cons submit earlier =>
    simp only [List.head?_cons, Option.any_some, List.tail_cons, Bool.and_eq_true, beq_iff_eq,
      Option.any_eq_true] at last
    obtain ⟨⟨submits, deadline⟩, scan, found,
      ⟨pid, ⟨intentId, fillDeadline, latestAcceptable, now⟩⟩, isScan,
      ⟨⟨rfl, rfl⟩, rfl⟩, rfl⟩ := last
    rw [← flooded_answers (by decide : _ ≤ 2000)] at run
    exact ⟨_, c, [], submit, earlier, run, rfl, submits, scan, now, found, isScan, deadline, flooded_covered now⟩

end VortexBackend
