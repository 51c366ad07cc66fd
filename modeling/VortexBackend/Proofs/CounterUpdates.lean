/-
Module: VortexBackend.Proofs.CounterUpdates
Purpose: The counters of a solver add up while no record is written between a call's read and its write.
Main exports: counters_add_up
-/
import Mathlib.Algebra.Group.Int.Defs
import Mathlib.Algebra.Group.Nat.Defs
import VortexBackend.Async.Tally
import VortexBackend.Proofs.RecordRule

namespace VortexBackend

open SolverRecords RecordRequest Config BigInt

/-- The number of fills, their volume, the number of missed fills and the number of effective rollbacks. -/
abbrev FillCounts := Nat × Int × Nat × Nat

namespace RecordRequest

/-- The integer amount of a fill; one that is no integer adds nothing to the volume. -/
def amount (fillAmount : Option String) : Int := (fillAmount.bind parse).getD 0

/-- What a request adds by writing the record that it read. -/
@[simp] def contribution (request : RecordRequest) (old : SolverRecord) : FillCounts :=
  match request with
  | .recordSuccessfulFill _ fillAmount => (1, amount fillAmount, 0, 0)
  | .recordFailedFill .. => (0, 0, 1, 0)
  | .rollbackPenalty .. => (0, 0, 0, if old.fillsFailed = 0 then 0 else 1)
  | .solverSlashed _ => 0

/-- What a request has added to the counts of a solver so far. -/
def counted (address : String) (request : RecordRequest) (past : List RecordExchange) : FillCounts :=
  match (recordMemory past).read, (recordMemory past).saved with
  | some old, some new => if new.address = address then request.contribution old else 0
  | _, _ => 0

/-- The request counts a fill of the solver. -/
@[simp] def fills (address : String) : RecordRequest → Bool
  | .recordSuccessfulFill solver _ => solver = address
  | _ => false

/-- What the request adds to the volume of the solver. -/
@[simp] def volume (address : String) : RecordRequest → Int
  | .recordSuccessfulFill solver fillAmount => if solver = address then amount fillAmount else 0
  | _ => 0

/-- The request counts a missed fill of the solver. -/
@[simp] def fails (address : String) : RecordRequest → Bool
  | .recordFailedFill solver _ => solver = address
  | _ => false

end RecordRequest

/-- One if the request is a rollback that has lowered the solver's counter. -/
def effectiveRollback (address : String) (request : RecordRequest) (past : List RecordExchange) : Nat :=
  (request.counted address past).2.2.2

/-- Calls for fills, missed fills and rollbacks of any solvers, where one solver is registered. -/
def fillTraffic (solver : SolverRecord) : Setting RecordReply RecordWorld RecordRequest where
  initial w := w.solvers.get solver.address = some solver
  admits
    | .solverSlashed _ => False
    | _ => True

/-- The same, where a record is written back only if it is still the one that was read. -/
def undisturbed (solver : SolverRecord) : Setting RecordReply RecordWorld RecordRequest where
  initial := (fillTraffic solver).initial
  admits := (fillTraffic solver).admits
  meets v e _ :=
    match e.call with
    | .save new => v.world.solvers.get new.address == (memoryIn v e.actor.pid).read
    | _ => true

/-! ### One write -/

/-- The counters of a record, by those of an earlier record and what was added since. -/
structure Accounted (solver record : SolverRecord) (volume : Int) (added : FillCounts) : Prop where
  completed : record.fillsCompleted = solver.fillsCompleted + added.1
  volume : parse record.totalVolume = some (volume + added.2.1)
  failed : record.fillsFailed + added.2.2.2 = solver.fillsFailed + added.2.2.1

variable {request : RecordRequest}

theorem Accounted.change {solver old new volume added now} (accounted : Accounted solver old volume added)
    (changed : request.change now old = .ok new) : Accounted solver new volume (added + request.contribution old) := by
  obtain ⟨completed, isVolume, failed⟩ := accounted
  cases request with
  | recordSuccessfulFill address fillAmount =>
    cases changed
    refine ⟨?_, ?_, failed⟩
    · change old.fillsCompleted + 1 = solver.fillsCompleted + (added.1 + 1)
      omega
    · change parse (addVolume old.totalVolume fillAmount) =
        some (volume + (added.2.1 + (fillAmount.bind parse).getD 0))
      cases isAmount : fillAmount.bind parse with
      | none => simp [addVolume, isAmount, isVolume]
      | some amount => simp [addVolume, isAmount, isVolume, parse_toText_int, add_assoc]
  | recordFailedFill address intentId =>
    cases changed
    refine ⟨completed, ?_, ?_⟩
    · exact isVolume.trans (by simp [contribution])
    · change old.fillsFailed + 1 + added.2.2.2 = solver.fillsFailed + (added.2.2.1 + 1)
      omega
  | rollbackPenalty intentId solverAddress =>
    cases changed
    refine ⟨completed, ?_, ?_⟩
    · exact isVolume.trans (by simp [contribution])
    · change old.fillsFailed - 1
        + (added.2.2.2 + if old.fillsFailed = 0 then 0 else 1) = solver.fillsFailed + added.2.2.1
      split <;> omega
  | solverSlashed event =>
    obtain ⟨_, rfl⟩ := slashBond_ok now changed
    exact ⟨completed, isVolume.trans (by simp [contribution]), failed⟩

variable {address : String}

theorem counted_of_unsaved {past} (unsaved : (recordMemory past).saved = none) : request.counted address past = 0 := by
  unfold counted
  rw [unsaved]
  split
  · rename_i saved
    cases saved
  · rfl

/-! ### Every run -/

/-- The stored counters are those of the start and what the calls have added. -/
structure AddedUp (solver : SolverRecord) (volume : Int) (v : RecordView) (added : FillCounts) : Prop where
  held : Registered solver.address (fun _ => True) v
  stored : ∃ record, v.world.solvers.get solver.address = some record ∧ Accounted solver record volume added

variable {c : RecordConfig}

section Runs

variable {solver : SolverRecord} {volume : Int} {v v' : RecordView} {e : RecordEvent}

theorem AddedUp.step {rest}
    (counted : AddedUp solver volume v (rest + e.actor.request.counted solver.address (past e.actor.pid v.history)))
    (allowed : Run.Allowed recordService (undisturbed solver) recordDiscipline v e v') :
    AddedUp solver volume v' (rest + e.actor.request.counted solver.address (past e.actor.pid v'.history)) := by
  refine ⟨counted.held.step allowed fun _ _ _ _ _ => trivial, ?_⟩
  obtain ⟨choice, w, performed, rfl⟩ := allowed.performed
  obtain ⟨record, isStored, accounted⟩ := counted.stored
  have rule : e.actor.request.Rule (memoryIn v e.actor.pid) e.call := allowed.allowed
  have met := allowed.met
  obtain ⟨actor, call, reply⟩ := e
  have grown :
    past actor.pid (v.after ⟨actor, call, reply⟩ w).history = ⟨call, reply⟩ :: past actor.pid v.history :=
    past_own rfl
  have same (unchanged : actor.request.counted solver.address (⟨call, reply⟩ :: past actor.pid v.history) =
      actor.request.counted solver.address (past actor.pid v.history)) (kept : w.solvers = v.world.solvers) :
      ∃ record, w.solvers.get solver.address = some record ∧ Accounted solver record volume
        (rest + actor.request.counted solver.address
          (past actor.pid (v.after ⟨actor, call, reply⟩ w).history)) := by
    rw [grown, unchanged, kept]
    exact ⟨record, isStored, accounted⟩
  cases call with
  | save new =>
    obtain ⟨unsaved, _, old, now, _, _, isRead, changed⟩ := rule
    cases choice with
    | mk fault =>
      cases fault with
      | some message =>
        cases performed
        exact same rfl rfl
      | none =>
        cases performed
        rw [counted_of_unsaved unsaved, add_zero] at accounted
        have isOld : v.world.solvers.get new.address = some old := (eq_of_beq met).trans isRead
        have isShare : actor.request.counted solver.address (⟨.save new, .ok new⟩ :: past actor.pid v.history) =
            if new.address = solver.address then actor.request.contribution old else 0 := by
          have read : (recordMemory (past actor.pid v.history)).read = some old := isRead
          simp [RecordRequest.counted, RecordMemory.observe, read]
        rw [grown, isShare, View.after_world]
        change ∃ record, (v.world.solvers.save new).get solver.address = some record ∧ _
        rw [SolverStore.get_save]
        by_cases here : solver.address = new.address
        · rw [← here, isStored] at isOld
          cases isOld
          rw [if_pos here, if_pos here.symm]
          exact ⟨new, rfl, accounted.change changed⟩
        · rw [if_neg here, if_neg (Ne.symm here), add_zero]
          exact ⟨record, isStored, accounted⟩
  | findByAddress address =>
    have unsaved : (recordMemory (past actor.pid v.history)).saved = none := congrArg RecordMemory.saved rule.1
    rcases solvers_after performed with kept | ⟨_, isSave, _⟩
    · refine same ?_ kept
      rw [counted_of_unsaved unsaved, counted_of_unsaved]
      rcases reply with message | _ | found <;> exact unsaved
    · cases isSave
  | now | invalidate | penalty | setPenalty =>
    cases performed
    exact same rfl rfl

theorem AddedUp.run {ts} (isVolume : parse solver.totalVolume = some volume)
    (run : Run recordService (undisturbed solver) ts c) :
    AddedUp solver volume c.view (c.total (counted solver.address)) := by
  apply Run.tallied recordDiscipline_followed _ _ _ _ run
  · exact fun _ => rfl
  · intro w registered
    exact ⟨.start registered trivial, solver, registered, rfl, by simpa using isVolume, rfl⟩
  · intro v elapsed w added counted drifted
    refine ⟨counted.held.drift drifted, ?_⟩
    cases drifted
    exact counted.stored
  · exact fun v e v' rest counted allowed => counted.step allowed

theorem counted_of_ended {P : SolverRecord → Prop} {pid} (result : Option SolverRecord)
    (held : Registered address P v)
    (ended : request.Ended (memoryIn v pid) (.ok result : Except String (Option SolverRecord))) :
    request.counted address (past pid v.history) =
      (if request.fills address then 1 else 0, request.volume address, if request.fails address then 1 else 0,
        effectiveRollback address request (past pid v.history)) := by
  rcases ended with ⟨asked, old, new, now, isAsked, target, isRead, isSaved, changed⟩ | ⟨unsaved, idle⟩
  · have sameAddress : new.address = asked := by
      have isAddress := (held.read pid old isRead).1
      rw [isAsked] at isAddress
      cases isAddress
      exact change_address changed
    have isCounted : request.counted address (past pid v.history) =
        if asked = address then request.contribution old else 0 := by
      rw [memoryIn] at isRead isSaved
      simp [counted, isRead, isSaved, sameAddress]
    rw [effectiveRollback, isCounted]
    cases request with
    | recordSuccessfulFill | recordFailedFill =>
      cases target
      by_cases here : asked = address <;>
        simp [here, Prod.zero_eq_mk]
    | rollbackPenalty | solverSlashed =>
      by_cases here : asked = address <;>
        simp [here, Prod.zero_eq_mk]
  · rw [effectiveRollback, counted_of_unsaved unsaved]
    cases request with
    | recordSuccessfulFill solver | recordFailedFill solver =>
      have other : solver ≠ address := fun same => held.found pid (same ▸ idle)
      simp [other, Prod.zero_eq_mk]
    | rollbackPenalty | solverSlashed => rfl

end Runs

/-- When all calls have resolved, the counters of a solver have grown by exactly what the calls for it say: one fill and
    its integer amount for each successful fill, one missed fill for each failed one, less the effective rollbacks. -/
theorem counters_add_up {solver : SolverRecord} {volume : Int} {ts : List RecordTransition} {c : RecordConfig}
    (isVolume : parse solver.totalVolume = some volume) (run : Run recordService (undisturbed solver) ts c)
    (resolved : ∀ x ∈ c.pool, ∃ result, x.2 = .done (.ok result)) :
    ∃ record, c.world.solvers.get solver.address = some record ∧
      record.fillsCompleted = solver.fillsCompleted + c.pool.countP (fun x => x.1.fills solver.address) ∧
      parse record.totalVolume = some (volume + (c.pool.map fun x => x.1.volume solver.address).sum) ∧
      record.fillsFailed + c.total (effectiveRollback solver.address) =
        solver.fillsFailed + c.pool.countP (fun x => x.1.fails solver.address) := by
  obtain ⟨held, record, isStored, completed, isTotal, failed⟩ := AddedUp.run isVolume run
  have known : ∀ (pid : Nat) (x : RecordRequest × Program RecordReply (Except String (Option SolverRecord))),
      c.pool[pid]? = some x → x.1.counted solver.address (past pid c.history) =
        (if x.1.fills solver.address then 1 else 0, x.1.volume solver.address,
          if x.1.fails solver.address then 1 else 0, effectiveRollback solver.address x.1 (past pid c.history)) := by
    rintro pid ⟨request, program⟩ inPool
    obtain ⟨result, rfl⟩ := resolved _ (List.mem_of_getElem? inPool)
    have returned : c.returned pid = some (request, .ok result) := by rw [returned, inPool]
    exact counted_of_ended result held (run.returned recordDiscipline_followed returned)
  refine ⟨record, isStored, ?_, ?_, ?_⟩
  · rw [completed, total_fst, total_eq_countP (RecordRequest.fills solver.address)]
    exact fun pid x inPool => congrArg Prod.fst (known pid x inPool)
  · rw [isTotal, total_snd, total_fst, total_eq_sum (RecordRequest.volume solver.address)]
    exact fun pid x inPool => congrArg (·.2.1) (known pid x inPool)
  · have rollbacks : (c.total (RecordRequest.counted solver.address)).2.2.2 =
        c.total (effectiveRollback solver.address) := by rw [total_snd, total_snd, total_snd]; rfl
    rw [← rollbacks, failed, total_snd, total_snd, total_fst,
      total_eq_countP (RecordRequest.fails solver.address)]
    exact fun pid x inPool => congrArg (·.2.2.1) (known pid x inPool)

private def filler : SolverRecord := { address := "S", bondAmount := "100" }

private def fillerWorld : RecordWorld := { solvers := SolverStore.empty.save filler }

/-- Every program has returned without an error. -/
private def allResolved (c : RecordConfig) : Bool :=
  c.pool.all fun x => match x.2 with
    | .done (.ok _) => true
    | _ => false

theorem resolved_of_all (all : allResolved c = true) : ∀ x ∈ c.pool, ∃ result, x.2 = .done (.ok result) := by
  intro x member
  have resolved := List.all_eq_true.mp all x member
  split at resolved
  · rename_i result isDone
    exact ⟨result, isDone⟩
  · cases resolved

/-- A fill, a missed fill and its rollback, started together and served one after another. -/
theorem counters_add_up_three_calls :
    ∃ (ts : List RecordTransition) (c : RecordConfig), Run recordService (undisturbed filler) ts c ∧
      c.pool.length = 3 ∧
      ∃ record, c.world.solvers.get "S" = some record ∧
        record.fillsCompleted = 0 + c.pool.countP (fun x => x.1.fills "S") ∧
        parse record.totalVolume = some (0 + (c.pool.map fun x => x.1.volume "S").sum) ∧
        record.fillsFailed + c.total (effectiveRollback "S") = 0 + c.pool.countP (fun x => x.1.fails "S") := by
  obtain ⟨ts, c, run, holds⟩ := Run.exists_of_trace recordService (undisturbed filler) fillerWorld
    (List.flatten [[.arrive (.recordSuccessfulFill "S" (some "7")), .arrive (.recordFailedFill "S" "i"),
      .arrive (.rollbackPenalty "i" none)], List.replicate 4 (.act 0 {}), List.replicate 6 (.act 1 {}),
      List.replicate 6 (.act 2 {})])
    (fun _ c => allResolved c && c.pool.length == 3) rfl
    (by simp [undisturbed, fillTraffic]) (by decide +kernel)
  obtain ⟨all, three⟩ := Bool.and_eq_true_iff.mp holds
  exact ⟨ts, c, run, eq_of_beq three, counters_add_up rfl run (resolved_of_all all)⟩

/-- Two fills read the record before either writes it: both resolve and one is counted. -/
theorem overlapping_fill_lost :
    ∃ (ts : List RecordTransition) (c : RecordConfig), Run recordService (fillTraffic filler) ts c ∧
      (∀ x ∈ c.pool, ∃ result, x.2 = .done (.ok result)) ∧ c.pool.countP (fun x => x.1.fills "S") = 2 ∧
      (c.world.solvers.get "S").map (·.fillsCompleted) = some 1 := by
  obtain ⟨ts, c, run, holds⟩ := Run.exists_of_trace recordService (fillTraffic filler) fillerWorld
    (List.flatten [List.replicate 2 (.arrive (.recordSuccessfulFill "S" (some "7"))), [.act 0 {}, .act 1 {}],
      List.replicate 3 (.act 0 {}), List.replicate 3 (.act 1 {})])
    (fun _ c => allResolved c && (c.pool.countP (fun x => x.1.fills "S") == 2 &&
      (c.world.solvers.get "S").map (·.fillsCompleted) == some 1)) rfl (by simp [fillTraffic]) (by decide +kernel)
  simp only [Bool.and_eq_true, beq_iff_eq] at holds
  exact ⟨ts, c, run, resolved_of_all holds.1, holds.2⟩

end VortexBackend
