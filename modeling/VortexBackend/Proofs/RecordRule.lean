/-
Module: VortexBackend.Proofs.RecordRule
Purpose: A call of `SolversService` writes at most one record, the one it read with its change.
Main exports: RecordRequest.Rule, Registered
-/
import VortexBackend.Solvers.Records

namespace VortexBackend

open SolverRecords Async

/-- What a call has learnt and done. -/
structure RecordMemory where
  penalty : Option (Option SolverPendingPenalty) := none
  asked : Option String := none
  read : Option SolverRecord := none
  missing : Option String := none
  saved : Option SolverRecord := none
  faulted : Bool := false
deriving DecidableEq

namespace RecordMemory

def observe (m : RecordMemory) : RecordExchange → RecordMemory
  | ⟨.penalty _, penalty⟩ => { m with penalty := some penalty }
  | ⟨.findByAddress address, .ok (some solver)⟩ => { m with asked := some address, read := some solver }
  | ⟨.findByAddress address, .ok none⟩ => { m with missing := some address }
  | ⟨.findByAddress _, .error _⟩ => { m with faulted := true }
  | ⟨.save solver, .ok _⟩ => { m with saved := some solver }
  | ⟨.save _, .error _⟩ => { m with faulted := true }
  | _ => m

end RecordMemory

/-- What a call remembers of its past. -/
def recordMemory : List RecordExchange → RecordMemory := remember RecordMemory.observe {}

@[simp] theorem recordMemory_nil : recordMemory [] = {} := rfl

@[simp] theorem recordMemory_cons (x : RecordExchange) (past : List RecordExchange) :
    recordMemory (x :: past) = (recordMemory past).observe x := rfl

namespace RecordRequest

/-- The intent and the amount of a confirmation. -/
def confirmation : RecordRequest → Option (String × String)
  | .solverSlashed event =>
    match EventIngestion.handleSolverSlashed event with
    | some (.confirmPenalty intentId slashAmount) => some (intentId, slashAmount)
    | _ => none
  | _ => none

/-- How a request changes the record that it reads. -/
def change : RecordRequest → Nat → SolverRecord → Except String SolverRecord
  | .recordSuccessfulFill _ fillAmount => countFill fillAmount
  | .recordFailedFill .. => countFailure
  | .rollbackPenalty .. => uncountFailure
  | request@(.solverSlashed _) => slashBond (request.confirmation.elim "" (·.2))

/-- Whose record a request reads. -/
def Target (m : RecordMemory) (address : String) : RecordRequest → Prop
  | .recordSuccessfulFill solver _ | .recordFailedFill solver _ => address = solver
  | .solverSlashed _ => ∃ penalty, undecided m.penalty.join = some penalty ∧ address = penalty.solverAddress
  | .rollbackPenalty .. => True

variable (request : RecordRequest)

/-- Which calls a request may make next. -/
def Rule (m : RecordMemory) : RecordCall → Prop
  | .penalty intentId => m = {} ∧ ∀ confirmed, request.confirmation = some confirmed → intentId = confirmed.1
  | .findByAddress address => m = { penalty := m.penalty } ∧ request.Target m address
  | .save solver => m.saved = none ∧ ∃ address old now, m.asked = some address ∧ request.Target m address ∧
      m.read = some old ∧ request.change now old = .ok solver
  | _ => True

/-- Why a request has nothing to write. -/
def Idle (m : RecordMemory) : RecordRequest → Prop
  | .recordSuccessfulFill solver _ | .recordFailedFill solver _ => m.missing = some solver
  | request@(.solverSlashed _) =>
      request.confirmation = none ∨ (m.penalty ≠ none ∧ undecided m.penalty.join = none) ∨
      ∃ penalty, undecided m.penalty.join = some penalty ∧ m.missing = some penalty.solverAddress
  | .rollbackPenalty .. => True

/-- Why a request fails without having written. -/
def Thwarted (m : RecordMemory) : Prop :=
  m.faulted = true ∨ ∃ old now message, m.read = some old ∧ request.change now old = .error message

/-- The request has written the record that it read, with its change. -/
def Written (m : RecordMemory) : Prop :=
  ∃ address old new now, m.asked = some address ∧ request.Target m address ∧ m.read = some old ∧
    m.saved = some new ∧
    request.change now old = .ok new

/-- How a request ends. -/
def Ended {α : Type} (request : RecordRequest) (m : RecordMemory) (outcome : Except String α) : Prop :=
  request.Written m ∨ m.saved = none ∧ match outcome with
    | .ok _ => request.Idle m
    | .error _ => request.Thwarted m

end RecordRequest

def recordDiscipline : Discipline RecordReply RecordRequest (Except String (Option SolverRecord)) where
  allows request past call := request.Rule (recordMemory past) call
  returns request outcome past := request.Ended (recordMemory past) outcome

/-! ### The methods -/

section Methods

variable {request : RecordRequest} {past : List RecordExchange}

/-- How the reading and writing of a record ends. -/
def Revised (request : RecordRequest) (address : String) (penalty : Option (Option SolverPendingPenalty))
    (outcome : Except String (Option SolverRecord)) (m : RecordMemory) : Prop :=
  m.penalty = penalty ∧
    match outcome with
    | .ok (some _) => request.Written m
    | .ok none => m.saved = none ∧ m.missing = some address
    | .error _ => request.Written m ∨ m.saved = none ∧ request.Thwarted m

variable {address : String} {change : Nat → SolverRecord → Except String SolverRecord}

section

variable (isChange : change = request.change) (fresh : recordMemory past = { penalty := (recordMemory past).penalty })
  (target : request.Target (recordMemory past) address)
include isChange fresh target

theorem revise_follows :
    (revise address change).Follows (recordDiscipline.allows request)
      (fun outcome past' => Revised request address (recordMemory past).penalty outcome (recordMemory past')) past := by
  subst isChange
  have unsaved : (recordMemory past).saved = none := by rw [fresh]
  simp only [revise, SolverRecords.get, persist, ask, follows_bind, follows_attempt, follows_call,
    onOk_ok]
  refine ⟨⟨fresh, target⟩, ?_⟩
  rintro (message | _ | solver)
  · exact ⟨rfl, .inr ⟨unsaved, .inl rfl⟩⟩
  · exact ⟨rfl, unsaved, rfl⟩
  · simp only [onOk_ok, follows_bind, follows_call, follows_ofExcept]
    refine ⟨trivial, fun now => ?_⟩
    cases changed : request.change now solver with
    | error message => exact ⟨rfl, .inr ⟨unsaved, .inr ⟨solver, now, message, rfl, changed⟩⟩⟩
    | ok updated =>
      have targeted : ∀ m : RecordMemory, m.penalty = (recordMemory past).penalty → request.Target m address := by
        intro m samePenalty
        cases request with
        | solverSlashed event =>
          obtain ⟨penalty, isUndecided, isAddress⟩ := target
          exact ⟨penalty, samePenalty ▸ isUndecided, isAddress⟩
        | recordSuccessfulFill | recordFailedFill | rollbackPenalty => exact target
      refine ⟨⟨unsaved, address, solver, now, rfl, targeted _ rfl, rfl, changed⟩, ?_⟩
      rintro (message | saved)
      · exact ⟨rfl, .inr ⟨unsaved, .inl rfl⟩⟩
      · have written : request.Written (recordMemory (⟨.save updated, .ok saved⟩ :: ⟨.now, now⟩ ::
            ⟨.findByAddress address, .ok (some solver)⟩ :: past)) :=
          ⟨address, solver, updated, now, rfl, targeted _ rfl, rfl, rfl, changed⟩
        refine ⟨trivial, ?_⟩
        rintro (message | ⟨⟩)
        · exact ⟨rfl, .inl written⟩
        · exact ⟨rfl, written⟩

variable (request past)

theorem revise_ended
    (idle :
      ∀ m : RecordMemory, m.penalty = (recordMemory past).penalty → m.missing = some address → request.Idle m) :
    (revise address change).Follows (recordDiscipline.allows request) (recordDiscipline.returns request) past := by
  apply follows_mono _ (revise_follows isChange fresh target)
  rintro (message | _ | saved) past' ⟨samePenalty, ended⟩
  · exact ended
  · exact .inr ⟨ended.1, idle _ samePenalty ended.2⟩
  · exact .inl ended

theorem revise_then {rest : SolverRecord → SolverMethod (Option SolverRecord)}
    (idle :
      ∀ m : RecordMemory, m.penalty = (recordMemory past).penalty → m.missing = some address → request.Idle m)
    (after : ∀ saved past', request.Written (recordMemory past') →
      (rest saved).Follows (recordDiscipline.allows request)
        (fun _ past'' => request.Written (recordMemory past'')) past') :
    Async.Follows (recordDiscipline.allows request) (do
      match ← revise address change with
      | none => pure none
      | some saved => rest saved)
      (recordDiscipline.returns request) past := by
  apply (follows_bind _ _).mpr
  apply follows_mono _ (revise_follows isChange fresh target)
  rintro (message | _ | saved) past' ⟨samePenalty, ended⟩
  · exact ended
  · exact .inr ⟨ended.1, idle _ samePenalty ended.2⟩
  · exact follows_mono (fun _ _ => .inl) (after saved past' ended)

end

theorem setPenalty_follows {penalty : SolverPendingPenalty} {saved : SolverRecord}
    (written : request.Written (recordMemory past)) :
    Async.Follows (recordDiscipline.allows request) (do let _ : Unit ← ask (.setPenalty penalty); pure (some saved))
      (fun _ past' => request.Written (recordMemory past')) past :=
  .call_bind trivial fun _ => written

end Methods

theorem recordFailedFill_follows (address intentId : String) :
    (recordFailedFill address intentId).Follows (recordDiscipline.allows (.recordFailedFill address intentId))
      (recordDiscipline.returns (.recordFailedFill address intentId)) [] := by
  apply revise_then (.recordFailedFill address intentId) [] rfl rfl rfl
  · exact fun _ _ missing => missing
  · intro saved past written
    exact .call_bind trivial fun detectedAt => setPenalty_follows written

theorem confirmPenalty_follows {event : EventResponse} {intentId slashAmount : String}
    (isConfirmation : (RecordRequest.solverSlashed event).confirmation = some (intentId, slashAmount)) :
    (confirmPenalty intentId slashAmount).Follows (recordDiscipline.allows (.solverSlashed event))
      (recordDiscipline.returns (.solverSlashed event)) [] := by
  have isChange : slashBond slashAmount = (RecordRequest.solverSlashed event).change := by
    rw [RecordRequest.change, isConfirmation]
    rfl
  refine .call_bind ⟨rfl, ?_⟩ fun penalty => ?_
  · rw [isConfirmation]
    rintro _ ⟨⟩
    rfl
  cases isUndecided : undecided penalty with
  | none => exact .inr ⟨rfl, .inr (.inl ⟨nofun, isUndecided⟩)⟩
  | some pending =>
    apply revise_then (.solverSlashed event) [⟨.penalty intentId, penalty⟩] isChange rfl
      ⟨pending, isUndecided, rfl⟩
    · intro m samePenalty missing
      exact .inr (.inr ⟨pending, samePenalty ▸ isUndecided, missing⟩)
    · exact fun saved past written => setPenalty_follows written

theorem solverSlashed_follows (event : EventResponse) :
    (solverSlashed event).Follows (recordDiscipline.allows (.solverSlashed event))
      (recordDiscipline.returns (.solverSlashed event)) [] := by
  unfold solverSlashed
  split
  · rename_i intentId slashAmount isTask
    exact confirmPenalty_follows (by simp [RecordRequest.confirmation, isTask])
  · rename_i noTask
    exact .inr ⟨rfl, .inl (by simp only [RecordRequest.confirmation])⟩

theorem rollbackPenalty_follows (intentId : String) (solverAddress : Option String) :
    (rollbackPenalty intentId solverAddress).Follows
      (recordDiscipline.allows (.rollbackPenalty intentId solverAddress))
      (recordDiscipline.returns (.rollbackPenalty intentId solverAddress)) [] := by
  refine .call_bind ⟨rfl, nofun⟩ fun (penalty : Option _) => ?_
  cases isUndecided : undecided penalty with
  | none =>
    split
    · exact revise_ended (.rollbackPenalty intentId solverAddress) [_] rfl rfl trivial fun _ _ _ => trivial
    · exact .inr ⟨rfl, trivial⟩
  | some pending =>
    split
    · cases isUndecided
    · apply revise_then (.rollbackPenalty intentId solverAddress) [_] rfl rfl trivial
      · exact fun _ _ _ => trivial
      · exact fun saved past written => setPenalty_follows written

theorem recordDiscipline_followed {E} : recordDiscipline.Followed recordService E := by
  intro request _
  cases request with
  | recordSuccessfulFill address fillAmount =>
    exact revise_ended (.recordSuccessfulFill address fillAmount) [] rfl rfl rfl fun _ _ missing => missing
  | recordFailedFill address intentId => exact recordFailedFill_follows address intentId
  | solverSlashed event => exact solverSlashed_follows event
  | rollbackPenalty intentId solverAddress => exact rollbackPenalty_follows intentId solverAddress

/-! ### Records that stay well formed -/

variable {old new : SolverRecord}

theorem slashBond_ok (now : Nat) {slashAmount} (changed : slashBond slashAmount now old = .ok new) :
    ∃ bondAmount, new = { old with bondAmount } := by
  simp only [slashBond, toBigInt] at changed
  cases isCurrent : BigInt.parse old.bondAmount with
  | none => simp [isCurrent, bind, Except.bind] at changed
  | some current =>
    cases isSlash : BigInt.parse slashAmount with
    | none => simp [isCurrent, isSlash, bind, Except.bind] at changed
    | some slash =>
      simp only [isCurrent, isSlash, bind, Except.bind, Except.ok.injEq] at changed
      exact ⟨_, changed.symm⟩

theorem RecordRequest.change_address {request : RecordRequest} {now : Nat}
    (changed : request.change now old = .ok new) : new.address = old.address := by
  cases request with
  | solverSlashed event =>
    obtain ⟨_, rfl⟩ := slashBond_ok now changed
    rfl
  | recordSuccessfulFill | recordFailedFill | rollbackPenalty =>
    cases changed
    rfl

/-- What program `pid` remembers. -/
def memoryIn (v : RecordView) (pid : Nat) : RecordMemory := recordMemory (past pid v.history)

variable {w : RecordWorld} {e : RecordEvent}

theorem memoryIn_own {v pid} (own : e.actor.pid = pid) :
    memoryIn (v.after e w) pid = (memoryIn v pid).observe ⟨e.call, e.reply⟩ := by
  rw [memoryIn, past_own own]
  rfl

theorem memoryIn_other {v pid} (other : e.actor.pid ≠ pid) : memoryIn (v.after e w) pid = memoryIn v pid := by
  rw [memoryIn, past_other other]
  rfl

/-- A solver is registered and its record has property `P`, now and whenever a call read it. -/
structure Registered (address : String) (P : SolverRecord → Prop) (v : RecordView) : Prop where
  stored : ∃ solver, v.world.solvers.get address = some solver ∧ P solver
  found : ∀ pid, (memoryIn v pid).missing ≠ some address
  read : ∀ pid old, (memoryIn v pid).read = some old →
    (memoryIn v pid).asked = some old.address ∧ (old.address = address → P old)

section Registered

variable {address : String} {P : SolverRecord → Prop} {v v' : RecordView} {e : RecordEvent}
  {E : Setting RecordReply RecordWorld RecordRequest}

variable {w : RecordWorld}

theorem Registered.start {solver} (registered : w.solvers.get address = some solver) (holds : P solver) :
    Registered address P ⟨w, []⟩ where
  stored := ⟨solver, registered, holds⟩
  found _ := nofun
  read _ _ := nofun

theorem Registered.drift {elapsed} (held : Registered address P v)
    (drifted : recordService.drift elapsed v.world = some w) : Registered address P { v with world := w } := by
  cases drifted
  exact { held with }

variable {choice : RecordChoice} {w' : RecordWorld}

theorem solvers_after {call reply} (performed : recordService.perform call choice w = some (reply, w')) :
    w'.solvers = w.solvers ∨ ∃ solver, call = .save solver ∧ w'.solvers = w.solvers.save solver := by
  cases call with
  | save solver =>
    cases choice with
    | mk fault =>
      cases fault with
      | none =>
        cases performed
        exact .inr ⟨solver, rfl, rfl⟩
      | some message =>
        cases performed
        exact .inl rfl
  | now | findByAddress | invalidate | penalty | setPenalty =>
    cases performed
    exact .inl rfl

theorem findByAddress_ok {found}
    (performed : recordService.perform (.findByAddress address) choice w = some (.ok found, w')) :
    w.solvers.get address = found := by
  cases choice with
  | mk fault =>
    cases fault with
    | some message => simp [recordService, RecordWorld.perform, RecordChoice.answer] at performed
    | none =>
      cases performed
      rfl

/-- The changes of the requests keep the property, so every write does. -/
theorem Registered.step (held : Registered address P v) (allowed : Run.Allowed recordService E recordDiscipline v e v')
    (kept : ∀ now old new, P old → e.actor.request.change now old = .ok new → P new) :
    Registered address P v' := by
  obtain ⟨choice, w, performed, rfl⟩ := allowed.performed
  have rule : e.actor.request.Rule (memoryIn v e.actor.pid) e.call := allowed.allowed
  have memories : ∀ pid, memoryIn (v.after e w) pid = memoryIn v pid ∨ e.actor.pid = pid ∧
      memoryIn (v.after e w) pid = (memoryIn v pid).observe ⟨e.call, e.reply⟩ := by
    intro pid
    by_cases own : e.actor.pid = pid
    · exact .inr ⟨own, memoryIn_own own⟩
    · exact .inl (memoryIn_other own)
  obtain ⟨actor, call, reply⟩ := e
  refine ⟨?_, fun pid => ?_, fun pid old => ?_⟩
  · rcases solvers_after performed with same | ⟨new, rfl, saved⟩
    · rw [View.after_world, same]
      exact held.stored
    · obtain ⟨_, _, old, now, _, _, isRead, changed⟩ := rule
      rw [View.after_world, saved]
      obtain ⟨solver, isStored, holds⟩ := held.stored
      by_cases here : address = new.address
      · refine ⟨new, by rw [SolverStore.get_save, if_pos here], kept now old new ?_ changed⟩
        exact (held.read actor.pid old isRead).2 ((RecordRequest.change_address changed).symm.trans here.symm)
      · exact ⟨solver, by rw [SolverStore.get_save, if_neg here]; exact isStored, holds⟩
  · rcases memories pid with same | ⟨rfl, after⟩
    · rw [same]
      exact held.found pid
    · rw [after]
      cases call with
      | findByAddress asked =>
        obtain ⟨solver, isStored, _⟩ := held.stored
        rcases reply with message | _ | found
        · exact held.found _
        · rintro ⟨⟩
          rw [findByAddress_ok performed] at isStored
          cases isStored
        · exact held.found _
      | save => cases reply <;> exact held.found _
      | now | invalidate | penalty | setPenalty => exact held.found _
  · rcases memories pid with same | ⟨rfl, after⟩
    · rw [same]
      exact held.read pid old
    · rw [after]
      cases call with
      | findByAddress asked =>
        rcases reply with message | _ | found
        · exact held.read _ old
        · exact held.read _ old
        · rintro ⟨⟩
          have isStored := findByAddress_ok performed
          have isAsked := v.world.solvers.keyed asked old isStored
          refine ⟨congrArg some isAsked.symm, ?_⟩
          rintro rfl
          obtain ⟨solver, isSolver, holds⟩ := held.stored
          rw [isAsked, isStored] at isSolver
          cases isSolver
          exact holds
      | save => cases reply <;> exact held.read _ old
      | now | invalidate | penalty | setPenalty => exact held.read _ old

end Registered

end VortexBackend
