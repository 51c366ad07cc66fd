/-
Module: VortexBackend.Proofs.LandedSlash
Purpose: A slash that succeeds on the chain is neither cancelled nor compensated, if workers do not interfere.
Trusted boundary: a transaction that is reported as failed does not succeed
Main exports: landed_slash_kept
-/
import VortexBackend.Proofs.SlashingSaga

namespace VortexBackend

open SlashingPipeline SlashStore PipelineMemory

/-! ### The condition -/

/-- The submission of the row is longer ago than the grace period. -/
def PendingSlash.isOverdue (row : PendingSlash) (now : Nat) : Bool :=
  row.submittedAt.all fun at' => SUBMIT_NOT_FOUND_GRACE_SECONDS * 1000 < now - at'

variable (succeeds : String → Bool)

/-- The condition on one call, for the transactions that succeed: none of them is reported as failed, or as not found
    after the grace period; no store fails under a worker that holds a submitted slash; and a worker that writes
    a row finds it in the state and with the transaction in which it saw the row last. -/
def chainDecides (v : BackendView) (e : BackendEvent) (_ : BackendWorld) : Bool :=
  match e with
  | ⟨_, .external (.checkTx txHash), .ok .failed⟩ => !succeeds txHash
  | ⟨actor, .external (.checkTx txHash), .ok .notFound⟩ =>
    !succeeds txHash || (v.recalls actor.pid).last.all fun row =>
      row.txHash != some txHash || !row.isOverdue (v.recalls actor.pid).time
  | ⟨actor, .external .storeAnswer, .error _⟩ => (v.recalls actor.pid).last.all (·.state != .submitted)
  | ⟨actor, .slashes (.transition id ..), _⟩ =>
    (v.recalls actor.pid).last.all fun row => row.intentId != id ||
      (v.world.slashes.get id).all fun stored => stored.state == row.state && stored.txHash == row.txHash
  | _ => true

/-- The chain has decided, or will decide, for the slash. -/
def PendingSlash.isFinal (row : PendingSlash) : Prop := row.state = .submitted ∨ row.state = .confirmed

/-- The stored slashes whose transaction succeeds are submitted or confirmed. -/
def Landed (w : BackendWorld) : Prop :=
  ∀ id row txHash, w.slashes.get id = some row → row.txHash = some txHash → succeeds txHash = true → row.isFinal

def landingSetting (meets : BackendView → BackendEvent → BackendWorld → Bool) : BackendSetting where
  initial := Landed succeeds
  admits := (slashingSetting meets).admits
  meets

/-! ### One write -/

variable {row : PendingSlash}

section Write

variable {succeeds : String → Bool} {m : PipelineMemory} {id : String} {«from» : List PendingSlashState}
  {patch : PendingSlashPatch} {before : PendingSlash}

/-- What a program knows when it writes the row of an intent: the rows it holds are as stored, and what the chain said
    of their transactions is right. -/
structure UpToDate (succeeds : String → Bool) (m : PipelineMemory) (id : String) (before : PendingSlash) : Prop where
  fits : m.fits
  careful : m.careful
  current : ∀ row ∈ m.last, row.intentId = id → before.state = row.state ∧ before.txHash = row.txHash
  failed : ∀ txHash, m.checked = some (txHash, .failed) → succeeds txHash = false
  notFound : ∀ txHash, m.checked = some (txHash, .notFound) → succeeds txHash = true →
    ∀ row ∈ m.last, row.txHash = some txHash → row.isOverdue m.time = false

variable {txHash : String}

theorem UpToDate.dropped (upToDate : UpToDate succeeds m id before) (isLast : row ∈ m.last)
    (hash : row.txHash = some txHash) (dropped : Dropped m row txHash) : succeeds txHash = false := by
  rcases dropped with failed | ⟨notFound, old⟩
  · exact upToDate.failed txHash failed
  · apply Bool.eq_false_iff.mpr
    intro isSuccess
    have young := upToDate.notFound txHash notFound isSuccess row isLast hash
    rw [PendingSlash.isOverdue, old] at young
    cases young

section

variable (write : SagaWrite m id «from» patch) (upToDate : UpToDate succeeds m id before)
  (isFrom : before.state ∈ «from»)
  (landed : ∀ txHash, before.txHash = some txHash → succeeds txHash = true → before.isFinal)
include write upToDate isFrom landed

/-- A write of a slash whose transaction succeeds leaves the transaction alone, and the state unless it confirms it. -/
theorem SagaWrite.spares (hash : before.txHash = some txHash) (isSuccess : succeeds txHash = true) :
    (patch.state = none ∨ patch.state = some .confirmed) ∧ patch.txHash = none := by
  have final := landed txHash hash isSuccess
  -- A slash before its submission has no transaction that succeeds.
  have early {state : PendingSlashState} (isState : before.state = state)
      (notFinal : state ≠ .submitted ∧ state ≠ .confirmed) : False := by
    rw [PendingSlash.isFinal, isState] at final
    rcases final with submitted | confirmed
    · exact notFinal.1 submitted
    · exact notFinal.2 confirmed
  cases write with
  | cancelled slash reason actor extra clock =>
    rcases List.mem_pair.mp isFrom with detected | inWindow
    · exact (early detected (by decide)).elim
    · exact (early inWindow (by decide)).elim
  | gaveUp slash extra clock calm =>
    rcases List.mem_pair.mp isFrom with inWindow | submitted
    · exact (early inWindow (by decide)).elim
    · obtain ⟨row, isLast, isId, notSubmitted⟩ := calm upToDate.fits upToDate.careful
      have sameState := (upToDate.current row isLast isId).1
      exact absurd (sameState.symm.trans submitted) notSubmitted
  | opened | recorded | paused => exact (early (List.mem_singleton.mp isFrom) (by decide)).elim
  | reopened row dropped' isLast isId isHash dropped =>
    have sameHash := (upToDate.current row isLast isId).2
    have isSame : some txHash = some dropped' := hash.symm.trans (sameHash.trans isHash)
    cases isSame
    rw [upToDate.dropped isLast isHash dropped] at isSuccess
    cases isSuccess
  | confirmed => exact ⟨.inr rfl, rfl⟩
  | retried | touched => exact ⟨.inl rfl, rfl⟩

theorem SagaWrite.keeps_final (hash : before.txHash = some txHash) (isSuccess : succeeds txHash = true) (clock : Nat) :
    (before.assign patch clock).txHash = some txHash ∧ (before.assign patch clock).isFinal := by
  obtain ⟨states, sameHash⟩ := write.spares upToDate isFrom landed hash isSuccess
  have final := landed txHash hash isSuccess
  simp only [PendingSlash.assign, PendingSlash.isFinal, sameHash, Option.getD_none, hash, true_and]
  rcases states with same | confirmed
  · rw [same]
    exact final
  · rw [confirmed]
    exact .inr rfl

theorem SagaWrite.lands {clock} (hash : (before.assign patch clock).txHash = some txHash)
    (isSuccess : succeeds txHash = true) : (before.assign patch clock).isFinal := by
  by_cases earlier : before.txHash = some txHash
  · exact (write.keeps_final upToDate isFrom landed earlier isSuccess clock).2
  · cases write with
    | recorded => exact .inl rfl
    | reopened => cases hash
    | _ => exact absurd hash earlier

end

end Write

/-! ### The invariant -/

/-- The workers were careful, the stored slashes whose transaction succeeds are submitted or confirmed, and what the
    chain told a program about the transaction of a row that it holds is right. -/
structure LandedKept (succeeds : String → Bool) (v : BackendView) : Prop extends PipelineKept v where
  careful : ∀ pid, (v.recalls pid).careful
  landed : Landed succeeds v.world
  failed : ∀ pid txHash, (v.recalls pid).checked = some (txHash, .failed) → succeeds txHash = false
  notFound : ∀ pid txHash, (v.recalls pid).checked = some (txHash, .notFound) → succeeds txHash = true →
    ∀ row ∈ (v.recalls pid).last, row.txHash = some txHash → row.isOverdue (v.recalls pid).time = false

/-- What the chain said is remembered from this call, or from before it, with the same row held at the same time. -/
theorem PipelineMemory.checked_observe {m : PipelineMemory} {x : BackendExchange} {answer : String × TxCheckStatus}
    (checked : (m.observe x).checked = some answer) :
    x = ⟨.external (.checkTx answer.1), .ok answer.2⟩ ∨
      m.checked = some answer ∧ (m.observe x).last = m.last ∧ (m.observe x).time = m.time := by
  obtain ⟨call, reply⟩ := x
  cases call with
  | slashes c =>
    cases c with
    | findDue => cases checked
    | claim =>
      cases reply with
      | false => exact .inr ⟨checked, rfl, rfl⟩
      | true => cases checked
    | transition =>
      cases reply with
      | none => exact .inr ⟨checked, rfl, rfl⟩
      | some row => cases checked
    | _ => exact .inr ⟨checked, rfl, rfl⟩
  | external c =>
    cases c with
    | checkTx txHash =>
      cases reply with
      | ok status =>
        cases checked
        exact .inl rfl
      | error => cases checked
    | storeAnswer => cases reply <;> exact .inr ⟨checked, rfl, rfl⟩
    | _ => exact .inr ⟨checked, rfl, rfl⟩
  | solvers c => cases c <;> exact .inr ⟨checked, rfl, rfl⟩
  | intents c =>
    cases c with
    | findById | transitionIf =>
      simp only [observe] at checked ⊢
      split at checked
      · rename_i isCase
        rw [if_pos isCase]
        exact .inr ⟨checked, rfl, rfl⟩
      · rename_i isCase
        rw [if_neg isCase]
        exact .inr ⟨checked, rfl, rfl⟩
    | _ => exact .inr ⟨checked, rfl, rfl⟩
  | _ => exact .inr ⟨checked, rfl, rfl⟩

variable {w : BackendWorld}

namespace LandedKept

variable {cfg : BackendSettings} {succeeds : String → Bool} {v : BackendView} {e : BackendEvent} {w : BackendWorld}
  {choice : BackendChoice}

theorem initial (landed : Landed succeeds w) : LandedKept succeeds ⟨w, []⟩ where
  toPipelineKept := .initial w
  careful _ := trivial
  landed := landed
  failed _ _ checked := nomatch checked
  notFound _ _ checked := nomatch checked

theorem drift {d} (kept : LandedKept succeeds v) (h : BackendWorld.drift d v.world = some w) :
    LandedKept succeeds { v with world := w } where
  __ := kept
  toPipelineKept := kept.toPipelineKept.drift h
  landed id row txHash present := kept.landed id row txHash (slashes_drift h ▸ present)

theorem careful_step (kept : LandedKept succeeds v) (met : chainDecides succeeds v e w = true) :
    ((v.recalls e.actor.pid).observe ⟨e.call, e.reply⟩).careful := by
  obtain ⟨actor, call, reply⟩ := e
  have careful := kept.careful actor.pid
  cases call with
  | slashes c =>
    cases c with
    | claim | transition => cases reply <;> exact careful
    | _ => exact careful
  | external c =>
    cases c with
    | storeAnswer =>
      cases reply with
      | ok => exact careful
      | error =>
        refine ⟨careful, fun row isLast => ?_⟩
        simpa using List.all_eq_true.mp met row isLast
    | _ => exact careful
  | solvers c => cases c <;> exact careful
  | intents c =>
    cases c with
    | findById | transitionIf =>
      simp only [PipelineMemory.observe]
      split <;> exact careful
    | _ => exact careful
  | _ => exact careful

variable {txHash : String}

section

variable (kept : LandedKept succeeds v)
include kept

theorem failed_step (met : chainDecides succeeds v e w = true)
    (checked : ((v.recalls e.actor.pid).observe ⟨e.call, e.reply⟩).checked = some (txHash, .failed)) :
    succeeds txHash = false := by
  obtain ⟨actor, call, reply⟩ := e
  rcases checked_observe checked with isCheck | ⟨earlier, _, _⟩
  · cases isCheck
    simpa [chainDecides] using met
  · exact kept.failed actor.pid txHash earlier

theorem notFound_step (met : chainDecides succeeds v e w = true) (isSuccess : succeeds txHash = true)
    (checked : ((v.recalls e.actor.pid).observe ⟨e.call, e.reply⟩).checked = some (txHash, .notFound))
    (isLast : row ∈ ((v.recalls e.actor.pid).observe ⟨e.call, e.reply⟩).last) (hash : row.txHash = some txHash) :
    row.isOverdue ((v.recalls e.actor.pid).observe ⟨e.call, e.reply⟩).time = false := by
  obtain ⟨actor, call, reply⟩ := e
  rcases checked_observe checked with isCheck | ⟨earlier, sameLast, sameTime⟩
  · cases isCheck
    simp only [chainDecides, isSuccess, Bool.not_true, Bool.false_or] at met
    have young : row.isOverdue (v.recalls actor.pid).time = false := by
      simpa [hash] using List.all_eq_true.mp met row isLast
    exact young
  · rw [sameLast] at isLast
    rw [sameTime]
    exact kept.notFound actor.pid txHash earlier isSuccess row isLast hash

theorem upToDate {actor id «from» patch now result}
    (met : chainDecides succeeds v ⟨actor, .slashes (.transition id «from» patch now), result⟩ w = true) {before}
    (present : v.world.slashes.get id = some before) : UpToDate succeeds (v.recalls actor.pid) id before where
  fits := kept.fits actor.pid
  careful := kept.careful actor.pid
  current := by
    intro row isLast isId
    have isCurrent := List.all_eq_true.mp met row isLast
    simpa [isId, present] using isCurrent
  failed := kept.failed actor.pid
  notFound := kept.notFound actor.pid

section

variable (allowed : PipelineCall cfg (v.recalls e.actor.pid) e.call) (met : chainDecides succeeds v e w = true)
  (performed : BackendWorld.perform e.call choice v.world = some (e.reply, w))
include allowed met performed

theorem final_step {id} (present : v.world.slashes.get id = some row) (hash : row.txHash = some txHash)
    (isSuccess : succeeds txHash = true) :
    ∃ row', w.slashes.get id = some row' ∧ row'.txHash = some txHash ∧ row'.isFinal := by
  have final := kept.landed id row txHash present hash isSuccess
  obtain ⟨row', present', _, same | ⟨«from», patch, now, isCall, isFrom, rfl⟩⟩ :=
    perform_slash_after performed present
  · refine ⟨row', present', same.2.trans hash, ?_⟩
    rwa [PendingSlash.isFinal, same.1]
  · obtain ⟨actor, call, reply⟩ := e
    cases isCall
    obtain ⟨sameHash, isFinal⟩ := (allowed.2 (kept.fits actor.pid)).keeps_final (kept.upToDate met present) isFrom
      (fun txHash => kept.landed _ _ txHash present) hash isSuccess v.world.clock
    exact ⟨_, present', sameHash, isFinal⟩

theorem landed_step : Landed succeeds w := by
  intro id row txHash present hash isSuccess
  rcases perform_slash_write performed with ⟨same, _⟩ | ⟨written, write, isPut⟩
  · exact kept.landed id row txHash (same ▸ present) hash isSuccess
  · rw [isPut, get_put] at present
    split at present
    · cases present
      obtain ⟨actor, call, reply⟩ := e
      cases write with
      | created _ _ _ noHash =>
        rw [noHash] at hash
        cases hash
      | @claimed id' now leaseUntil before found => exact kept.landed id' before txHash found hash isSuccess
      | moved found isFrom =>
        exact (allowed.2 (kept.fits actor.pid)).lands (kept.upToDate met found) isFrom
          (fun txHash => kept.landed _ _ txHash found) hash isSuccess
    · exact kept.landed id row txHash present hash isSuccess

/-- Every call of the pipeline that meets the condition keeps the invariant. -/
theorem step : LandedKept succeeds (v.after e w) := by
  constructor
  · exact kept.toPipelineKept.step allowed performed
  · intro pid
    by_cases own : e.actor.pid = pid
    · subst own
      rw [recalls_own rfl]
      exact kept.careful_step met
    · rw [recalls_other own]
      exact kept.careful pid
  · exact kept.landed_step allowed met performed
  · intro pid txHash checked
    by_cases own : e.actor.pid = pid
    · subst own
      rw [recalls_own rfl] at checked
      exact kept.failed_step met checked
    · rw [recalls_other own] at checked
      exact kept.failed pid txHash checked
  · intro pid txHash checked isSuccess row isLast hash
    by_cases own : e.actor.pid = pid
    · subst own
      rw [recalls_own rfl] at checked isLast ⊢
      exact kept.notFound_step met isSuccess checked isLast hash
    · rw [recalls_other own] at checked isLast ⊢
      exact kept.notFound pid txHash checked isSuccess row isLast hash

end

end

end LandedKept

/-! ### Whole runs -/

/-- The transaction that is recorded on the slash of an intent. -/
def recordedTx (w : BackendWorld) (id : String) : Option String := (w.slashes.get id).bind (·.txHash)

/-- The slash of the intent has the transaction, and the chain decides. -/
def FinalWith (w : BackendWorld) (id txHash : String) : Prop :=
  ∃ row, w.slashes.get id = some row ∧ row.txHash = some txHash ∧ row.isFinal

/-- The step begins to roll back the penalty of the slash. -/
def rollsBack (id : String) (t : BackendTransition) : Bool :=
  match t.event with
  | some ⟨_, .solvers (.penalty id'), _⟩ => id' == id
  | _ => false

/-- What is known at the end of a run: whichever transaction that succeeds was recorded on a slash still is, and
    whichever slash was rolled back is cancelled. -/
structure Decided (succeeds : String → Bool) (ts : List BackendTransition) (c : BackendConfig) : Prop where
  kept : LandedKept succeeds c.view
  recorded : ∀ t ∈ ts, ∀ id txHash, recordedTx t.before.world id = some txHash → succeeds txHash = true →
    FinalWith c.world id txHash
  rolledBack : ∀ t ∈ ts, ∀ id, rollsBack id t = true →
    ∃ row, c.world.slashes.get id = some row ∧ row.state = .cancelled

namespace Decided

variable {cfg : BackendSettings} {succeeds : String → Bool} {ts : List BackendTransition} {t : BackendTransition}
  {e : BackendEvent}

theorem final_of_recorded {v} (kept : LandedKept succeeds v) {id txHash}
    (recorded : recordedTx v.world id = some txHash) (isSuccess : succeeds txHash = true) :
    FinalWith v.world id txHash := by
  obtain ⟨row, present, hash⟩ := Option.bind_eq_some_iff.mp recorded
  exact ⟨row, present, hash, kept.landed id row txHash present hash isSuccess⟩

theorem quiet (decided : Decided succeeds ts t.before) (noCall : t.event = none)
    (history : t.after.history = t.before.history)
    (moved : t.after.world = t.before.world ∨ ∃ d, BackendWorld.drift d t.before.world = some t.after.world) :
    Decided succeeds (t :: ts) t.after := by
  have slashes : t.after.world.slashes = t.before.world.slashes := by
    rcases moved with same | ⟨d, drifted⟩
    · rw [same]
    · exact slashes_drift drifted
  have after : t.after.view = { t.before.view with world := t.after.world } := by
    simp only [Config.view, history]
  have final {id txHash : String} (h : FinalWith t.before.world id txHash) : FinalWith t.after.world id txHash := by
    rw [FinalWith, slashes]
    exact h
  constructor
  · rw [after]
    rcases moved with same | ⟨d, drifted⟩
    · rw [same]
      exact decided.kept
    · exact decided.kept.drift drifted
  · intro t' member id txHash recorded isSuccess
    rcases List.mem_cons.mp member with rfl | earlier
    · exact final (final_of_recorded decided.kept recorded isSuccess)
    · exact final (decided.recorded t' earlier id txHash recorded isSuccess)
  · intro t' member id rollsBack'
    rcases List.mem_cons.mp member with rfl | earlier
    · rw [rollsBack, noCall] at rollsBack'
      cases rollsBack'
    · rw [slashes]
      exact decided.rolledBack t' earlier id rollsBack'

theorem call {choice} (decided : Decided succeeds ts t.before) (isEvent : t.event = some e)
    (allowed : PipelineCall cfg (BackendView.recalls t.before.view e.actor.pid) e.call)
    (met : chainDecides succeeds t.before.view e w = true)
    (performed : BackendWorld.perform e.call choice t.before.world = some (e.reply, w))
    (isAfter : t.after.view = t.before.view.after e w) : Decided succeeds (t :: ts) t.after := by
  have isWorld : t.after.world = w := congrArg View.world isAfter
  have final {id txHash : String} (isSuccess : succeeds txHash = true)
      (h : FinalWith t.before.world id txHash) : FinalWith t.after.world id txHash := by
    obtain ⟨row, present, hash, _⟩ := h
    rw [FinalWith, isWorld]
    exact decided.kept.final_step allowed met performed present hash isSuccess
  have cancelled {id : String} (h : ∃ row, t.before.world.slashes.get id = some row ∧ row.state = .cancelled) :
      ∃ row, t.after.world.slashes.get id = some row ∧ row.state = .cancelled := by
    obtain ⟨row, present, isCancelled⟩ := h
    rw [isWorld]
    exact decided.kept.keeps_cancelled allowed performed present isCancelled
  constructor
  · rw [isAfter]
    exact decided.kept.step allowed met performed
  · intro t' member id txHash recorded isSuccess
    rcases List.mem_cons.mp member with rfl | earlier
    · exact final isSuccess (final_of_recorded decided.kept recorded isSuccess)
    · exact final isSuccess (decided.recorded t' earlier id txHash recorded isSuccess)
  · intro t' member id rollsBack'
    apply cancelled
    rcases List.mem_cons.mp member with rfl | earlier
    · rw [rollsBack, isEvent] at rollsBack'
      obtain ⟨actor, call, reply⟩ := e
      split at rollsBack'
      · rename_i isPenalty
        cases isPenalty
        cases beq_iff_eq.mp rollsBack'
        exact decided.kept.won actor.pid id (mem_won allowed)
      · cases rollsBack'
    · exact decided.rolledBack t' earlier id rollsBack'

end Decided

/-- In every run that meets the condition: a slash on which a transaction that succeeds was recorded still has it and is
    submitted or confirmed, and no step of the run rolls back its penalty. -/
theorem landed_slash_kept {cfg : BackendSettings} {succeeds : String → Bool} {ts : List BackendTransition}
    {c : BackendConfig} {id txHash : String}
    (run : Run (backendService cfg) (landingSetting succeeds (chainDecides succeeds)) ts c)
    (isSuccess : succeeds txHash = true)
    (recorded : recordedTx c.world id = some txHash ∨ ∃ t ∈ ts, recordedTx t.before.world id = some txHash) :
    FinalWith c.world id txHash ∧ ∀ t ∈ ts, rollsBack id t = false := by
  have followed : (pipelineDiscipline cfg).Followed (backendService cfg)
      (landingSetting succeeds (chainDecides succeeds)) := pipeline_followed cfg (chainDecides succeeds)
  have decided : Decided succeeds ts c := by
    refine Run.induct (P := Decided succeeds) followed ?_ ?_ ?_ run
    · intro w landed
      exact ⟨.initial landed, fun _ member => (nomatch member), fun _ member => (nomatch member)⟩
    · exact fun ts t decided noCall history moved => decided.quiet noCall history moved
    · intro ts t e decided isEvent allowed
      obtain ⟨⟨⟨choice, w, performed, isAfter⟩, met⟩, allowed, _⟩ := allowed
      have met : chainDecides succeeds t.before.view e w = true := by
        rw [isAfter] at met
        exact met
      exact decided.call isEvent allowed met performed isAfter
  have final : FinalWith c.world id txHash := by
    rcases recorded with now | ⟨t, member, earlier⟩
    · exact Decided.final_of_recorded decided.kept now isSuccess
    · exact decided.recorded t member id txHash earlier isSuccess
  refine ⟨final, fun t member => Bool.eq_false_iff.mpr fun isRollback => ?_⟩
  obtain ⟨row, present, _, landed⟩ := final
  obtain ⟨row', present', cancelled⟩ := decided.rolledBack t member id isRollback
  cases present.symm.trans present'
  rw [PendingSlash.isFinal, cancelled] at landed
  rcases landed with submitted | confirmed
  · cases submitted
  · cases confirmed

/-! ### Runs on fixed inputs -/

/-- The transaction that succeeds. -/
private def onlyT (txHash : String) : Bool := txHash == "T"

/-- The moves of a pass that takes the lease of a due slash and submits it as transaction `T`. -/
private def broadcastMoves (pid : Nat) : List BackendMove :=
  (List.replicate 9 (.act pid {}) : List BackendMove) ++
    ([.act pid { solver := some ⟨true, none⟩ }, .act pid { slash := ⟨true, false, some "T", "" ⟩ }] :
      List BackendMove) ++ (List.replicate 5 (.act pid {}) : List BackendMove)

theorem dueWorld_landed : Landed onlyT dueWorld := by
  intro id row txHash present hash
  rw [dueWorld, get_put] at present
  split at present <;> cases present
  cases hash

/-- A slash is submitted by one pass and confirmed by the next. -/
theorem confirmed_slash_kept :
    ∃ ts c, Run (backendService {}) (landingSetting onlyT (chainDecides onlyT)) ts c ∧
      (∃ row, c.world.slashes.get "I" = some row ∧ row.state = .confirmed) ∧
      FinalWith c.world "I" "T" ∧ ∀ t ∈ ts, rollsBack "I" t = false := by
  obtain ⟨ts, c, run, last⟩ := Run.exists_of_trace (backendService {}) (landingSetting onlyT (chainDecides onlyT))
    dueWorld (List.flatten [.arrive (.processDue 0) :: broadcastMoves 0,
      .arrive (.processDue 0) :: List.replicate 14 (.act 1 {})])
    (fun _ c => (c.world.slashes.get "I").any (·.state == .confirmed) && recordedTx c.world "I" == some "T")
    dueWorld_landed (by simp [broadcastMoves, landingSetting, slashingSetting]) (by decide)
  simp only [Bool.and_eq_true, Option.any_eq_true, beq_iff_eq] at last
  exact ⟨ts, c, run, last.1, landed_slash_kept run rfl (.inl last.2)⟩

/-- The chain knows exactly the transactions that succeed. -/
private def truthful (_ : BackendView) (e : BackendEvent) (_ : BackendWorld) : Bool :=
  match e with
  | ⟨_, .external (.checkTx txHash), answer⟩ => decide (answer = .ok .success) == succeeds txHash
  | _ => true

/-- A submitted slash, after all but one of the attempts. -/
private def lastAttempt : BackendWorld where
  clock := 700000
  slashes := empty.put
    { intentId := "I", solverAddress := "S", reason := "late", state := .submitted, fillDeadline := 0, detectedAt := 0
      challengeEndsAt := 600000, attempts := 4, nextAttemptAt := 0, txHash := some "T", submittedAt := some 650000 }

theorem lastAttempt_landed : Landed onlyT lastAttempt := by
  intro id row txHash present _ _
  rw [lastAttempt, get_put] at present
  split at present <;> cases present
  exact .inl rfl

/-- Without the condition: the chain says that the transaction succeeded, the store fails when the worker writes this
    down, and the worker takes the failure for a failed attempt, cancels the slash and rolls the penalty back. -/
theorem landed_slash_cancelled :
    ∃ ts c, Run (backendService {}) (landingSetting onlyT (truthful onlyT)) ts c ∧
      (∃ t ∈ ts, recordedTx t.before.world "I" = some "T") ∧
      (∃ row, c.world.slashes.get "I" = some row ∧ row.state = .cancelled) ∧
        ∃ t ∈ ts, rollsBack "I" t = true := by
  obtain ⟨ts, c, run, last⟩ := Run.exists_of_trace (backendService {}) (landingSetting onlyT (truthful onlyT))
    lastAttempt (List.flatten [.arrive (.processDue 0) :: List.replicate 9 (.act 0 {}),
      .act 0 { throws := some (.other "store down" false) } :: List.replicate 5 (.act 0 {})])
    (fun ts c => ts.any (fun t => recordedTx t.before.world "I" == some "T") &&
      (c.world.slashes.get "I").any (·.state == .cancelled) && ts.any (rollsBack "I"))
    lastAttempt_landed (by simp [landingSetting, slashingSetting]) (by decide)
  simp only [Bool.and_eq_true, List.any_eq_true, Option.any_eq_true, beq_iff_eq] at last
  exact ⟨ts, c, run, last.1.1, last.1.2, last.2⟩

end VortexBackend
