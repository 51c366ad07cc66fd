/-
Module: VortexBackend.Proofs.SlashCancellation
Purpose: A cancelled slash is compensated and its miss taken back once, if no store fails in between.
Main exports: slash_cancellation_atomic
-/
import VortexBackend.Proofs.PipelineStore

namespace VortexBackend

open BackendView BackendWorld PipelineMemory SlashStore

/-! ### The condition and what is counted -/

/-- While a program compensates a cancelled slash: no store fails, the penalty of the slash is pending for its solver,
    or there is no entry and the slash names a solver, the solver is registered, and the counter that is written back
    is still the one that was read. -/
def compensationRuns (v : BackendView) (e : BackendEvent) (_ : BackendWorld) : Bool :=
  match e with
  | ⟨actor, .external .storeAnswer, .error _⟩ => !(v.recalls actor.pid).cancelling
  | ⟨_, .solvers (.penalty id), some entry⟩ =>
    entry.state == .pending && (v.world.slashes.get id).any (·.solverAddress == entry.solverAddress)
  | ⟨_, .solvers (.penalty id), none⟩ => (v.world.slashes.get id).any (·.solverAddress != "")
  | ⟨_, .solvers (.findByAddress _), solver⟩ => Option.isSome solver
  | ⟨actor, .solvers (.save address _), _⟩ =>
    v.world.solvers.fillsFailed.get address == (v.recalls actor.pid).count.map Prod.snd
  | _ => true

/-- No slash is cancelled yet. -/
def cancellationSetting (meets : BackendView → BackendEvent → BackendWorld → Bool) : BackendSetting where
  initial w := ∀ id row, w.slashes.get id = some row → row.state ≠ .cancelled
  admits := (slashingSetting meets).admits
  meets

/-- The intent for whose slash a step writes the counter of a solver: the one whose penalty the program looked up
    last. -/
def reversal (t : BackendTransition) : Option String :=
  match t.event with
  | some ⟨actor, .solvers (.save ..), _⟩ => (recalls t.before.view actor.pid).penalty.map Prod.fst
  | _ => none

/-- The step lowers the counter of the solver by one. -/
def Lowers (t : BackendTransition) (address : String) : Prop :=
  ∃ n, t.before.world.solvers.fillsFailed.get address = some n ∧
    t.after.world.solvers.fillsFailed.get address = some (n - 1)

/-- The intent is not slashed, as far as it is stored. -/
def Unslashed (w : BackendWorld) (id : String) : Prop :=
  ∀ intent, w.intents.get id = some intent → intent.state ≠ .slashed

/-! ### How far a program has come -/

/-- Whatever the program has cancelled is compensated, except what it is compensating now. -/
structure PipelineMemory.Progress (m : PipelineMemory) : Prop where
  reversed : ∀ id ∈ m.reversed, id ∈ m.won
  settled : m.fits → m.sound → ∀ id ∈ m.won, m.cancels ≠ some id →
    m.reversed.count id = 1 ∧ id ∈ m.compensated

variable {id : String}

namespace PipelineMemory.Progress

variable {cfg : BackendSettings} {m m' : PipelineMemory}

section

variable (progress : m.Progress)
include progress

theorem extend (won : m'.won = m.won) (reversed : m'.reversed = m.reversed) (cancels : m'.cancels = m.cancels)
    (compensated : ∀ id ∈ m.compensated, id ∈ m'.compensated) (fits : m'.fits → m.fits)
    (sound : m'.sound → m.sound) :
    m'.Progress := by
  constructor
  · rw [reversed, won]
    exact progress.reversed
  · intro isFit isSound id member other
    rw [won] at member
    rw [cancels] at other
    obtain ⟨once, isCompensated⟩ := progress.settled (fits isFit) (sound isSound) id member other
    exact ⟨reversed ▸ once, compensated id isCompensated⟩

theorem stop (settled : m.Settled) (won : m'.won = m.won) (reversed : m'.reversed = m.reversed)
    (compensated : m'.compensated = m.compensated) (fits : m'.fits → m.fits) (sound : m'.sound → m.sound) :
    m'.Progress := by
  constructor
  · rw [reversed, won]
    exact progress.reversed
  · intro isFit isSound id member _
    rw [reversed, compensated]
    exact settled (fits isFit) (sound isSound) id (won ▸ member)

theorem begin (settled : m.Settled) {«from» patch row} (cancels : patch.state = some .cancelled) :
    (m.moved id «from» patch row).Progress := by
  have won : (m.moved id «from» patch row).won = id :: m.won := if_pos cancels
  have now : (m.moved id «from» patch row).cancels = some id := by
    simp [PipelineMemory.cancels, PipelineMemory.moved, cancels]
  constructor
  · intro other member
    rw [won]
    exact .tail _ (progress.reversed other member)
  · intro fits sound other member different
    rw [won] at member
    rw [now] at different
    rcases List.mem_cons.mp member with rfl | earlier
    · exact absurd rfl different
    · exact settled fits.1 sound other earlier

theorem reverse {entry} (penalty : m.penalty = some (id, entry)) (cancels : m.cancels = some id) :
    PipelineMemory.Progress { m with reversed := (m.penalty.map Prod.fst).toList ++ m.reversed } := by
  rw [penalty]
  constructor
  · exact List.forall_mem_cons.mpr ⟨mem_won cancels, progress.reversed⟩
  · intro fits sound other member different
    have isOther : id ≠ other := by
      rintro rfl
      exact different cancels
    obtain ⟨once, compensated⟩ := progress.settled fits sound other member different
    exact ⟨(List.count_cons_of_ne isOther).trans once, compensated⟩

theorem observe {call} (allowed : PipelineCall cfg m call) (reply : BackendReply call) :
    (m.observe ⟨call, reply⟩).Progress := by
  cases call with
  | slashes c =>
    cases c with
    | claim =>
      cases reply with
      | false => exact progress
      | true => exact progress.stop allowed rfl rfl rfl id id
    | transition id «from» patch now =>
      cases reply with
      | none => exact progress
      | some row =>
        by_cases cancels : patch.state = some .cancelled
        · exact progress.begin allowed.1 cancels
        · have won : (m.moved id «from» patch row).won = m.won := if_neg cancels
          exact progress.stop allowed.1 won rfl rfl And.left fun sound => sound
    | findDue | findByIntent => exact progress.extend rfl rfl rfl (fun _ h => h) id id
    | createIfAbsent => exact progress
  | external c =>
    cases c with
    | storeAnswer =>
      cases reply with
      | ok => exact progress
      | error => exact progress.extend rfl rfl rfl (fun _ h => h) id And.left
    | broadcast => exact progress.stop allowed rfl rfl rfl id id
    | findLandedFill | checkTx => exact progress.extend rfl rfl rfl (fun _ h => h) id id
    | _ => exact progress
  | solvers c =>
    cases c with
    | save address fillsFailed =>
      obtain ⟨id, entry, read, penalty, cancels, _⟩ := allowed
      exact progress.reverse penalty cancels
    | findByAddress | penalty => exact progress.extend rfl rfl rfl (fun _ h => h) id And.left
    | setPenalty => exact progress
  | intents c =>
    cases c with
    | findById =>
      simp only [PipelineMemory.observe]
      split
      · exact progress
      · exact progress.extend rfl rfl rfl (fun _ h => .tail _ h) id id
    | transitionIf =>
      simp only [PipelineMemory.observe]
      split
      · exact progress.extend rfl rfl rfl (fun _ h => .tail _ h) id id
      · exact progress
    | _ => exact progress
  | _ => exact progress

end

end PipelineMemory.Progress

/-! ### What is remembered of one call -/

section Observe

variable {cfg : BackendSettings} {m : PipelineMemory} {x : BackendExchange} {id : String}

theorem PipelineMemory.won_observe (isWon : id ∈ m.won) : id ∈ (m.observe x).won := by
  cases m.observe_cases x with
  | nothing same =>
    rw [same.won]
    exact isWon
  | listed | found | leased => exact isWon
  | moved id' «from» patch now row =>
    change id ∈ (if patch.state = some .cancelled then id' :: m.won else m.won)
    split
    · exact .tail _ isWon
    · exact isWon

/-- The intent for which the call writes a counter. -/
def PipelineMemory.reverses (m : PipelineMemory) : BackendCall → Option String
  | .solvers (.save ..) => m.penalty.map Prod.fst
  | _ => none

theorem PipelineMemory.reversed_observe (m : PipelineMemory) (call : BackendCall) (reply : BackendReply call) :
    (m.observe ⟨call, reply⟩).reversed = (m.reverses call).toList ++ m.reversed := by
  cases call with
  | slashes c =>
    cases c with
    | claim | transition => cases reply <;> rfl
    | _ => rfl
  | external c =>
    cases c with
    | storeAnswer => cases reply <;> rfl
    | _ => rfl
  | solvers c => cases c <;> rfl
  | intents c =>
    cases c with
    | findById | transitionIf =>
      simp only [observe]
      split <;> rfl
    | _ => rfl
  | _ => rfl

theorem PipelineMemory.won_of_reverses {call} (allowed : PipelineCall cfg m call)
    (reverses : m.reverses call = some id) :
    id ∈ m.won := by
  cases call with
  | solvers c =>
    cases c with
    | save address fillsFailed =>
      obtain ⟨id', entry, read, penalty, cancels, _⟩ := allowed
      rw [PipelineMemory.reverses, penalty] at reverses
      cases reverses
      exact PipelineMemory.mem_won cancels
    | _ => cases reverses
  | _ => cases reverses

theorem recalls_won {v : BackendView} {e : BackendEvent} {w : BackendWorld} {pid : Nat}
    (isWon : id ∈ (v.recalls pid).won) : id ∈ (recalls (v.after e w) pid).won := by
  by_cases own : e.actor.pid = pid
  · rw [recalls_own own]
    exact won_observe isWon
  · rw [recalls_other own]
    exact isWon

end Observe

/-! ### The invariant -/

/-- The stores as the programs know them: nothing has gone wrong during a compensation, an entry that was looked up
    names the solver of its slash, the intents that were compensated are not slashed, and every cancelled slash was
    cancelled by some program. -/
structure CancelKept (v : BackendView) : Prop extends PipelineKept v where
  sound : ∀ pid, (v.recalls pid).sound
  progress : ∀ pid, (v.recalls pid).Progress
  charged : ∀ pid id entry, (v.recalls pid).penalty = some (id, some entry) →
    ∃ row, v.world.slashes.get id = some row ∧ row.solverAddress = entry.solverAddress
  unslashed : ∀ pid, ∀ id ∈ (v.recalls pid).compensated, Unslashed v.world id
  winners : ∀ id row, v.world.slashes.get id = some row → row.state = .cancelled →
    ∃ pid, id ∈ (v.recalls pid).won

namespace CancelKept

variable {cfg : BackendSettings} {v : BackendView} {e : BackendEvent} {w : BackendWorld} {choice : BackendChoice}

theorem initial {w} (none : ∀ id row, w.slashes.get id = some row → row.state ≠ .cancelled) :
    CancelKept ⟨w, []⟩ where
  toPipelineKept := .initial w
  sound _ := trivial
  progress _ := ⟨fun _ member => absurd member List.not_mem_nil, fun _ _ _ member => absurd member List.not_mem_nil⟩
  charged _ _ _ isPenalty := nomatch isPenalty
  unslashed _ _ member := absurd member List.not_mem_nil
  winners id row present cancelled := absurd cancelled (none id row present)

theorem drift {d} (kept : CancelKept v) (h : drift d v.world = some w) : CancelKept { v with world := w } := by
  have slashes := slashes_drift h
  have intents := intents_drift h
  constructor
  · exact kept.toPipelineKept.drift h
  · exact kept.sound
  · exact kept.progress
  · exact fun pid id entry isPenalty => slashes ▸ kept.charged pid id entry isPenalty
  · intro pid id member intent present
    exact kept.unslashed pid id member intent (intents ▸ present)
  · exact fun id row present => kept.winners id row (slashes ▸ present)

section

variable (performed : perform e.call choice v.world = some (e.reply, w))
include performed

theorem sound_step (kept : CancelKept v) (met : compensationRuns v e w = true) :
    ((v.recalls e.actor.pid).observe ⟨e.call, e.reply⟩).sound := by
  obtain ⟨actor, call, reply⟩ := e
  have sound := kept.sound actor.pid
  cases call with
  | slashes c =>
    cases c with
    | claim | transition => cases reply <;> exact sound
    | _ => exact sound
  | external c =>
    cases c with
    | storeAnswer =>
      cases reply with
      | ok => exact sound
      | error =>
        have stopped : (v.recalls actor.pid).cancelling = false := by simpa [compensationRuns] using met
        exact ⟨sound, stopped⟩
    | _ => exact sound
  | solvers c =>
    cases c with
    | penalty id =>
      cases reply with
      | some entry =>
        simp only [compensationRuns, Bool.and_eq_true, beq_iff_eq] at met
        exact ⟨sound, met.1⟩
      | none =>
        -- Every row of the slash that the program has seen names the stored solver.
        simp only [compensationRuns, Option.any_eq_true, bne_iff_ne] at met
        obtain ⟨stored, present, named⟩ := met
        refine ⟨sound, fun row isSeen isId => ?_⟩
        obtain ⟨stored', present', sameTerms⟩ := kept.seen actor.pid row isSeen
        rw [isId] at present'
        cases present.symm.trans present'
        have sameSolver : stored.solverAddress = row.solverAddress := congrArg Prod.fst sameTerms
        exact sameSolver ▸ named
    | findByAddress address =>
      refine ⟨sound, fun _ => ?_⟩
      simpa [compensationRuns] using met
    | _ => exact sound
  | intents c =>
    cases c with
    | findById | transitionIf =>
      simp only [observe]
      split <;> exact sound
    | _ => exact sound
  | _ => exact sound

theorem keeps_solver {address} (h : ∃ row, v.world.slashes.get id = some row ∧ row.solverAddress = address) :
    ∃ row, w.slashes.get id = some row ∧ row.solverAddress = address := by
  obtain ⟨row, present, isAddress⟩ := h
  obtain ⟨row', present', sameTerms, _⟩ := perform_slash_after performed present
  exact ⟨row', present', (congrArg Prod.fst sameTerms).trans isAddress⟩

theorem charged_step (kept : CancelKept v) (met : compensationRuns v e w = true) {entry}
    (isPenalty : ((v.recalls e.actor.pid).observe ⟨e.call, e.reply⟩).penalty = some (id, some entry)) :
    ∃ row, w.slashes.get id = some row ∧ row.solverAddress = entry.solverAddress := by
  apply keeps_solver performed
  obtain ⟨actor, call, reply⟩ := e
  have older := kept.charged actor.pid id entry
  cases call with
  | slashes c =>
    cases c with
    | claim | transition => cases reply <;> exact older isPenalty
    | _ => exact older isPenalty
  | external c =>
    cases c with
    | storeAnswer => cases reply <;> exact older isPenalty
    | _ => exact older isPenalty
  | solvers c =>
    cases c with
    | penalty id' =>
      cases isPenalty
      simp only [compensationRuns, Bool.and_eq_true, beq_iff_eq, Option.any_eq_true] at met
      obtain ⟨row, present, isAddress⟩ := met.2
      exact ⟨row, present, isAddress⟩
    | _ => exact older isPenalty
  | intents c =>
    cases c with
    | findById | transitionIf =>
      simp only [observe] at isPenalty
      split at isPenalty <;> exact older isPenalty
    | _ => exact older isPenalty
  | _ => exact older isPenalty

theorem keeps_unslashed {m} (allowed : PipelineCall cfg m e.call) (unslashed : Unslashed v.world id) :
    Unslashed w id := by
  intro intent present
  rcases stored_after performed present with before | ⟨c, isCall, _, how⟩
  · exact unslashed intent before
  · rw [isCall] at allowed
    rcases how with isSave | ⟨before, _, writes⟩
    · rw [isSave] at allowed
      cases allowed
    · cases c with
      | transitionIf id' «from» «to» patch =>
        obtain ⟨_, _, rfl⟩ := writes
        exact allowed.2
      | findById => cases writes
      | _ => cases allowed

theorem compensated_step {m} (allowed : PipelineCall cfg m e.call)
    (member : id ∈ (m.observe ⟨e.call, e.reply⟩).compensated) : id ∈ m.compensated ∨ Unslashed w id := by
  obtain ⟨actor, call, reply⟩ := e
  cases call with
  | slashes c =>
    cases c with
    | claim | transition => cases reply <;> exact .inl member
    | _ => exact .inl member
  | external c =>
    cases c with
    | storeAnswer => cases reply <;> exact .inl member
    | _ => exact .inl member
  | solvers c => cases c <;> exact .inl member
  | intents c =>
    cases c with
    | findById id' =>
      cases performed
      simp only [observe] at member
      split at member
      · exact .inl member
      · rename_i notSlashed
        rcases List.mem_cons.mp member with rfl | earlier
        · right
          intro intent present isSlashed
          have present : JsMap.getEntry id v.world.intents.rows.entries = some intent := present
          apply notSlashed
          rw [present]
          exact beq_iff_eq.mpr isSlashed
        · exact .inl earlier
    | transitionIf id' «from» «to» patch =>
      simp only [observe] at member
      split at member
      · rcases List.mem_cons.mp member with rfl | earlier
        · right
          rename_i isFrom
          subst isFrom
          cases performed
          exact fun intent present => v.world.intents.transitionIf_leaves allowed.2 present
        · exact .inl earlier
      · exact .inl member
    | _ => cases allowed
  | _ => exact .inl member

end

section

variable (kept : CancelKept v) (allowed : PipelineCall cfg (v.recalls e.actor.pid) e.call)
include kept allowed

theorem winners_step (performed : perform e.call choice v.world = some (e.reply, w)) {row : PendingSlash}
    (present : w.slashes.get id = some row) (cancelled : row.state = .cancelled) :
    ∃ pid, id ∈ (recalls (v.after e w) pid).won := by
  have older {row : PendingSlash} (present : v.world.slashes.get id = some row) (cancelled : row.state = .cancelled) :
      ∃ pid, id ∈ (recalls (v.after e w) pid).won := by
    obtain ⟨pid, isWon⟩ := kept.winners id row present cancelled
    exact ⟨pid, recalls_won isWon⟩
  rcases perform_slash_write performed with ⟨same, _⟩ | ⟨written, write, isPut⟩
  · exact older (same ▸ present) cancelled
  · rw [isPut, get_put] at present
    split at present
    · rename_i isId
      cases present
      obtain ⟨actor, call, reply⟩ := e
      cases write with
      | created absent isId detected =>
        rw [detected] at cancelled
        cases cancelled
      | @claimed id' now leaseUntil before found =>
        have isId' : before.intentId = id' := intentId_of_get found
        have isSame : id = id' := isId.trans isId'
        subst isSame
        exact older found cancelled
      | @moved id' «from» patch now before found isFrom =>
        have isId' : before.intentId = id' := intentId_of_get found
        have isSame : id = id' := isId.trans isId'
        subst isSame
        have target : patch.state.getD before.state = .cancelled := cancelled
        cases isState : patch.state with
        | none =>
          rw [isState] at target
          exact older found target
        | some state =>
          rw [isState] at target
          have cancels : patch.state = some .cancelled := isState.trans (congrArg some target)
          refine ⟨actor.pid, ?_⟩
          rw [recalls_own rfl]
          show id ∈ (if patch.state = some .cancelled then id :: _ else _)
          rw [if_pos cancels]
          exact .head _
    · exact older present cancelled

/-- Every call of the pipeline that meets the condition keeps the invariant. -/
theorem step (met : compensationRuns v e w = true)
    (performed : perform e.call choice v.world = some (e.reply, w)) : CancelKept (v.after e w) := by
  constructor
  · exact kept.toPipelineKept.step allowed performed
  · intro pid
    by_cases own : e.actor.pid = pid
    · subst own
      rw [recalls_own rfl]
      exact kept.sound_step performed met
    · rw [recalls_other own]
      exact kept.sound pid
  · intro pid
    by_cases own : e.actor.pid = pid
    · subst own
      rw [recalls_own rfl]
      exact (kept.progress e.actor.pid).observe allowed e.reply
    · rw [recalls_other own]
      exact kept.progress pid
  · intro pid id entry isPenalty
    by_cases own : e.actor.pid = pid
    · subst own
      rw [recalls_own rfl] at isPenalty
      exact kept.charged_step performed met isPenalty
    · rw [recalls_other own] at isPenalty
      exact keeps_solver performed (kept.charged pid id entry isPenalty)
  · intro pid id member
    have stays (earlier : id ∈ (v.recalls pid).compensated) : Unslashed w id :=
      keeps_unslashed performed allowed (kept.unslashed pid id earlier)
    by_cases own : e.actor.pid = pid
    · subst own
      rw [recalls_own rfl] at member
      rcases compensated_step performed allowed member with earlier | now
      · exact stays earlier
      · exact now
    · rw [recalls_other own] at member
      exact stays member
  · exact fun id row present cancelled => kept.winners_step allowed performed present cancelled

end

end CancelKept

/-! ### Counting the rollbacks -/

/-- How many steps write a counter for the slash of the intent. -/
def reversals (ts : List BackendTransition) (id : String) : Nat := ts.countP (reversal · == some id)

/-- The steps that write a counter for a slash are those that the program that cancelled it has made, and each of them
    lowers the counter of the solver of the slash. -/
structure Counted (ts : List BackendTransition) (v : BackendView) : Prop where
  own : ∀ pid, ∀ id ∈ (v.recalls pid).won, reversals ts id = (v.recalls pid).reversed.count id
  nobody : ∀ id, (∀ pid, id ∉ (v.recalls pid).won) → reversals ts id = 0
  lowers : ∀ t ∈ ts, ∀ id, reversal t = some id →
    ∃ row, v.world.slashes.get id = some row ∧ Lowers t row.solverAddress

namespace Counted

variable {cfg : BackendSettings} {ts : List BackendTransition} {t : BackendTransition} {v : BackendView}
  {e : BackendEvent} {w : BackendWorld} {choice : BackendChoice}

theorem start (w : BackendWorld) : Counted [] ⟨w, []⟩ where
  own _ _ member := absurd member List.not_mem_nil
  nobody _ _ := rfl
  lowers _ member := nomatch member

theorem reversals_cons (id : String) : reversals (t :: ts) id = reversals ts id + (reversal t).toList.count id := by
  rw [reversals, List.countP_cons]
  cases reversal t with
  | none => rfl
  | some other =>
    by_cases same : other = id
    · subst same
      simp [reversals]
    · simp [reversals, same]

theorem quiet (counted : Counted ts t.before.view) (noCall : t.event = none)
    (history : t.after.history = t.before.history)
    (moved : t.after.world = t.before.world ∨ ∃ d, drift d t.before.world = some t.after.world) :
    Counted (t :: ts) t.after.view := by
  have recalls (pid : Nat) : recalls t.after.view pid = recalls t.before.view pid := by
    simp only [recalls, Config.view, history]
  have slashes : t.after.world.slashes = t.before.world.slashes := by
    rcases moved with same | ⟨d, drifted⟩
    · rw [same]
    · exact slashes_drift drifted
  have noReversal : reversal t = none := by rw [reversal, noCall]
  have same (id : String) : reversals (t :: ts) id = reversals ts id := by
    rw [reversals_cons, noReversal]
    rfl
  constructor
  · intro pid id member
    rw [recalls] at member ⊢
    rw [same]
    exact counted.own pid id member
  · intro id nobody
    rw [same]
    exact counted.nobody id fun pid => recalls pid ▸ nobody pid
  · intro t' member id isReversal
    rcases List.mem_cons.mp member with rfl | earlier
    · rw [noReversal] at isReversal
      cases isReversal
    · obtain ⟨row, present, lowers⟩ := counted.lowers t' earlier id isReversal
      have present' : t.after.world.slashes.get id = some row := by rw [slashes]; exact present
      exact ⟨row, present', lowers⟩

theorem reversal_eq (isEvent : t.event = some e) :
    reversal t = (recalls t.before.view e.actor.pid).reverses e.call := by
  rw [reversal, isEvent]
  obtain ⟨actor, call, reply⟩ := e
  cases call with
  | solvers c => cases c <;> rfl
  | _ => rfl

/-- A counter that is written for a slash is that of its solver, and it is lowered by one. -/
theorem save_lowers (kept : CancelKept v) (allowed : PipelineCall cfg (v.recalls e.actor.pid) e.call)
    (met : compensationRuns v e w = true) (performed : perform e.call choice v.world = some (e.reply, w))
    (reverses : (v.recalls e.actor.pid).reverses e.call = some id) :
    ∃ row n, w.slashes.get id = some row ∧ v.world.solvers.fillsFailed.get row.solverAddress = some n ∧
      w.solvers.fillsFailed.get row.solverAddress = some (n - 1) := by
  obtain ⟨actor, call, reply⟩ := e
  cases call with
  | solvers c =>
    cases c with
    | save address fillsFailed =>
      obtain ⟨id', entry, read, penalty, _, charged, count, rfl⟩ := allowed
      rw [PipelineMemory.reverses, penalty] at reverses
      cases reverses
      have solver : ∃ row, v.world.slashes.get id' = some row ∧ row.solverAddress = address := by
        cases entry with
        | some entry =>
          obtain ⟨row, present, isSolver⟩ := kept.charged actor.pid id' entry penalty
          exact ⟨row, present, isSolver.trans charged.symm⟩
        | none =>
          obtain ⟨seen, isSeen, isId, isSolver⟩ := charged
          obtain ⟨row, present, sameTerms⟩ := kept.seen actor.pid seen isSeen
          exact ⟨row, isId ▸ present, (congrArg Prod.fst sameTerms).trans isSolver⟩
      obtain ⟨row, present, rfl⟩ := solver
      simp only [compensationRuns, count, Option.map_some, beq_iff_eq] at met
      cases performed
      exact ⟨row, read, present, met, JsMap.get_set_self _ _ _⟩
    | _ => cases reverses
  | _ => cases reverses

theorem call (counted : Counted ts t.before.view) (kept : CancelKept t.before.view) (isEvent : t.event = some e)
    (allowed : PipelineCall cfg (recalls t.before.view e.actor.pid) e.call)
    (met : compensationRuns t.before.view e w = true)
    (performed : perform e.call choice t.before.world = some (e.reply, w))
    (isAfter : t.after.view = t.before.view.after e w) : Counted (t :: ts) t.after.view := by
  have isReversal := reversal_eq isEvent
  have isWorld : t.after.world = w := congrArg View.world isAfter
  rw [isAfter]
  constructor
  · intro pid id member
    rw [reversals_cons, isReversal]
    by_cases own : e.actor.pid = pid
    · subst own
      rw [recalls_own rfl] at member ⊢
      rw [reversed_observe, List.count_append, Nat.add_comm]
      congr 1
      rcases kept.won_step allowed performed member with earlier | ⟨_, notYet⟩
      · exact counted.own _ id earlier
      · -- Nobody had cancelled the slash before.
        have nobody (pid : Nat) : id ∉ (recalls t.before.view pid).won := by
          intro isWon
          obtain ⟨stored, present, cancelled⟩ := kept.won pid id isWon
          exact notYet stored present cancelled
        have notReversed : id ∉ (recalls t.before.view e.actor.pid).reversed := by
          intro isReversed
          exact nobody _ ((kept.progress _).reversed id isReversed)
        rw [counted.nobody id nobody, List.count_eq_zero.mpr notReversed]
    · rw [recalls_other own] at member ⊢
      have notMine : id ∉ ((recalls t.before.view e.actor.pid).reverses e.call).toList := by
        intro isMine
        have isWon := won_of_reverses allowed (Option.mem_toList.mp isMine)
        exact own (kept.winner _ _ id isWon member)
      rw [counted.own pid id member, List.count_eq_zero.mpr notMine, Nat.add_zero]
  · intro id nobody
    have before (pid : Nat) : id ∉ (recalls t.before.view pid).won :=
      fun isWon => nobody pid (recalls_won isWon)
    have notMine : id ∉ ((recalls t.before.view e.actor.pid).reverses e.call).toList := by
      intro isMine
      exact before _ (won_of_reverses allowed (Option.mem_toList.mp isMine))
    rw [reversals_cons, isReversal, counted.nobody id before, List.count_eq_zero.mpr notMine]
  · intro t' member id reverses
    rcases List.mem_cons.mp member with rfl | earlier
    · rw [isReversal] at reverses
      obtain ⟨row, n, present, before, after⟩ := save_lowers kept allowed met performed reverses
      exact ⟨row, present, n, before, isWorld ▸ after⟩
    · obtain ⟨row, present, lowers⟩ := counted.lowers t' earlier id reverses
      obtain ⟨row', present', sameTerms, _⟩ := perform_slash_after performed present
      have sameSolver : row'.solverAddress = row.solverAddress := congrArg Prod.fst sameTerms
      exact ⟨row', present', sameSolver ▸ lowers⟩

end Counted

theorem cancellation_kept {cfg ts c} (run : Run (backendService cfg) (cancellationSetting compensationRuns) ts c) :
    CancelKept c.view ∧ Counted ts c.view := by
  have followed : (pipelineDiscipline cfg).Followed (backendService cfg) (cancellationSetting compensationRuns) :=
    pipeline_followed cfg compensationRuns
  refine Run.induct (P := fun ts c => CancelKept c.view ∧ Counted ts c.view) followed ?_ ?_ ?_ run
  · exact fun w none => ⟨.initial none, .start w⟩
  · intro ts t ⟨kept, counted⟩ noCall history moved
    have after : t.after.view = { t.before.view with world := t.after.world } := by
      simp only [Config.view, history]
    refine ⟨?_, counted.quiet noCall history moved⟩
    rw [after]
    rcases moved with same | ⟨d, drifted⟩
    · rw [same]
      exact kept
    · exact kept.drift drifted
  · intro ts t e ⟨kept, counted⟩ isEvent allowed
    obtain ⟨⟨⟨choice, w, performed, isAfter⟩, met⟩, allowed, _⟩ := allowed
    have met : compensationRuns t.before.view e w = true := by
      rw [isAfter] at met
      exact met
    refine ⟨?_, counted.call kept isEvent allowed met performed isAfter⟩
    rw [isAfter]
    exact kept.step allowed met performed

/-- In every state of a run that meets the condition in which no program is cancelling the slash: if the slash is
    cancelled, its intent is not slashed, and exactly one step has written a counter for it, that of its solver, which
    was lowered by one. -/
theorem slash_cancellation_atomic {cfg : BackendSettings} {ts : List BackendTransition} {c : BackendConfig}
    {id : String} {row : PendingSlash} (run : Run (backendService cfg) (cancellationSetting compensationRuns) ts c)
    (stored : c.world.slashes.get id = some row) (cancelled : row.state = .cancelled)
    (ended : ∀ pid, (recalls c.view pid).cancels = some id → (c.returned pid).isSome) :
    (∀ intent, c.world.intents.get id = some intent → intent.state ≠ .slashed) ∧ reversals ts id = 1 ∧
      ∀ t ∈ ts, reversal t = some id → Lowers t row.solverAddress := by
  obtain ⟨kept, counted⟩ := cancellation_kept run
  obtain ⟨pid, isWon⟩ := kept.winners id row stored cancelled
  have settled : (recalls c.view pid).reversed.count id = 1 ∧
      id ∈ (recalls c.view pid).compensated := by
    by_cases isCancelling : (recalls c.view pid).cancels = some id
    · obtain ⟨⟨request, outcome⟩, returned⟩ := Option.isSome_iff_exists.mp (ended pid isCancelling)
      have followed : (pipelineDiscipline cfg).Followed (backendService cfg) (cancellationSetting compensationRuns) :=
        pipeline_followed cfg compensationRuns
      exact Run.returned followed run returned (kept.fits pid) (kept.sound pid) id isWon
    · exact (kept.progress pid).settled (kept.fits pid) (kept.sound pid) id isWon isCancelling
  refine ⟨kept.unslashed pid id settled.2, (counted.own pid id isWon).trans settled.1, ?_⟩
  intro t member isReversal
  obtain ⟨row', stored', lowers⟩ := counted.lowers t member id isReversal
  cases stored.symm.trans stored'
  exact lowers

/-! ### Runs on fixed inputs -/

/-- A slash in its window, whose intent is slashed and whose solver has one counted miss. -/
private def countedMiss : BackendWorld where
  intents := IntentStore.empty.put { sampleIntent with state := .slashed, solver := some "S" }
  slashes := empty.put
    { intentId := "I", solverAddress := "S", reason := "late", state := .challengeWindow, fillDeadline := 0
      detectedAt := 0, challengeEndsAt := 600000, attempts := 0, nextAttemptAt := 0 }
  solvers := { fillsFailed := JsMap.empty.set "S" 1 }

theorem countedMiss_initial : ∀ id row, countedMiss.slashes.get id = some row → row.state ≠ .cancelled := by
  intro id row present
  rw [countedMiss, get_put] at present
  split at present <;> cases present
  decide

/-- The first program has ended, and it is the only one that made a call. -/
private def oneEnded (c : BackendConfig) : Bool := (c.returned 0).isSome && c.history.all (·.actor.pid == 0)

theorem ended_of_oneEnded {c} (one : oneEnded c = true) (id : String) (pid : Nat)
    (cancels : (recalls c.view pid).cancels = some id) : (c.returned pid).isSome = true := by
  obtain ⟨ended, all⟩ := Bool.and_eq_true_iff.mp one
  by_cases isFirst : pid = 0
  · rw [isFirst]
    exact ended
  · have none : past pid c.history = [] := by
      apply List.eq_nil_iff_forall_not_mem.mpr
      intro x member
      obtain ⟨e, isEvent, own, _⟩ := mem_past.mp member
      have first := List.all_eq_true.mp all e isEvent
      exact isFirst (own.symm.trans (beq_iff_eq.mp first))
    rw [show recalls c.view pid = pipelineMemory (past pid c.history) from rfl, none] at cancels
    cases cancels

theorem admin_cancellation_compensated :
    ∃ ts c row, Run (backendService {}) (cancellationSetting compensationRuns) ts c ∧
      c.world.slashes.get "I" = some row ∧ row.state = .cancelled ∧
      (∀ intent, c.world.intents.get "I" = some intent → intent.state ≠ .slashed) ∧ reversals ts "I" = 1 ∧
      ∀ t ∈ ts, reversal t = some "I" → Lowers t row.solverAddress := by
  obtain ⟨ts, c, run, last⟩ := Run.exists_of_trace (backendService {}) (cancellationSetting compensationRuns)
    countedMiss (.arrive (.cancelByAdmin "I" "admin" "bad evidence") :: List.replicate 22 (.act 0 {}))
    (fun _ c => oneEnded c && (c.world.slashes.get "I").any (·.state == .cancelled)) countedMiss_initial
    (by simp [cancellationSetting, slashingSetting]) (by decide)
  simp only [Bool.and_eq_true, Option.any_eq_true, beq_iff_eq] at last
  obtain ⟨ended, row, stored, cancelled⟩ := last
  exact ⟨ts, c, row, run, stored, cancelled,
    slash_cancellation_atomic run stored cancelled (ended_of_oneEnded ended "I")⟩

/-- Without the condition: the store fails after the slash was moved to `cancelled` and before the counter was read.
    The call ends, the intent stays slashed and nothing was taken back. -/
theorem uncompensated_slash :
    ∃ ts c row, Run (backendService {}) (cancellationSetting fun _ _ _ => true) ts c ∧
      c.world.slashes.get "I" = some row ∧ row.state = .cancelled ∧
      (∀ pid, (recalls c.view pid).cancels = some "I" → (c.returned pid).isSome) ∧
      (∃ intent, c.world.intents.get "I" = some intent ∧ intent.state = .slashed) ∧ reversals ts "I" = 0 := by
  obtain ⟨ts, c, run, last⟩ := Run.exists_of_trace (backendService {}) (cancellationSetting fun _ _ _ => true)
    countedMiss (List.flatten [.arrive (.cancelByAdmin "I" "admin" "bad evidence") :: List.replicate 9 (.act 0 {}),
      [.act 0 { throws := some (.other "store down" false) }]])
    (fun ts c => oneEnded c && (c.world.slashes.get "I").any (·.state == .cancelled) &&
      (c.world.intents.get "I").any (·.state == .slashed) && reversals ts "I" == 0) countedMiss_initial
    (by simp [cancellationSetting, slashingSetting]) (by decide)
  simp only [Bool.and_eq_true, Option.any_eq_true, beq_iff_eq] at last
  obtain ⟨⟨⟨ended, row, stored, cancelled⟩, slashed⟩, noReversal⟩ := last
  exact ⟨ts, c, row, run, stored, cancelled, ended_of_oneEnded ended "I", slashed, noReversal⟩

end VortexBackend
