/-
Module: VortexBackend.Proofs.PipelineStore
Purpose: What a run of the pipeline keeps, whatever fails: one program at most cancels a slash.
Main exports: PipelineKept
-/
import VortexBackend.Proofs.PipelineCalls

namespace VortexBackend

open SlashStore

/-! ### One call -/

/-- What no write of a row changes. -/
def PendingSlash.terms (row : PendingSlash) : String × Nat × Nat :=
  (row.solverAddress, row.fillDeadline, row.challengeEndsAt)

/-- The row that a call of the store of slashes writes. -/
inductive SlashWrite (w : BackendWorld) : BackendExchange → PendingSlash → Prop where
  | created {input : NewPendingSlash} {reply : PendingSlash × Bool} {row : PendingSlash}
      (absent : w.slashes.get input.intentId = none) (isId : row.intentId = input.intentId)
      (detected : row.state = .detected) (noHash : row.txHash = none) :
      SlashWrite w ⟨.slashes (.createIfAbsent input), reply⟩ row
  | claimed {id : String} {now leaseUntil : Nat} {row : PendingSlash} (present : w.slashes.get id = some row) :
      SlashWrite w ⟨.slashes (.claim id now leaseUntil), true⟩
        { row with lockedUntil := some leaseUntil, updatedAt := now }
  | moved {id : String} {«from» : List PendingSlashState} {patch : PendingSlashPatch} {now : Option Nat}
      {row : PendingSlash} (present : w.slashes.get id = some row) (isFrom : row.state ∈ «from») :
      SlashWrite w ⟨.slashes (.transition id «from» patch now), some (row.assign patch w.clock)⟩
        (row.assign patch w.clock)

/-- A call that says that it wrote no row. -/
def Unwritten : BackendExchange → Prop
  | ⟨.slashes (.claim ..), taken⟩ => taken = false
  | ⟨.slashes (.transition ..), result⟩ => result = none
  | _ => True

variable {stored : PendingSlash}

section Perform

variable {call : BackendCall} {choice : BackendChoice} {w w' : BackendWorld} {reply : BackendReply call}

theorem perform_slash_write (h : BackendWorld.perform call choice w = some (reply, w')) :
    (w'.slashes = w.slashes ∧ Unwritten ⟨call, reply⟩) ∨
      ∃ row, SlashWrite w ⟨call, reply⟩ row ∧ w'.slashes = w.slashes.put row := by
  cases call with
  | slashes c =>
    simp only [BackendWorld.perform, Option.some.injEq, Prod.mk.injEq] at h
    obtain ⟨isReply, rfl⟩ := h
    generalize performed : w.slashes.perform w.clock c = outcome at isReply
    obtain ⟨reply', store⟩ := outcome
    subst isReply
    cases c with
    | createIfAbsent input =>
      simp only [perform, createIfAbsent] at performed
      split at performed
      · cases performed
        exact .inl ⟨rfl, trivial⟩
      · rename_i absent
        cases performed
        exact .inr ⟨_, .created absent rfl rfl rfl, rfl⟩
    | claim id now leaseUntil =>
      rcases claim_cases performed with ⟨rfl, rfl⟩ | ⟨row, present, rfl, rfl⟩
      · exact .inl ⟨rfl, rfl⟩
      · exact .inr ⟨_, .claimed present, rfl⟩
    | transition id «from» patch now =>
      rcases transition_cases performed with ⟨rfl, rfl⟩ | ⟨row, present, isFrom, _, rfl, rfl⟩
      · exact .inl ⟨rfl, rfl⟩
      · exact .inr ⟨_, .moved present isFrom, rfl⟩
    | findByIntent | findDue =>
      cases performed
      exact .inl ⟨rfl, trivial⟩
  | _ =>
    rcases perform_slashes h with same | ⟨c, isCall⟩
    · exact .inl ⟨same, trivial⟩
    · cases isCall

/-- Every stored slash stays, with its terms; a transition of it apart, also with its state and its transaction. -/
theorem perform_slash_after (h : BackendWorld.perform call choice w = some (reply, w')) {id}
    (present : w.slashes.get id = some stored) :
    ∃ stored', w'.slashes.get id = some stored' ∧ stored'.terms = stored.terms ∧
      ((stored'.state = stored.state ∧ stored'.txHash = stored.txHash) ∨
        ∃ «from» patch now, call = .slashes (.transition id «from» patch now) ∧ stored.state ∈ «from» ∧
          stored' = stored.assign patch w.clock) := by
  rcases perform_slash_write h with ⟨same, _⟩ | ⟨row, write, isPut⟩
  · exact ⟨stored, same ▸ present, rfl, .inl ⟨rfl, rfl⟩⟩
  · rw [isPut, get_put]
    split
    · rename_i isId
      subst isId
      cases write with
      | created absent isId =>
        rw [isId, absent] at present
        cases present
      | @claimed id now leaseUntil row found =>
        have isId : row.intentId = id := intentId_of_get found
        subst isId
        cases present.symm.trans found
        exact ⟨_, rfl, rfl, .inl ⟨rfl, rfl⟩⟩
      | @moved id «from» patch now row found isFrom =>
        have isId : row.intentId = id := intentId_of_get found
        subst isId
        cases present.symm.trans found
        exact ⟨_, rfl, rfl, .inr ⟨«from», patch, now, rfl, isFrom, rfl⟩⟩
    · exact ⟨stored, present, rfl, .inl ⟨rfl, rfl⟩⟩

end Perform

variable {«from» : List PendingSlashState} {patch : PendingSlashPatch}

theorem SagaWrite.live {m id} (write : SagaWrite m id «from» patch) :
    .confirmed ∉ «from» ∧ .cancelled ∉ «from» := by
  cases write with
  | retried state attempts nextAttemptAt error live =>
    rw [List.mem_singleton, List.mem_singleton]
    exact ⟨Ne.symm live.1, Ne.symm live.2⟩
  | _ => decide

/-! ### What a program remembers in a run -/

/-- Nothing new about the rows. -/
structure PipelineMemory.SameRows (m m' : PipelineMemory) : Prop where
  rows : m'.rows = m.rows
  seen : m'.seen = m.seen
  last : m'.last = m.last
  won : m'.won = m.won
  fits : m.fits → m'.fits

/-- A program learns about rows from a listing, a look-up, a lease or a transition. -/
inductive PipelineMemory.Learns (m : PipelineMemory) : BackendExchange → Prop
  | nothing {x} (same : m.SameRows (m.observe x)) : Learns m x
  | listed (now limit rows) : Learns m ⟨.slashes (.findDue now limit), rows⟩
  | found (id stored) : Learns m ⟨.slashes (.findByIntent id), stored⟩
  | leased (id now leaseUntil) : Learns m ⟨.slashes (.claim id now leaseUntil), true⟩
  | moved (id «from» patch now) (row : PendingSlash) :
    Learns m ⟨.slashes (.transition id «from» patch now), some row⟩

theorem PipelineMemory.observe_cases (m : PipelineMemory) (x : BackendExchange) : m.Learns x := by
  obtain ⟨call, reply⟩ := x
  cases call with
  | slashes c =>
    cases c with
    | findDue now limit => exact .listed now limit reply
    | findByIntent id => exact .found id reply
    | claim id now leaseUntil =>
      cases reply with
      | false => exact .nothing ⟨rfl, rfl, rfl, rfl, fun h => h⟩
      | true => exact .leased id now leaseUntil
    | transition id «from» patch now =>
      cases reply with
      | none => exact .nothing ⟨rfl, rfl, rfl, rfl, fun h => h⟩
      | some row => exact .moved id «from» patch now row
    | createIfAbsent => exact .nothing ⟨rfl, rfl, rfl, rfl, fun h => h⟩
  | external c =>
    cases c with
    | storeAnswer => cases reply <;> exact .nothing ⟨rfl, rfl, rfl, rfl, fun h => h⟩
    | _ => exact .nothing ⟨rfl, rfl, rfl, rfl, fun h => h⟩
  | intents c =>
    cases c with
    | findById | transitionIf =>
      apply Learns.nothing
      simp only [observe]
      split <;> exact ⟨rfl, rfl, rfl, rfl, fun h => h⟩
    | _ => exact .nothing ⟨rfl, rfl, rfl, rfl, fun h => h⟩
  | solvers c => cases c <;> exact .nothing ⟨rfl, rfl, rfl, rfl, fun h => h⟩
  | _ => exact .nothing ⟨rfl, rfl, rfl, rfl, fun h => h⟩

/-- What program `pid` remembers. -/
abbrev BackendView.recalls (v : BackendView) (pid : Nat) : PipelineMemory := pipelineMemory (past pid v.history)

section Recalls

variable {v : BackendView} {e : BackendEvent} {w : BackendWorld} {pid : Nat}

theorem recalls_own (own : e.actor.pid = pid) :
    BackendView.recalls (v.after e w) pid = (BackendView.recalls v pid).observe ⟨e.call, e.reply⟩ := by
  rw [BackendView.recalls, past_own own]
  rfl

theorem recalls_other (other : e.actor.pid ≠ pid) :
    BackendView.recalls (v.after e w) pid = BackendView.recalls v pid := by
  rw [BackendView.recalls, past_other other]

end Recalls

/-! ### The invariant -/

/-- The programs were answered by the store: the rows they have seen are stored, with their terms, the slashes they
    have cancelled are cancelled, and nobody else has cancelled them. -/
structure PipelineKept (v : BackendView) : Prop where
  fits : ∀ pid, (v.recalls pid).fits
  rows : ∀ pid, ∀ row ∈ (v.recalls pid).rows, row ∈ (v.recalls pid).seen
  seen : ∀ pid, ∀ row ∈ (v.recalls pid).seen,
    ∃ stored, v.world.slashes.get row.intentId = some stored ∧ stored.terms = row.terms
  won : ∀ pid, ∀ id ∈ (v.recalls pid).won,
    ∃ stored, v.world.slashes.get id = some stored ∧ stored.state = .cancelled
  winner : ∀ pid pid' id, id ∈ (v.recalls pid).won → id ∈ (v.recalls pid').won → pid = pid'

namespace PipelineKept

variable {cfg : BackendSettings} {v : BackendView} {e : BackendEvent} {w : BackendWorld} {choice : BackendChoice}

theorem initial (w : BackendWorld) : PipelineKept ⟨w, []⟩ where
  fits _ := trivial
  rows _ _ member := absurd member List.not_mem_nil
  seen _ _ member := absurd member List.not_mem_nil
  won _ _ member := absurd member List.not_mem_nil
  winner _ _ _ member := absurd member List.not_mem_nil

theorem drift {d} (kept : PipelineKept v) (h : BackendWorld.drift d v.world = some w) :
    PipelineKept { v with world := w } := by
  have same := slashes_drift h
  refine ⟨kept.fits, kept.rows, ?_, ?_, kept.winner⟩
  · exact fun pid row member => same ▸ kept.seen pid row member
  · exact fun pid id member => same ▸ kept.won pid id member

variable {id : String} {row : PendingSlash}

theorem keeps_cancelled (kept : PipelineKept v) (allowed : PipelineCall cfg (v.recalls e.actor.pid) e.call)
    (performed : BackendWorld.perform e.call choice v.world = some (e.reply, w))
    (present : v.world.slashes.get id = some stored) (cancelled : stored.state = .cancelled) :
    ∃ stored', w.slashes.get id = some stored' ∧ stored'.state = .cancelled := by
  obtain ⟨stored', present', _, same | ⟨«from», patch, now, isCall, isFrom, _⟩⟩ :=
    perform_slash_after performed present
  · exact ⟨stored', present', same.1.trans cancelled⟩
  · rw [isCall] at allowed
    rw [cancelled] at isFrom
    exact absurd isFrom (allowed.2 (kept.fits e.actor.pid)).live.2

theorem keeps_row (performed : BackendWorld.perform e.call choice v.world = some (e.reply, w))
    (h : ∃ stored, v.world.slashes.get row.intentId = some stored ∧ stored.terms = row.terms) :
    ∃ stored, w.slashes.get row.intentId = some stored ∧ stored.terms = row.terms := by
  obtain ⟨stored, present, same⟩ := h
  obtain ⟨stored', present', same', _⟩ := perform_slash_after performed present
  exact ⟨stored', present', same'.trans same⟩

theorem moved_row {now}
    (performed :
      BackendWorld.perform (.slashes (.transition id «from» patch now)) choice v.world = some (some row, w)) :
    ∃ before, v.world.slashes.get id = some before ∧ before.state ∈ «from» ∧
      row = before.assign patch v.world.clock ∧ row.intentId = id ∧ w.slashes.get id = some row := by
  rcases perform_slash_write performed with ⟨_, unwritten⟩ | ⟨row', write, isPut⟩
  · cases unwritten
  · cases write with
    | @moved _ _ _ _ before present isFrom =>
      have isId : before.intentId = id := intentId_of_get present
      refine ⟨before, present, isFrom, rfl, isId, ?_⟩
      rw [isPut, get_put]
      exact if_pos isId.symm

section

variable (kept : PipelineKept v)
include kept

theorem fits_step (allowed : PipelineCall cfg (v.recalls e.actor.pid) e.call)
    (performed : BackendWorld.perform e.call choice v.world = some (e.reply, w)) :
    ((v.recalls e.actor.pid).observe ⟨e.call, e.reply⟩).fits := by
  obtain ⟨actor, call, reply⟩ := e
  have fits := kept.fits actor.pid
  cases (v.recalls actor.pid).observe_cases ⟨call, reply⟩ with
  | nothing same => exact same.fits fits
  | listed | found | leased => exact fits
  | moved id «from» patch now row =>
    obtain ⟨before, present, isFrom, rfl, isId, _⟩ := moved_row performed
    refine ⟨fits, isId, ?_, fun _ isWon => ?_⟩
    · show PipelineMemory.leadsTo _ _ (patch.state.getD before.state)
      unfold PipelineMemory.leadsTo
      cases patch.state with
      | none => exact isFrom
      | some target => rfl
    · obtain ⟨stored, found, cancelled⟩ := kept.won actor.pid id isWon
      cases present.symm.trans found
      rw [cancelled] at isFrom
      exact (allowed.2 fits).live.2 isFrom

theorem seen_step (performed : BackendWorld.perform e.call choice v.world = some (e.reply, w))
    (member : row ∈ ((v.recalls e.actor.pid).observe ⟨e.call, e.reply⟩).seen) :
    ∃ stored, w.slashes.get row.intentId = some stored ∧ stored.terms = row.terms := by
  obtain ⟨actor, call, reply⟩ := e
  have older (isSeen : row ∈ (v.recalls actor.pid).seen) :
      ∃ stored, w.slashes.get row.intentId = some stored ∧ stored.terms = row.terms :=
    keeps_row performed (kept.seen actor.pid row isSeen)
  cases (v.recalls actor.pid).observe_cases ⟨call, reply⟩ with
  | nothing same =>
    rw [same.seen] at member
    exact older member
  | listed =>
    cases performed
    rcases List.mem_append.mp member with listed | earlier
    · exact ⟨row, (mem_findDue listed).1, rfl⟩
    · exact kept.seen actor.pid row earlier
  | found id =>
    rcases List.mem_append.mp member with found | earlier
    · have isStored : v.world.slashes.get id = some row := by
        cases performed
        exact Option.mem_toList.mp found
      have isId : row.intentId = id := intentId_of_get isStored
      subst isId
      exact keeps_row performed ⟨row, isStored, rfl⟩
    · exact older earlier
  | leased => exact older member
  | moved =>
    rcases List.mem_cons.mp member with rfl | earlier
    · obtain ⟨before, _, _, _, isId, present⟩ := moved_row performed
      exact ⟨row, isId ▸ present, rfl⟩
    · exact older earlier

theorem rows_step (member : row ∈ ((v.recalls e.actor.pid).observe ⟨e.call, e.reply⟩).rows) :
    row ∈ ((v.recalls e.actor.pid).observe ⟨e.call, e.reply⟩).seen := by
  obtain ⟨actor, call, reply⟩ := e
  have older := kept.rows actor.pid row
  cases (v.recalls actor.pid).observe_cases ⟨call, reply⟩ with
  | nothing same =>
    rw [same.rows] at member
    rw [same.seen]
    exact older member
  | listed => exact List.mem_append_left _ member
  | found => exact List.mem_append_right _ (older member)
  | leased => exact older member
  | moved => exact .tail _ (older member)

section

variable (allowed : PipelineCall cfg (v.recalls e.actor.pid) e.call)
  (performed : BackendWorld.perform e.call choice v.world = some (e.reply, w))
include allowed performed

theorem won_step (member : id ∈ ((v.recalls e.actor.pid).observe ⟨e.call, e.reply⟩).won) :
    id ∈ (v.recalls e.actor.pid).won ∨
      (∃ stored, w.slashes.get id = some stored ∧ stored.state = .cancelled) ∧
        ∀ before, v.world.slashes.get id = some before → before.state ≠ .cancelled := by
  obtain ⟨actor, call, reply⟩ := e
  cases (v.recalls actor.pid).observe_cases ⟨call, reply⟩ with
  | nothing same => exact .inl (same.won ▸ member)
  | listed | found | leased => exact .inl member
  | moved id' «from» patch now row =>
    change id ∈ (if patch.state = some .cancelled then id' :: _ else _) at member
    split at member
    · rename_i cancels
      rcases List.mem_cons.mp member with rfl | earlier
      · obtain ⟨before, present, isFrom, rfl, _, present'⟩ := moved_row performed
        refine .inr ⟨⟨_, present', ?_⟩, fun other isOther cancelled => ?_⟩
        · show patch.state.getD before.state = .cancelled
          rw [cancels]
          rfl
        · cases present.symm.trans isOther
          rw [cancelled] at isFrom
          exact (allowed.2 (kept.fits actor.pid)).live.2 isFrom
      · exact .inl earlier
    · exact .inl member

/-- Every call of the pipeline keeps the invariant. -/
theorem step : PipelineKept (v.after e w) := by
  have stays {id : String} (h : ∃ stored, v.world.slashes.get id = some stored ∧ stored.state = .cancelled) :
      ∃ stored, w.slashes.get id = some stored ∧ stored.state = .cancelled := by
    obtain ⟨stored, present, cancelled⟩ := h
    exact kept.keeps_cancelled allowed performed present cancelled
  constructor
  · intro pid
    by_cases own : e.actor.pid = pid
    · subst own
      rw [recalls_own rfl]
      exact kept.fits_step allowed performed
    · rw [recalls_other own]
      exact kept.fits pid
  · intro pid row member
    by_cases own : e.actor.pid = pid
    · subst own
      rw [recalls_own rfl] at member ⊢
      exact kept.rows_step member
    · rw [recalls_other own] at member ⊢
      exact kept.rows pid row member
  · intro pid row member
    by_cases own : e.actor.pid = pid
    · subst own
      rw [recalls_own rfl] at member
      exact kept.seen_step performed member
    · rw [recalls_other own] at member
      exact keeps_row performed (kept.seen pid row member)
  · intro pid id member
    by_cases own : e.actor.pid = pid
    · subst own
      rw [recalls_own rfl] at member
      rcases kept.won_step allowed performed member with earlier | ⟨now, _⟩
      · exact stays (kept.won e.actor.pid id earlier)
      · exact now
    · rw [recalls_other own] at member
      exact stays (kept.won pid id member)
  · -- Whoever cancels a slash now finds it not yet cancelled, so nobody has before.
    have first {pid : Nat} {id : String} (other : e.actor.pid ≠ pid)
        (now : id ∈ ((v.recalls e.actor.pid).observe ⟨e.call, e.reply⟩).won)
          (isWon : id ∈ (v.recalls pid).won) :
        e.actor.pid = pid := by
      rcases kept.won_step allowed performed now with earlier | ⟨_, notYet⟩
      · exact kept.winner _ _ id earlier isWon
      · obtain ⟨stored, present, cancelled⟩ := kept.won pid id isWon
        exact absurd cancelled (notYet stored present)
    intro pid pid' id isWon isWon'
    by_cases own : e.actor.pid = pid
    · by_cases own' : e.actor.pid = pid'
      · exact own.symm.trans own'
      · subst own
        rw [recalls_own rfl] at isWon
        rw [recalls_other own'] at isWon'
        exact first own' isWon isWon'
    · rw [recalls_other own] at isWon
      by_cases own' : e.actor.pid = pid'
      · subst own'
        rw [recalls_own rfl] at isWon'
        exact (first own isWon' isWon).symm
      · rw [recalls_other own'] at isWon'
        exact kept.winner pid pid' id isWon isWon'

end

end

end PipelineKept

theorem pipeline_kept {cfg} {meets : BackendView → BackendEvent → BackendWorld → Bool} {ts c}
    (run : Run (backendService cfg) (slashingSetting meets) ts c) :
    PipelineKept c.view ∧ ∀ t ∈ ts, PipelineKept t.before.view ∧ PipelineKept t.after.view ∧
      ∀ e, t.event = some e →
        Run.Allowed (backendService cfg) (slashingSetting meets) (pipelineDiscipline cfg) t.before.view e
          t.after.view :=
  Run.invariant (I := PipelineKept) (pipeline_followed cfg meets) (fun w _ => .initial w)
    (fun _ _ _ kept drifted => kept.drift drifted)
    (by
      rintro v e v' kept ⟨⟨⟨choice, w, performed, rfl⟩, _⟩, allowed, _⟩
      exact kept.step allowed performed) run

end VortexBackend
