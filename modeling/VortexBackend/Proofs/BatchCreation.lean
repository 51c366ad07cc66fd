/-
Module: VortexBackend.Proofs.BatchCreation
Purpose: A batch is all or nothing if nothing is refused after its first save, for nothing takes saves back.
Main exports: batch_all_or_nothing
-/
import VortexBackend.Proofs.CreationCalls

namespace VortexBackend

open Creation IntentsService
open Async (follows_bind follows_calls_bind follows_of_calls follows_mono follows_onEachWith calls_bind calls_pure
  calls_throwWhen calls_onEachWith)

/-- What a program has saved, oldest first. -/
def saves : List BackendExchange → List Intent
  | [] => []
  | ⟨.intents (.save intent), _⟩ :: earlier => saves earlier ++ [intent]
  | _ :: earlier => saves earlier

/-- A registration or a write of a program was refused after it had saved something. -/
def refusedLate (cfg : BackendSettings) : List BackendExchange → Bool
  | [] => false
  | x :: earlier => (refuses cfg x && !(saves earlier).isEmpty) || refusedLate cfg earlier

/-- Any stores and any requests. -/
def anyRuns : BackendSetting where
  initial _ := True
  admits _ := True

/-- The runs in which no registration and no write of a program is refused after its first save. Only a batch goes on
    after a save. -/
def batchSetting (cfg : BackendSettings) : BackendSetting :=
  { anyRuns with meets := fun v e _ =>
      !(refuses cfg ⟨e.call, e.reply⟩ && !(saves (past e.actor.pid v.history)).isEmpty) }

/-- The intent is what the item of the batch asks for. -/
structure Records (dto : CreateIntentDto) (intent : Intent) : Prop where
  user : intent.user = dto.user
  srcChain : intent.srcChain = dto.srcChain
  srcToken : intent.srcToken = ⟨dto.srcTokenAddress, dto.srcTokenSymbol, dto.srcTokenDecimals⟩
  srcAmount : intent.srcAmount = dto.srcAmount
  dstToken : intent.dstToken = ⟨dto.dstTokenContract, dto.dstTokenSymbol, dto.dstTokenDecimals⟩
  minDstAmount : intent.minDstAmount = dto.minDstAmount

/-! ### Pasts -/

/-- Calls that save nothing. -/
def BackendCall.Saveless : BackendCall → Prop
  | .intents (.save _) => False
  | _ => True

theorem BackendCall.Neutral.saveless {call : BackendCall} (neutral : call.Neutral) : call.Saveless := by
  cases call with
  | intents c => cases c <;> trivial
  | _ => trivial

variable {recent : List BackendExchange}

theorem saves_saveless (saveless : ∀ x ∈ recent, x.call.Saveless) (past : List BackendExchange) :
    saves (recent ++ past) = saves past := by
  induction recent with
  | nil => rfl
  | cons x recent ih =>
    have first := saveless x (.head _)
    rw [← ih fun y member => saveless y (.tail _ member)]
    obtain ⟨call, reply⟩ := x
    cases call with
    | intents c =>
      cases c with
      | save => cases first
      | _ => rfl
    | _ => rfl

theorem Prepared.saveless (prepared : Prepared recent) : ∀ x ∈ recent, x.call.Saveless := by
  intro x member
  exact (prepared x member).neutral.saveless

variable {cfg : BackendSettings}

theorem refusedLate_prepared {recent past} (prepared : Prepared recent)
    (refused : ∃ x ∈ recent, refuses cfg x = true)
    (started : saves past ≠ []) : refusedLate cfg (recent ++ past) = true := by
  induction recent with
  | nil =>
    obtain ⟨x, member, _⟩ := refused
    cases member
  | cons y recent ih =>
    have rest : Prepared recent := fun x member => prepared x (.tail _ member)
    rw [List.cons_append, refusedLate, saves_saveless rest.saveless, Bool.or_eq_true]
    obtain ⟨x, member, isRefused⟩ := refused
    cases member with
    | head =>
      left
      rw [isRefused, Bool.true_and, Bool.not_eq_true', List.isEmpty_eq_false_iff]
      exact started
    | tail _ earlier => exact .inr (ih rest ⟨x, earlier, isRefused⟩)

/-! ### The program of a batch -/

variable {dtos : List CreateIntentDto}

section Following

variable {cfg : BackendSettings} {past : List BackendExchange}

/-- Nothing is asked of the calls, only of the end. -/
abbrev Ends {α : Type} (x : Backend α) (Q : Except BackendError α → List BackendExchange → Prop)
    (past : List BackendExchange) : Prop :=
  x.Follows (fun _ _ => True) Q past

theorem ends_bind {α β : Type} {x} {f : β → Backend α}
    {Q : Except BackendError α → List BackendExchange → Prop}
    (calls : x.Calls BackendCall.Saveless) (throws : ∀ e past', saves past' = saves past → Q (.error e) past')
    (rest : ∀ value past', saves past' = saves past → Ends (f value) Q past') : Ends (x >>= f) Q past := by
  apply follows_calls_bind calls (fun _ _ _ _ => trivial)
  · intro e recent saveless
    exact throws e _ (saves_saveless saveless past)
  · intro value recent saveless
    exact rest value _ (saves_saveless saveless past)

theorem saveless_of_neutral {α : Type} {x : Backend α} (calls : x.Calls BackendCall.Neutral) :
    x.Calls BackendCall.Saveless :=
  calls.mono fun _ neutral => neutral.saveless

/-- What the service is asked to create for an item. -/
def ItemData (cfg : BackendSettings) (dto : CreateIntentDto) (data : NewIntentData) : Prop :=
  ∃ terms now, data = IntentsController.intentData cfg dto terms now

theorem NewRecord.records {dto data now intent} (record : NewRecord cfg data now recent intent)
    (isItem : ItemData cfg dto data) : Records dto intent := by
  obtain ⟨terms, asked, rfl⟩ := isItem
  obtain ⟨id, version, _, rfl | ⟨txHash, rfl⟩⟩ := record <;> exact ⟨rfl, rfl, rfl, rfl, rfl, rfl⟩

theorem ends_items (clean : saves past = []) (now : Nat) (dtos : List CreateIntentDto) :
    Ends (Async.onEachWith (IntentsController.batchItem cfg now) [] dtos)
      (Async.onOk (fun _ past' => saves past' = []) fun items past' =>
        saves past' = [] ∧ List.Forall₂ (ItemData cfg) dtos items) past := by
  apply follows_onEachWith (P := fun items rest past => saves past = [] ∧
    ∃ passed, dtos = passed ++ rest ∧ List.Forall₂ (ItemData cfg) passed items)
  · intro items dto rest past ⟨clean, passed, isDtos, asked⟩
    have resolve (c : ExternalCall) (safe : BackendCall.Neutral (.external c)) :
        (Backend.external c).Calls BackendCall.Saveless := saveless_of_neutral (calls_one safe)
    refine ends_bind (Async.calls_attempt (resolve _ trivial))
      (fun _ _ same => same.trans clean) fun _ past₁ same₁ => ?_
    refine ends_bind (Async.calls_attempt (resolve _ trivial)) (fun _ _ same => same.trans (same₁.trans clean))
      fun _ past₂ same₂ => ?_
    apply ends_bind (saveless_of_neutral (neutral_of_detached (calls_partialFillTerms dto)))
    · intro _ _ same
      exact same.trans (same₂.trans (same₁.trans clean))
    · intro terms past₃ same₃
      refine ⟨same₃.trans (same₂.trans (same₁.trans clean)), passed ++ [dto], ?_, ?_⟩
      · rw [isDtos, List.append_assoc]
        rfl
      · exact List.rel_append asked (.cons ⟨terms, now, rfl⟩ .nil)
  · intro items past' ⟨clean, passed, isDtos, asked⟩
    rw [List.append_nil] at isDtos
    exact ⟨clean, isDtos ▸ asked⟩
  · exact ⟨clean, [], rfl, .nil⟩

/-- How far the loop of the service has come: the items that are saved and those that are not. -/
def Underway (cfg : BackendSettings) (dtos : List CreateIntentDto) (created : List Intent)
    (rest : List NewIntentData) (past : List BackendExchange) : Prop :=
  saves past = created ∧ ∃ passed left, dtos = passed ++ left ∧ List.Forall₂ Records passed created ∧
    List.Forall₂ (ItemData cfg) left rest

/-- A batch that ended: all of its items are saved, or none is, or it was refused something late. -/
def BatchEnds (cfg : BackendSettings) (dtos : List CreateIntentDto) :
    Except BackendError (List Intent) → List BackendExchange → Prop
  | .ok created, past => saves past = created ∧ List.Forall₂ Records dtos created
  | .error _, past => saves past = [] ∨ refusedLate cfg past = true

variable {items : List NewIntentData}

theorem ends_creations (clean : saves past = []) (asked : List.Forall₂ (ItemData cfg) dtos items) :
    Ends (Async.onEachWith (fun created item => do
      let intent ← persistNewIntent cfg item
      pure (created ++ [intent])) [] items) (BatchEnds cfg dtos) past := by
  apply follows_onEachWith (P := Underway cfg dtos)
  · intro created item rest past ⟨isSaved, passed, left, isDtos, records, asked⟩
    obtain ⟨dto, left', isItem, asked', rfl⟩ := List.forall₂_cons_right_iff.mp asked
    apply (follows_bind _ _).mpr
    apply follows_persistNewIntent trivial
    intro ms
    have before (recent : List BackendExchange) (prepared : Prepared recent) :
        saves (recent ++ ⟨.now, ms⟩ :: past) = created :=
      (saves_saveless prepared.saveless _).trans isSaved
    constructor
    · exact fun _ _ _ _ => trivial
    · exact fun _ _ _ _ => trivial
    · intro recent intent reply prepared record
      refine ⟨?_, passed ++ [dto], left', ?_, ?_, asked'⟩
      · rw [List.cons_append, saves, before recent prepared]
      · rw [isDtos, List.append_assoc]
        rfl
      · exact List.rel_append records (.cons (record.records isItem) .nil)
    · intro recent e prepared refused
      by_cases started : created = []
      · exact .inl ((before recent prepared).trans started)
      · exact .inr (refusedLate_prepared prepared refused (isSaved.trans_ne started))
  · intro created past' ⟨isSaved, passed, left, isDtos, records, asked⟩
    cases asked
    rw [List.append_nil] at isDtos
    exact ⟨isSaved, isDtos ▸ records⟩
  · exact ⟨clean, [], dtos, rfl, .nil, asked⟩

theorem calls_checkBatchItem (checked : List IntentsService.BatchError × JsMap String Nat)
    (item : NewIntentData × Nat) : (checkBatchItem checked item).Calls BackendCall.Saveless := by
  have standing (counts : JsMap String Nat) (user : String) :
      (withStanding counts user).Calls BackendCall.Saveless := by
    unfold withStanding
    split
    · exact calls_pure _
    · exact ⟨trivial, fun _ => trivial⟩
  unfold checkBatchItem
  dsimp only
  split
  · exact calls_pure _
  · apply calls_bind (standing _ _)
    intro counts
    split
    · exact calls_pure _
    · exact calls_pure _

/-- `createBatch`: an error of the checks stops it before the first save. -/
theorem ends_createBatch (clean : saves past = []) (asked : List.Forall₂ (ItemData cfg) dtos items) :
    Ends (createBatch cfg items)
      (Async.onOk (fun e past' => BatchEnds cfg dtos (.error e) past') fun result past' =>
        if result.2.isEmpty then BatchEnds cfg dtos (.ok result.1) past' else saves past' = []) past := by
  refine ends_bind (calls_onEachWith fun _ _ _ => calls_checkBatchItem _ _)
    (fun _ _ same => .inl (same.trans clean)) fun checked past' same => ?_
  obtain ⟨errors, counts⟩ := checked
  cases errors with
  | cons error errors => exact same.trans clean
  | nil =>
    exact .andThen (ends_creations (same.trans clean) asked) (fun _ _ ended => ended) fun _ _ ended => ended

/-- `POST /intents/batch-create` -/
theorem ends_batchCreate (dtos : List CreateIntentDto) :
    Ends (IntentsController.batchCreate cfg dtos) (BatchEnds cfg dtos) [] := by
  have throws {condition : Bool} {e : BackendError} : (Async.throwWhen condition e : Backend Unit).Calls
      BackendCall.Saveless := calls_throwWhen _ _
  apply ends_bind throws (fun _ _ same => .inl same)
  intro _ past₁ same₁
  apply ends_bind throws (fun _ _ same => .inl (same.trans same₁))
  intro _ past₂ same₂
  apply ends_bind (saveless_of_neutral (neutral_of_detached calls_clock))
    (fun _ _ same => .inl (same.trans (same₂.trans same₁)))
  intro now past₃ same₃
  have clean₃ : saves past₃ = [] := same₃.trans (same₂.trans same₁)
  refine .andThen (ends_items clean₃ now dtos) (fun _ _ ended => .inl ended) ?_
  rintro items past₄ ⟨clean₄, asked⟩
  apply ends_bind (saveless_of_neutral (neutral_of_detached (calls_preflightBatch items)))
    (fun _ _ same => .inl (same.trans clean₄))
  intro errors past₅ same₅
  apply ends_bind throws (fun _ _ same => .inl (same.trans (same₅.trans clean₄)))
  intro _ past₆ same₆
  refine .andThen (ends_createBatch (same₆.trans (same₅.trans clean₄)) asked) (fun _ _ ended => ended) ?_
  rintro ⟨created, errors⟩ past₇ ended
  cases errors with
  | nil => exact .throwWhen_bind (nofun) fun _ => ended
  | cons error errors => exact .throwWhen_bind (fun _ => .inl ended) nofun

end Following

/-! ### Whole runs -/

/-- How a batch ends; nothing is said of the other requests. -/
def batchDiscipline (cfg : BackendSettings) : BackendDiscipline where
  allows _ _ _ := True
  returns
    | .batchCreate dtos, .ok response, past =>
      ∃ created, response = .batch created ∧ BatchEnds cfg dtos (.ok created) past
    | .batchCreate dtos, .error e, past => BatchEnds cfg dtos (.error e) past
    | _, _, _ => True

theorem batches_followed (cfg : BackendSettings) :
    (batchDiscipline cfg).Followed (backendService cfg) (batchSetting cfg) := by
  intro request _
  cases request with
  | batchCreate dtos =>
    exact Async.Follows.andThen (ends_batchCreate dtos) (fun _ _ ended => ended) fun created _ ended =>
      ⟨created, rfl, ended⟩
  | _ => exact Program.follows_free _

variable {c : BackendConfig}

theorem none_refusedLate {ts} (run : Run (backendService cfg) (batchSetting cfg) ts c) (pid : Nat) :
    refusedLate cfg (past pid c.history) = false := by
  have holds := (Run.invariant (I := fun v => ∀ pid, refusedLate cfg (past pid v.history) = false)
    (batches_followed cfg) (fun _ _ _ => rfl) (fun _ _ _ none _ => none) ?_ run).1
  · exact holds pid
  · intro v e v' none step pid
    obtain ⟨⟨⟨choice, w, performed, rfl⟩, met⟩, _⟩ := step
    by_cases own : e.actor.pid = pid
    · subst own
      rw [past_own rfl, refusedLate, none e.actor.pid, Bool.or_false]
      exact Bool.not_eq_eq_eq_not.mp met
    · rw [past_other own]
      exact none pid

/-- A batch that ends has saved all of its items and returns them, or has saved none of them, whichever of its steps
    fail and whatever runs beside it. -/
theorem batch_all_or_nothing {cfg : BackendSettings} {ts : List BackendTransition} {c : BackendConfig}
    (run : Run (backendService cfg) (batchSetting cfg) ts c) {pid : Nat} {dtos : List CreateIntentDto}
    {outcome : Except BackendError BackendResponse} (ended : c.returned pid = some (.batchCreate dtos, outcome)) :
    (∃ created, outcome = .ok (.batch created) ∧ saves (past pid c.history) = created ∧
        List.Forall₂ Records dtos created) ∨
      ∃ e, outcome = .error e ∧ saves (past pid c.history) = [] := by
  have returned := Run.returned (batches_followed cfg) run ended
  cases outcome with
  | ok response =>
    obtain ⟨created, rfl, isSaved, records⟩ := returned
    exact .inl ⟨created, rfl, isSaved, records⟩
  | error e =>
    rcases returned with none | late
    · exact .inr ⟨e, rfl, none⟩
    · rw [none_refusedLate run pid] at late
      cases late

/-- The first program is a batch that has ended, well or not, and has saved `n` intents. -/
private def batchEnded (dtos : List CreateIntentDto) (well : Bool) (n : Nat) (c : BackendConfig) : Bool :=
  match c.returned 0 with
  | some (request, outcome) =>
    request == .batchCreate dtos && outcome.toBool == well && (saves (past 0 c.history)).length == n
  | none => false

theorem batchEnded_iff {well n} (isEnd : batchEnded dtos well n c = true) :
    ∃ outcome, c.returned 0 = some (.batchCreate dtos, outcome) ∧ outcome.toBool = well ∧
      (saves (past 0 c.history)).length = n := by
  unfold batchEnded at isEnd
  split at isEnd
  · rename_i request outcome ended
    rw [Bool.and_eq_true, Bool.and_eq_true, beq_iff_eq, beq_iff_eq, beq_iff_eq] at isEnd
    exact ⟨outcome, isEnd.1.1 ▸ ended, isEnd.1.2, isEnd.2⟩
  · cases isEnd

/-- Two items go through: both are saved and returned. -/
theorem both_items_saved :
    ∃ ts c, Run (backendService {}) (batchSetting {}) ts c ∧
      ∃ created, c.returned 0 = some (.batchCreate [sampleOrder, sampleOrder], .ok (.batch created)) ∧
        saves (past 0 c.history) = created ∧ created.length = 2 := by
  obtain ⟨ts, c, run, isEnd⟩ := Run.exists_of_trace (backendService {}) (batchSetting {}) {}
    (List.flatten [[.arrive (.batchCreate [sampleOrder, sampleOrder])], List.replicate 12 (.act 0 { id := "first" }),
      List.replicate 6 (.act 0 { id := "second" })])
    (fun _ c => batchEnded [sampleOrder, sampleOrder] true 2 c) trivial (fun _ _ => trivial) (by decide +kernel)
  obtain ⟨outcome, ended, _, two⟩ := batchEnded_iff isEnd
  rcases batch_all_or_nothing run ended with ⟨created, rfl, isCreated, _⟩ | ⟨e, rfl, none⟩
  · exact ⟨ts, c, run, created, ended, isCreated, isCreated ▸ two⟩
  · rw [none] at two
    cases two

/-- The write of the second item is refused: the batch fails and the first item stays. -/
theorem first_item_left :
    ∃ ts c, Run (backendService {}) anyRuns ts c ∧
      ∃ e, c.returned 0 = some (.batchCreate [sampleOrder, sampleOrder], .error e) ∧
        (saves (past 0 c.history)).length = 1 := by
  obtain ⟨ts, c, run, isEnd⟩ := Run.exists_of_trace (backendService {}) anyRuns {}
    (List.flatten [[.arrive (.batchCreate [sampleOrder, sampleOrder])], List.replicate 12 (.act 0 { id := "first" }),
      List.replicate 4 (.act 0 { id := "second" }), [.act 0 { throws := some (.other "write failed" false) }]])
    (fun _ c => batchEnded [sampleOrder, sampleOrder] false 1 c) trivial (fun _ _ => trivial) (by decide +kernel)
  obtain ⟨outcome, ended, failed, one⟩ := batchEnded_iff isEnd
  cases outcome with
  | ok response => cases failed
  | error e => exact ⟨ts, c, run, e, ended, one⟩

end VortexBackend
