/-
Module: VortexBackend.Proofs.HandlerKnowledge
Purpose: What a handler has read when it writes. The stores guard the state of a record and little else.
Main exports: Knows, Informed
-/
import VortexBackend.Proofs.ServiceCalls

namespace VortexBackend

open PartialFillService BigInt
open Async (calls_bind calls_pure)

/-! ### What a program has read -/

/-- The first thing the program did was to load this intent. -/
def Loaded (past : List BackendExchange) (id : String) (intent : Intent) : Prop :=
  past.getLast? = some ⟨.intents (.findById id), some intent⟩

variable {past past' : List BackendExchange} {id : String} {intent : Intent} {patch : IntentPatch}

theorem Loaded.mono (loaded : Loaded past id intent) (longer : past <:+ past') : Loaded past' id intent := by
  obtain ⟨newer, rfl⟩ := longer
  unfold Loaded at *
  rw [List.getLast?_append, loaded, Option.some_or]

theorem Loaded.mem (loaded : Loaded past id intent) :
    (⟨.intents (.findById id), some intent⟩ : BackendExchange) ∈ past :=
  List.mem_of_getLast? loaded

/-- The tranches of an intent as the program last listed them. -/
def lastListing (id : String) : List BackendExchange → Option (List IntentFill)
  | [] => none
  | ⟨.fills (.listByIntent id'), rows⟩ :: earlier => if id' = id then some rows else lastListing id earlier
  | _ :: earlier => lastListing id earlier

/-- The intent that the program has just loaded: it has done nothing since, or only looked at the switches. -/
def justLoaded : List BackendExchange → Option (String × Intent)
  | [⟨.intents (.findById id), some intent⟩] => some (id, intent)
  | [⟨.killSwitch, _⟩, ⟨.intents (.findById id), some intent⟩] => some (id, intent)
  | _ => none

theorem justLoaded_mem (loaded : justLoaded past = some (id, intent)) :
    (⟨.intents (.findById id), some intent⟩ : BackendExchange) ∈ past := by
  unfold justLoaded at loaded
  split at loaded
  · cases loaded
    exact .head _
  · cases loaded
    exact .tail _ (.head _)
  · cases loaded

/-- The program has seen the deadline of the intent pass: it listed the intent after it read the clock, or it
    read the clock right after it loaded the intent. -/
inductive Overdue : List BackendExchange → String → Prop where
  | listed {past : List BackendExchange} {list : List Intent} {intent : Intent} {ms : Nat}
      (read : (⟨.now, ms⟩ : BackendExchange) ∈ past) (member : intent ∈ list)
      (passed : intent.deadline ≤ ms / 1000) :
      Overdue (⟨.intents (.findByState .open), list⟩ :: past) intent.intentId
  | loaded {past : List BackendExchange} {key id : String} {intent : Intent} {ms : Nat}
      (loaded : justLoaded past = some (key, intent)) (names : id = key ∨ id = intent.intentId)
      (passed : intent.deadline ≤ ms / 1000) :
      Overdue (⟨.now, ms⟩ :: past) id
  | later {past : List BackendExchange} {id : String} (x : BackendExchange) (before : Overdue past id) :
      Overdue (x :: past) id

theorem Overdue.mono (overdue : Overdue past id) (longer : past <:+ past') : Overdue past' id := by
  obtain ⟨newer, rfl⟩ := longer
  induction newer with
  | nil => exact overdue
  | cons x newer ih => exact .later x ih

/-- The program has read the intent as accepted and past its deadline. -/
def Missed (past : List BackendExchange) (id : String) (now : Nat) : Prop :=
  ∃ intent : Intent, intent.intentId = id ∧ intent.deadline ≤ now ∧
    ((∃ list : List Intent, (⟨.intents (.findByState .accepted), list⟩ : BackendExchange) ∈ past ∧
        intent ∈ list) ∨
      ∃ key, Loaded past key intent ∧ intent.state = .accepted)

theorem Missed.mono {now} (missed : Missed past id now) (longer : past <:+ past') : Missed past' id now := by
  obtain ⟨intent, isId, passed, ⟨list, read, member⟩ | ⟨key, loaded, accepted⟩⟩ := missed
  · exact ⟨intent, isId, passed, .inl ⟨list, longer.mem read, member⟩⟩
  · exact ⟨intent, isId, passed, .inr ⟨key, loaded.mono longer, accepted⟩⟩

/-- The program loaded the intent as one that is filled whole. -/
def LoadedWhole (past : List BackendExchange) (id : String) : Prop :=
  ∃ intent, Loaded past id intent ∧ intent.partialFills = false

theorem LoadedWhole.mono (whole : LoadedWhole past id) (longer : past <:+ past') : LoadedWhole past' id := by
  obtain ⟨intent, loaded, isWhole⟩ := whole
  exact ⟨intent, loaded.mono longer, isWhole⟩

/-- The program listed the tranches of an intent it had loaded, and nothing was reserved. -/
structure Unreserved (past : List BackendExchange) (id : String) (rows : List IntentFill)
    (alloc : Allocation) : Prop where
  listed : lastListing id past = some rows
  loaded : ∃ key intent, Loaded past key intent ∧ intent.intentId = id ∧
    allocation intent.srcAmount rows = some alloc
  unreserved : alloc.reserved ≤ 0

theorem Unreserved.cons {rows alloc} (known : Unreserved past id rows alloc) {x}
    (same : lastListing id (x :: past) = lastListing id past) : Unreserved (x :: past) id rows alloc := by
  obtain ⟨listed, ⟨key, intent, loaded, isId, split⟩, unreserved⟩ := known
  exact ⟨same.trans listed, ⟨key, intent, loaded.mono (List.suffix_cons _ _), isId, split⟩, unreserved⟩

/-- What a settlement writes: the totals of the tranches that were filled. -/
def settlementPatch (rows : List IntentFill) (dstTotal feeTotal : Int) (now : Nat) : IntentPatch where
  fillAmount := some (some (toText dstTotal))
  feeAmount := some (some (toText feeTotal))
  txHash := some ((lastFilled (rows.filter (·.status == .filled))).bind (·.txHash))
  filledAt := some (some now)

/-- The sums of what the filled tranches delivered and of their fees. -/
def FilledTotals (rows : List IntentFill) (dstTotal feeTotal : Int) : Prop :=
  total (·.dstAmount) (rows.filter (·.status == .filled)) = some dstTotal ∧
    total (·.feeAmount) (rows.filter (·.status == .filled)) = some feeTotal

/-- The last call of the program moved the intent from open to accepted. -/
def JustAccepted (past : List BackendExchange) (id : String) : Prop :=
  ∃ (solver : String) (deadline now : Nat) (intent : Intent) (earlier : List BackendExchange),
    past = ⟨.intents (.acceptIfOpen id solver deadline now), .written intent⟩ :: earlier

/-- A settlement accepts the intent and then fills it with the totals of the tranches it listed. -/
def Settlement (past : List BackendExchange) (id : String) (patch : IntentPatch) : Prop :=
  ∃ rows alloc dstTotal feeTotal now, JustAccepted past id ∧ Unreserved past id rows alloc ∧
    FilledTotals rows dstTotal feeTotal ∧ patch = settlementPatch rows dstTotal feeTotal now

/-- A reported fill reaches the minimum of the intent that the program loaded. -/
def FillReport (past : List BackendExchange) (id : String) (patch : IntentPatch) : Prop :=
  ∃ intent minimum dto amount fee now, Loaded past id intent ∧ intent.partialFills = false ∧
    parse intent.minDstAmount = some minimum ∧
    decimal (trim (FillIntentDto.fillAmount dto).toList) = some amount ∧
    minimum ≤ (amount : Int) ∧ patch = IntentsController.fillPatch dto fee now

theorem FillReport.mono (report : FillReport past id patch) (longer : past <:+ past') : FillReport past' id patch := by
  obtain ⟨intent, minimum, dto, amount, fee, now, loaded, rest⟩ := report
  exact ⟨intent, minimum, dto, amount, fee, now, loaded.mono longer, rest⟩

theorem FillReport.whole (report : FillReport past id patch) : LoadedWhole past id := by
  obtain ⟨intent, _, _, _, _, _, loaded, isWhole, _⟩ := report
  exact ⟨intent, loaded, isWhole⟩

/-- A new tranche is one that fits beside the tranches listed last, on the terms of the loaded intent. -/
def Reservation (cfg : BackendSettings) (past : List BackendExchange) (row : IntentFill) : Prop :=
  ∃ key intent solver amount now rows after, Loaded past key intent ∧ intent.partialFills = true ∧
    intent.srcVerified ≠ some false ∧ lastListing intent.intentId past = some rows ∧
    planReservation intent.srcAmount intent.minFillAmount rows amount = some (.ok after) ∧
    newFillRow (reserveRequest cfg intent solver amount now) = some row

/-- A delivery reaches the minimum of the tranche that the program read. -/
def Delivery (past : List BackendExchange) (fillId : String) (patch : FillPatch) : Prop :=
  ∃ existing minimum delivered txHash now,
    (⟨.fills (.findById fillId), some existing⟩ : BackendExchange) ∈ past ∧
    parse existing.minDstAmount = some minimum ∧ minimum ≤ delivered ∧
    patch = deliveryPatch delivered txHash now

/-- The program has committed the write that `op` stands for. An accept and a fill are of an intent that it loaded
    as one that is filled whole. -/
def Committed (past : List BackendExchange) (id : String) : PendingIntentOp → Prop
  | .create => False
  | .accept => ∃ key solver deadline now updated, updated.intentId = id ∧ LoadedWhole past key ∧
      (⟨.intents (.acceptIfOpen key solver deadline now), .written updated⟩ : BackendExchange) ∈ past
  | .fill => ∃ key solver patch now updated, updated.intentId = id ∧ LoadedWhole past key ∧
      (⟨.intents (.fillIfAccepted key solver patch now), .written updated⟩ : BackendExchange) ∈ past
  | .cancel => ∃ key updated, updated.intentId = id ∧
      (⟨.intents (.cancelIfOpen key), .written updated⟩ : BackendExchange) ∈ past

theorem Committed.mono {op} (committed : Committed past id op) (longer : past <:+ past') : Committed past' id op := by
  cases op with
  | create => cases committed
  | accept | fill =>
    obtain ⟨key, solver, given, now, updated, isId, whole, member⟩ := committed
    exact ⟨key, solver, given, now, updated, isId, whole.mono longer, longer.mem member⟩
  | cancel =>
    obtain ⟨key, updated, isId, member⟩ := committed
    exact ⟨key, updated, isId, longer.mem member⟩

/-- After a committed write, parking moves along the table into its pending state. -/
def Parks (past : List BackendExchange) (id : String) («from» «to» : IntentState) (patch : IntentPatch) : Prop :=
  ∃ op txHash, «to» = IntentsService.PENDING_STATE_BY_OP op ∧ patch = IntentsService.parkPatch op txHash ∧
    legalPair «from» «to» = true ∧ Committed past id op

/-- What a program knows when it makes a call. -/
def Knows (cfg : BackendSettings) (past : List BackendExchange) : BackendCall → Prop
  | .intents (.amendIfOpen _ _ _ now) => now = none
  | .intents (.acceptIfOpen id ..) => LoadedWhole past id ∨ ∃ rows alloc, Unreserved past id rows alloc
  | .intents (.fillIfAccepted id _ patch _) => FillReport past id patch ∨ Settlement past id patch
  | .intents (.cancelIfOpen id) =>
    LoadedWhole past id ∨ ∃ rows alloc, Unreserved past id rows alloc ∧ alloc.filled = 0
  | .intents (.expireIfOpen id) => Overdue past id
  | .intents (.slashIfAccepted id slashedAt _) => Missed past id slashedAt
  | .intents (.transitionIf id «from» «to» patch) => Parks past id «from» «to» patch
  | .intents (.save _) | .intents (.update ..) | .intents (.delete _) => False
  | .fills (.insert row) => Reservation cfg past row
  | .fills (.markFilled fillId _ patch) => Delivery past fillId patch
  | .fills (.markReleased ..) | .creation _ => False
  | _ => True

/-! ### What follows for a write -/

theorem Parks.pending {«from» «to»} (parks : Parks past id «from» «to» patch) :
    «to» ≠ .open ∧ «to» ≠ .expired ∧ «to» ≠ .accepted ∧ «to» ≠ .filled := by
  obtain ⟨op, txHash, rfl, _⟩ := parks
  cases op <;> decide

/-- What a write with that knowledge does to an intent. -/
inductive HandlerWrite (past : List BackendExchange) (clock : Nat) (c : IntentCall) (before after : Intent) : Prop where
  | amended (live : clock / 1000 < before.deadline) (was : before.state = .open) (is : after.state = .open)
  | extended (was : before.state = .accepted) (is : after.state = .accepted)
  | accepted {solver : String} {deadline now : Nat} (isAccept : c = .acceptIfOpen before.intentId solver deadline now)
      (known : LoadedWhole past before.intentId ∨ ∃ rows alloc, Unreserved past before.intentId rows alloc)
      (was : before.state = .open) (is : after.state = .accepted)
  | filled {patch : IntentPatch}
      (known : FillReport past before.intentId patch ∨ Settlement past before.intentId patch)
      (amounts :
        after.fillAmount = (before.assign patch).fillAmount ∧ after.feeAmount = (before.assign patch).feeAmount)
      (was : before.state = .accepted) (is : after.state = .filled)
  | cancelled (isCancel : c = .cancelIfOpen before.intentId) (known : LoadedWhole past before.intentId ∨
        ∃ rows alloc, Unreserved past before.intentId rows alloc ∧ alloc.filled = 0)
      (was : before.state = .open) (is : after.state = .cancelled)
  | expired (overdue : Overdue past before.intentId) (was : before.state = .open) (is : after.state = .expired)
  | slashed {slashedAt : Nat} {reason : String} (isSlash : c = .slashIfAccepted before.intentId slashedAt reason)
      (was : before.state = .accepted) (is : after.state = .slashed)
  | parked {patch : IntentPatch} (parks : Parks past before.intentId before.state after.state patch)

variable {cfg : BackendSettings} {c : IntentCall} {clock : Nat} {before after : Intent}

theorem Knows.write (known : Knows cfg past (.intents c)) (writes : c.Writes clock before after) :
    HandlerWrite past clock c before after := by
  cases c with
  | save | update => cases known
  | findById | findAll | findByState | findByUser | delete => cases writes
  | amendIfOpen id minDstAmount deadline now =>
    obtain ⟨_, was, live, _, rfl⟩ := writes
    cases known
    exact .amended live was was
  | extendDeadlineIfAccepted id newDeadline =>
    obtain ⟨_, was, _, rfl⟩ := writes
    exact .extended was was
  | acceptIfOpen id solver newDeadline now =>
    obtain ⟨rfl, was, _, rfl⟩ := writes
    exact .accepted rfl known was rfl
  | fillIfAccepted id solver patch now =>
    obtain ⟨rfl, was, _, _, rfl⟩ := writes
    exact .filled known ⟨rfl, rfl⟩ was rfl
  | cancelIfOpen id =>
    obtain ⟨rfl, was, rfl⟩ := writes
    exact .cancelled rfl known was rfl
  | expireIfOpen id =>
    obtain ⟨rfl, was, rfl⟩ := writes
    exact .expired known was rfl
  | slashIfAccepted id slashedAt slashReason =>
    obtain ⟨rfl, was, rfl⟩ := writes
    exact .slashed rfl was rfl
  | transitionIf id «from» «to» patch =>
    obtain ⟨rfl, rfl, rfl⟩ := writes
    exact .parked known

theorem Knows.terms_kept (known : Knows cfg past (.intents c)) (writes : c.Writes clock before after) :
    after.intentId = before.intentId ∧ after.allowPartialFill = before.allowPartialFill ∧
      after.user = before.user := by
  cases c with
  | save | update => cases known
  | findById | findAll | findByState | findByUser | delete => cases writes
  | amendIfOpen =>
    obtain ⟨_, _, _, _, rfl⟩ := writes
    exact ⟨rfl, rfl, rfl⟩
  | extendDeadlineIfAccepted | acceptIfOpen =>
    obtain ⟨_, _, _, rfl⟩ := writes
    exact ⟨rfl, rfl, rfl⟩
  | cancelIfOpen | expireIfOpen | slashIfAccepted =>
    obtain ⟨_, _, rfl⟩ := writes
    exact ⟨rfl, rfl, rfl⟩
  | transitionIf id «from» «to» patch =>
    obtain ⟨_, _, rfl⟩ := writes
    obtain ⟨op, txHash, _, rfl, _⟩ := known
    exact ⟨rfl, rfl, rfl⟩
  | fillIfAccepted id solver patch now =>
    obtain ⟨_, _, _, _, rfl⟩ := writes
    rcases known with ⟨_, _, _, _, _, _, _, _, _, _, _, rfl⟩ | ⟨_, _, _, _, _, _, _, _, rfl⟩
    · exact ⟨rfl, rfl, rfl⟩
    · exact ⟨rfl, rfl, rfl⟩

/-- An intent that is open after a write was open before, and its deadline had not passed. -/
theorem HandlerWrite.open_before (write : HandlerWrite past clock c before after) (isOpen : after.state = .open) :
    before.state = .open ∧ clock / 1000 < before.deadline := by
  cases write with
  | amended live was _ => exact ⟨was, live⟩
  | parked parks => exact absurd isOpen parks.pending.1
  | extended _ is | accepted _ _ _ is | filled _ _ _ is | cancelled _ _ _ is | expired _ _ is | slashed _ _ is =>
    cases is.symm.trans isOpen

/-- What is stored after a call was stored before, or the call wrote it over an intent with the same terms. -/
theorem Knows.stored_after {call reply choice w w'} (known : Knows cfg past call)
    (performed : BackendWorld.perform call choice w = some (reply, w')) (present : w'.intents.get id = some after) :
    w.intents.get id = some after ∨ ∃ c before, call = .intents c ∧ w.intents.get id = some before ∧
      after.partialFills = before.partialFills ∧ HandlerWrite past w.clock c before after := by
  rcases VortexBackend.stored_after performed present with
    same | ⟨c, isCall, _, saved | ⟨before, found, writes⟩⟩
  · exact .inl same
  · rw [isCall, saved] at known
    cases known
  · rw [isCall] at known
    have sameTerms : after.partialFills = before.partialFills := by
      rw [Intent.partialFills, (known.terms_kept writes).2.1, Intent.partialFills]
    exact .inr ⟨c, before, isCall, found, sameTerms, known.write writes⟩

/-! ### Functions that write with that knowledge -/

/-- The function makes each call knowing what it should. -/
def Informed (cfg : BackendSettings) {α : Type} (past : List BackendExchange) (x : Backend α) : Prop :=
  x.Follows (Knows cfg) (fun _ _ => True) past

/-- A call that needs no knowledge. -/
def AnyTime (cfg : BackendSettings) (call : BackendCall) : Prop := ∀ past, Knows cfg past call

instance (cfg : BackendSettings) : AllowsPlain (AnyTime cfg) := by
  refine ⟨fun call plain past => ?_⟩
  cases call with
  | intents c | fills c => cases c <;> trivial
  | _ => trivial

namespace Informed

variable {cfg : BackendSettings} {α β : Type} {past : List BackendExchange}

variable {x : Backend α} {f : α → Backend β}

theorem free (calls : x.Calls (AnyTime cfg)) : Informed cfg past x :=
  Async.follows_of_calls calls (fun _ _ _ anyTime => anyTime _) fun _ _ _ => trivial

variable {P : α → List BackendExchange → Prop}

theorem bind_of (first : x.Follows (Knows cfg) (Async.onOk (fun _ _ => True) P) past)
    (rest : ∀ value past', past <:+ past' → P value past' → Informed cfg past' (f value)) :
    Informed cfg past (x >>= f) :=
  Async.follows_bind_of first rest

theorem bind (first : Informed cfg past x) (rest : ∀ value past', past <:+ past' → Informed cfg past' (f value)) :
    Informed cfg past (x >>= f) := by
  refine bind_of (P := fun _ _ => True) (Async.follows_mono ?_ first) fun value past' longer _ => ?_
  · intro outcome past' _
    cases outcome <;> trivial
  · exact rest value past' longer

theorem free_bind (calls : x.Calls (AnyTime cfg))
    (rest : ∀ value past', past <:+ past' → Informed cfg past' (f value)) : Informed cfg past (x >>= f) :=
  bind (free calls) rest

theorem call_bind {c} {f : BackendReply c → Backend α} (known : Knows cfg past c)
    (rest : ∀ reply, Informed cfg (⟨c, reply⟩ :: past) (f reply)) : Informed cfg past (Backend.call c >>= f) :=
  Async.Follows.call_bind known rest

theorem broadcast_bind {event id} {f : Unit → Backend α}
    (rest : ∀ reply, Informed cfg (⟨.external (.broadcast event id), reply⟩ :: past) (f ())) :
    Informed cfg past (Async.attempt (Backend.external (.broadcast event id)) >>= f) :=
  .attempt_bind ⟨trivial, fun | .error _ => trivial | .ok value => rest (.ok value)⟩

theorem throwWhen_bind {condition e} {f : Unit → Backend α} (rest : condition = false → Informed cfg past (f ())) :
    Informed cfg past (Async.throwWhen condition e >>= f) :=
  Async.Follows.throwWhen_bind (fun _ => trivial) rest

theorem bigInt_bind {value} (rest : ∀ n, value = some n → Informed cfg past (f n)) :
    Informed cfg past (Backend.bigInt value >>= f) := by
  cases value with
  | none => trivial
  | some n => exact rest n rfl

theorem nowSeconds_bind {f : Nat → Backend α}
    (rest : ∀ ms : Nat, Informed cfg (⟨.now, ms⟩ :: past) (f (ms / 1000))) :
    Informed cfg past (Backend.nowSeconds >>= f) :=
  (Async.follows_bind _ _).mpr (.call_bind trivial rest)

theorem onEachWith {body : β → α → Backend β} {acc xs}
    (mono : ∀ x past past', past <:+ past' → P x past → P x past')
    (known : ∀ x ∈ xs, P x past) (iteration : ∀ acc x past', P x past' → Informed cfg past' (body acc x)) :
    Informed cfg past (Async.onEachWith body acc xs) := by
  induction xs generalizing acc past with
  | nil => trivial
  | cons x xs ih =>
    refine bind (iteration acc x past (known x (.head _))) fun acc' past' longer => ih ?_
    intro y member
    exact mono y past past' longer (known y (.tail _ member))

end Informed

end VortexBackend
