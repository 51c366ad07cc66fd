/-
Module: VortexBackend.Proofs.ScopedPauses
Purpose: When a request that the guard lets through creates nothing that an active switch covers.
Main exports: created_of_items, items_of_created, scoped_pauses_stop_creation_iff
-/
import VortexBackend.KillSwitch.Guard
import VortexBackend.Proofs.BatchCreation

namespace VortexBackend

open Creation IntentsService JsonValue
open Async (follows_bind follows_mono follows_of_calls follows_onEachWith follows_tryCatch calls_bind calls_pure
  calls_attempt calls_throwWhen calls_onEachWith)

/-! ### What a handler saves -/

/-- A save is of an intent with the property. -/
def SavedAs (P : Intent → Prop) : BackendCall → Prop
  | .intents (.save intent) => P intent
  | _ => True

/-- Every intent that a program saves has the property, whatever its calls are answered. -/
def EveryCreated {α : Type} (x : Backend α) (P : Intent → Prop) : Prop :=
  x.Follows (fun _ call => SavedAs P call) (fun _ _ => True) []

theorem SavedAs.of_saveless {P : Intent → Prop} {call} (saveless : call.Saveless) : SavedAs P call := by
  cases call with
  | intents c =>
    cases c with
    | save => cases saveless
    | _ => trivial
  | _ => trivial

variable {intent : Intent}

section Saving

variable {α β : Type} {P : Intent → Prop} {past : List BackendExchange}

/-- The same from any past, for a program whose result is used. -/
abbrev SavesOnly (P : Intent → Prop) (x : Backend α) (R : α → Prop) (past : List BackendExchange) : Prop :=
  x.Follows (fun _ call => SavedAs P call) (Async.onOk (fun _ _ => True) fun value _ => R value) past

variable {f : β → Backend α}

theorem saves_bind {x} {R : β → Prop} {R' : α → Prop} (first : SavesOnly P x R past)
    (rest : ∀ value past', R value → SavesOnly P (f value) R' past') : SavesOnly P (x >>= f) R' past :=
  .andThen first (fun _ _ _ => trivial) rest

theorem saves_saveless_bind {x} {R : α → Prop} (calls : x.Calls BackendCall.Saveless)
    (rest : ∀ value past', SavesOnly P (f value) R past') : SavesOnly P (x >>= f) R past := by
  have first : SavesOnly P x (fun _ => True) past := by
    apply follows_of_calls calls
    · exact fun _ _ _ saveless => .of_saveless saveless
    · intro outcome _ _
      cases outcome <;> trivial
  exact saves_bind first fun value past' _ => rest value past'

theorem saveless_detached {x : Backend α} (calls : x.Calls BackendCall.Detached) : x.Calls BackendCall.Saveless :=
  calls.mono fun _ detached => detached.neutral.saveless

theorem NewRecord.address {cfg data now recent} (record : NewRecord cfg data now recent intent) :
    intent.srcChain = data.srcChain ∧ intent.srcToken = data.srcToken := by
  obtain ⟨_, _, _, rfl | ⟨_, rfl⟩⟩ := record <;> exact ⟨rfl, rfl⟩

/-- What is wanted of an intent, if it is said of its chain and its token, is said of the order. -/
def OfOrder (P : Intent → Prop) (data : NewIntentData) : Prop :=
  ∀ intent : Intent, intent.srcChain = data.srcChain → intent.srcToken = data.srcToken → P intent

variable {cfg : BackendSettings} {data : NewIntentData}

section

variable (order : OfOrder P data)
include order

theorem persists_order (now : Nat) :
    Persists cfg data now (fun _ call => SavedAs P call) (Async.onOk (fun _ _ => True) fun _ _ => True) past where
  prepares := fun _ _ _ prepares => .of_saveless prepares.neutral.saveless
  saves := fun _ intent _ record => order intent record.address.1 record.address.2
  saved := fun _ _ _ _ _ => trivial
  failed := fun _ _ _ _ => trivial

theorem saves_runCreation (key : String) (now createdAt ticket : Nat) :
    SavesOnly P (runCreation cfg data key now createdAt ticket) (fun _ => True) past := by
  apply (follows_tryCatch _ _).mpr
  exact .andThen (follows_persistNewIntentAt (persists_order order createdAt))
    (fun _ _ _ => ⟨trivial, fun _ => trivial⟩) fun _ _ _ => ⟨trivial, fun _ => ⟨trivial, fun _ => trivial⟩⟩

theorem saves_createClaimed (key : String) (now : Option Nat) (claim : CreationClaim) :
    SavesOnly P (createClaimed cfg data key now claim) (fun _ => True) past := by
  cases claim with
  | joined ticket =>
    refine ⟨trivial, fun outcome => ?_⟩
    cases outcome <;> trivial
  | owner ticket createdAt => exact saves_runCreation order key _ createdAt ticket

theorem saves_create (idempotencyKey : Option String) :
    SavesOnly P (create cfg data idempotencyKey) (fun _ => True) past := by
  unfold create
  split
  · exact follows_persistNewIntent trivial fun _ => persists_order order _
  · rename_i key _
    refine ⟨trivial, fun found => ?_⟩
    cases found with
    | claimed claim => exact saves_createClaimed order key none claim
    | cached intentId expiresAt now =>
      refine ⟨trivial, fun stored => ?_⟩
      cases stored with
      | some intent => trivial
      | none => exact ⟨trivial, fun claim => saves_createClaimed order key (some now) claim⟩

end

/-- `POST /intents` saves intents of its body's chain and token. -/
theorem creates_create (dto : CreateIntentDto)
    (order : ∀ terms now, OfOrder P (IntentsController.intentData cfg dto terms now)) :
    SavesOnly P (IntentsController.create cfg dto) (fun _ => True) past := by
  apply saves_saveless_bind (saveless_detached calls_clock)
  intro now past₁
  have counts : (countOpenByUser dto.user).Calls BackendCall.Saveless := ⟨trivial, fun _ => trivial⟩
  apply saves_saveless_bind counts
  intro openCount past₂
  apply saves_saveless_bind (calls_throwWhen _ _)
  intro _ past₃
  apply saves_saveless_bind (calls_attempt ((Async.calls_call _).mpr trivial))
  intro _ past₄
  apply saves_saveless_bind (calls_attempt ((Async.calls_call _).mpr trivial))
  intro _ past₅
  apply saves_saveless_bind (saveless_detached (calls_partialFillTerms dto))
  intro terms past₆
  apply saves_saveless_bind (saveless_detached (calls_deliveryCheck trivial))
  intro _ past₇
  apply saves_bind (saves_create (order terms now) dto.idempotencyKey)
  intro intent past₈ _
  apply follows_of_calls (saveless_detached (calls_withProgress (fun _ => trivial) intent))
  · exact fun _ _ _ saveless => .of_saveless saveless
  · intro outcome _ _
    cases outcome <;> trivial

variable {dtos : List CreateIntentDto}

theorem saves_items (now : Nat)
    (order : ∀ dto ∈ dtos, ∀ terms now, OfOrder P (IntentsController.intentData cfg dto terms now)) :
    SavesOnly P (Async.onEachWith (IntentsController.batchItem cfg now) [] dtos)
      (fun items => ∀ item ∈ items, OfOrder P item) past := by
  apply follows_onEachWith
    (P := fun items rest _ => (∀ item ∈ items, OfOrder P item) ∧ ∀ dto ∈ rest, dto ∈ dtos)
  · intro items dto rest past ⟨collected, fromBatch⟩
    apply saves_saveless_bind (calls_attempt ((Async.calls_call _).mpr trivial))
    intro _ past₁
    apply saves_saveless_bind (calls_attempt ((Async.calls_call _).mpr trivial))
    intro _ past₂
    apply saves_saveless_bind (saveless_detached (calls_partialFillTerms dto))
    intro terms past₃
    refine ⟨?_, fun other member => fromBatch other (.tail _ member)⟩
    intro item member
    rcases List.mem_append.mp member with earlier | isLast
    · exact collected item earlier
    · rw [List.mem_singleton.mp isLast]
      exact order dto (fromBatch dto (.head _)) terms now
  · exact fun items _ holds => holds.1
  · exact ⟨nofun, fun _ member => member⟩

theorem saves_createBatch {items} (order : ∀ item ∈ items, OfOrder P item) :
    SavesOnly P (createBatch cfg items) (fun _ => True) past := by
  apply saves_saveless_bind (calls_onEachWith fun _ _ _ => calls_checkBatchItem _ _)
  intro checked past₁
  obtain ⟨errors, counts⟩ := checked
  change SavesOnly P (if _ then _ else _ : Backend _) _ _
  split
  · trivial
  · have loop : SavesOnly P (Async.onEachWith (fun created item => do
        let intent ← persistNewIntent cfg item
        pure (created ++ [intent])) [] items) (fun _ => True) past₁ := by
      apply follows_onEachWith (P := fun _ rest _ => ∀ item ∈ rest, OfOrder P item)
      · intro created item rest past inBatch
        apply saves_bind (R := fun _ => True)
        · exact follows_persistNewIntent trivial fun _ => persists_order (inBatch item (.head _)) _
        · exact fun _ _ _ => fun other member => inBatch other (.tail _ member)
      · exact fun _ _ _ => trivial
      · exact order
    exact saves_bind loop fun _ _ _ => trivial

/-- `POST /intents/batch-create` saves intents of its items' chains and tokens. -/
theorem creates_batchCreate
    (order : ∀ dto ∈ dtos, ∀ terms now, OfOrder P (IntentsController.intentData cfg dto terms now)) :
    SavesOnly P (IntentsController.batchCreate cfg dtos) (fun _ => True) past := by
  apply saves_saveless_bind (calls_throwWhen _ _)
  intro _ past₁
  apply saves_saveless_bind (calls_throwWhen _ _)
  intro _ past₂
  apply saves_saveless_bind (saveless_detached calls_clock)
  intro now past₃
  apply saves_bind (saves_items now order)
  intro items past₄ collected
  apply saves_saveless_bind (saveless_detached (calls_preflightBatch items))
  intro errors past₅
  apply saves_saveless_bind (calls_throwWhen _ _)
  intro _ past₆
  apply saves_bind (saves_createBatch collected)
  intro result past₇ _
  obtain ⟨created, failed⟩ := result
  apply saves_saveless_bind (calls_throwWhen _ _)
  exact fun _ _ => trivial

end Saving

/-! ### What a handler can save -/

section Possible

variable (P : Intent → Prop)

/-- A program that saves only what has the property can return, and what it has saved by then tells the rest. -/
def Tells {α : Type} (x : Backend α) (R : α → Prop) : Prop :=
  ∀ past Q, x.Follows (fun _ call => SavedAs P call) Q past → ∃ value past', R value ∧ Q (.ok value) past'

variable {P} {α β : Type} {R : α → Prop}

theorem tells_pure {value} (holds : R value) : Tells P (pure value) R :=
  fun past _ ends => ⟨value, past, holds, ends⟩

theorem tells_bind {x : Backend β} {f : β → Backend α} {S : β → Prop} (first : Tells P x S)
    (rest : ∀ value, S value → Tells P (f value) R) : Tells P (x >>= f) R := by
  intro past Q follows
  obtain ⟨value, past', holds, next⟩ := first past _ ((follows_bind x f).mp follows)
  exact rest value holds past' Q next

theorem tells_mono {x : Backend α} {S : α → Prop} (weaker : ∀ value, S value → R value) (tells : Tells P x S) :
    Tells P x R := by
  intro past Q follows
  obtain ⟨value, past', holds, ends⟩ := tells past Q follows
  exact ⟨value, past', weaker value holds, ends⟩

theorem tells_onEachWith {body : β → α → Backend β} (I : β → List α → Prop) {xs}
    (step : ∀ acc x rest, I acc (x :: rest) → Tells P (body acc x) fun acc' => I acc' rest) :
    ∀ acc, I acc xs → Tells P (Async.onEachWith body acc xs) fun acc' => I acc' [] := by
  induction xs with
  | nil => exact fun acc start => tells_pure start
  | cons x xs ih => exact fun acc start => tells_bind (step acc x xs start) fun acc' next => ih acc' next

/-- An order that was saved tells the property of an intent of its chain and its token. -/
def Told (P : Intent → Prop) (data : NewIntentData) : Prop :=
  ∃ intent : Intent, intent.srcChain = data.srcChain ∧ intent.srcToken = data.srcToken ∧ P intent

variable {cfg : BackendSettings} {data : NewIntentData}

theorem told_persistNewIntentAt (now : Nat) : Tells P (persistNewIntentAt cfg data now) fun _ => Told P data := by
  intro past Q follows
  have issuing := follows.2 (0 : Nat)
  have rollout := issuing.2 ""
  have writing := rollout.2 false
  have saving := writing.2 (.ok ())
  exact ⟨_, _, ⟨_, rfl, rfl, saving.1⟩, saving.2 default⟩

theorem told_persistNewIntent : Tells P (persistNewIntent cfg data) fun _ => Told P data := by
  intro past Q follows
  exact told_persistNewIntentAt _ _ Q (follows.2 (0 : Nat))

theorem told_create (key : Option String) : Tells P (create cfg data key) fun _ => Told P data := by
  unfold create
  split
  · exact told_persistNewIntent
  · -- nobody else has claimed the key
    rename_i key _
    intro past Q follows
    have claimed := follows.2 (.claimed (.owner 0 0))
    change (runCreation cfg data key 0 0 0).Follows _ _ _ at claimed
    rw [runCreation, follows_tryCatch, follows_bind] at claimed
    obtain ⟨intent, past', told, remembering⟩ := told_persistNewIntentAt 0 _ _ claimed
    have settling := remembering.2 ()
    exact ⟨_, _, told, settling.2 ()⟩

variable {dto : CreateIntentDto} {dtos : List CreateIntentDto} {past : List BackendExchange}

/-- What a collected order keeps of its item. -/
def NewIntentData.keeps (data : NewIntentData) : SupportedChain × String × String :=
  (data.srcChain, data.srcToken.address, data.user)

def CreateIntentDto.keeps (dto : CreateIntentDto) : SupportedChain × String × String :=
  (dto.srcChain, dto.srcTokenAddress, dto.user)

/-- The same of an item. -/
def ToldOf (P : Intent → Prop) (dto : CreateIntentDto) : Prop :=
  ∃ intent : Intent, intent.srcChain = dto.srcChain ∧ intent.srcToken.address = dto.srcTokenAddress ∧ P intent

theorem Told.item (told : Told P data) (kept : data.keeps = dto.keeps) : ToldOf P dto := by
  obtain ⟨intent, chain, token, holds⟩ := told
  simp only [NewIntentData.keeps, CreateIntentDto.keeps, Prod.mk.injEq] at kept
  exact ⟨intent, chain.trans kept.1, by rw [token, kept.2.1], holds⟩

/-- The terms of an item are in order. -/
def TermsInOrder (cfg : BackendSettings) (dto : CreateIntentDto) : Prop :=
  ∃ terms, IntentsController.partialFillTerms cfg dto = pure terms

theorem told_deliverable {user contract minDstAmount fresh} :
    Tells P (assertDeliverable cfg user contract minDstAmount fresh) fun _ => True := by
  unfold assertDeliverable
  split
  · exact tells_pure trivial
  · exact fun past Q follows => ⟨_, _, trivial, follows.2 (.ok none)⟩

theorem told_single {Q} (inOrder : TermsInOrder cfg dto)
    (follows : (IntentsController.create cfg dto).Follows (fun _ call => SavedAs P call) Q past) : ToldOf P dto := by
  obtain ⟨terms, isTerms⟩ := inOrder
  unfold IntentsController.create at follows
  simp only [isTerms] at follows
  have counting := follows.2 (0 : Nat)
  have srcToken := counting.2 []
  have dstToken := srcToken.2 (.ok ())
  have delivering := dstToken.2 (.ok ())
  obtain ⟨_, past₁, _, creating⟩ := told_deliverable _ _ ((follows_bind _ _).mp delivering)
  obtain ⟨intent, past₂, told, _⟩ := told_create dto.idempotencyKey _ _ ((follows_bind _ _).mp creating)
  exact told.item rfl

theorem told_items (now : Nat) (inOrder : ∀ dto ∈ dtos, TermsInOrder cfg dto) :
    Tells P (Async.onEachWith (IntentsController.batchItem cfg now) [] dtos) fun items =>
      items.map (·.keeps) = dtos.map (·.keeps) := by
  refine tells_mono (fun items ends => ?_) (tells_onEachWith (fun items rest => items.map (·.keeps) ++
    rest.map (·.keeps) = dtos.map (·.keeps) ∧ ∀ dto ∈ rest, TermsInOrder cfg dto) ?_ [] ⟨rfl, inOrder⟩)
  · simpa using ends.1
  · rintro items dto rest ⟨kept, inOrder⟩ past Q follows
    obtain ⟨terms, isTerms⟩ := inOrder dto (.head _)
    unfold IntentsController.batchItem at follows
    simp only [isTerms] at follows
    have srcToken := follows.2 (.ok ())
    have dstToken := srcToken.2 (.ok ())
    refine ⟨_, _, ⟨?_, fun dto member => inOrder dto (.tail _ member)⟩, dstToken⟩
    rw [← kept]
    simp [NewIntentData.keeps, CreateIntentDto.keeps, IntentsController.intentData]

theorem told_preflight (items : List NewIntentData) :
    Tells P (IntentsController.preflightBatch cfg items) fun errors => errors = [] := by
  unfold IntentsController.preflightBatch
  split
  · refine tells_onEachWith (fun errors _ => errors = []) ?_ [] rfl
    rintro errors item rest rfl past Q follows
    exact ⟨_, _, rfl, follows.2 (.ok none)⟩
  · exact tells_pure rfl

/-- The counts of a batch leave room for the items that are still to come. -/
structure BatchRoom (checked : List BatchError × JsMap String Nat) (rest : List (NewIntentData × Nat)) : Prop where
  noErrors : checked.1 = []
  named : ∀ item ∈ rest, item.1.user.toLower.isEmpty = false
  counts : ∀ user, (checked.2.get user).getD 0 + rest.length ≤ MAX_OPEN_INTENTS_PER_USER

theorem told_withStanding (counts : JsMap String Nat) (user : String) :
    Tells P (withStanding counts user) fun counts' =>
      ∀ other, (counts'.get other).getD 0 = (counts.get other).getD 0 := by
  unfold withStanding
  split
  · exact tells_pure fun _ => rfl
  · rename_i absent
    intro past Q follows
    refine ⟨_, _, fun other => ?_, follows.2 []⟩
    rw [JsMap.get_set]
    split
    · rename_i same
      simp_all
    · rfl

theorem told_checks {items : List (NewIntentData × Nat)} (room : BatchRoom ([], .empty) items) :
    Tells P (Async.onEachWith checkBatchItem ([], .empty) items) fun checked => checked.1 = [] := by
  refine tells_mono (fun checked ends => ends.noErrors) (tells_onEachWith BatchRoom ?_ ([], .empty) room)
  rintro ⟨errors, counts⟩ item rest ⟨rfl, named, counted⟩
  unfold checkBatchItem
  simp only [named item (.head _)]
  refine tells_bind (told_withStanding counts item.1.user) fun counts' same => ?_
  have enough := counted item.1.user.toLower
  rw [List.length_cons] at enough
  have within : ¬ MAX_OPEN_INTENTS_PER_USER < (counts'.get item.1.user.toLower).getD 0 + 1 := by
    rw [same]
    dsimp only at enough
    omega
  rw [if_neg within]
  refine tells_pure ⟨rfl, fun other member => named other (.tail _ member), fun other => ?_⟩
  have enough' := counted other
  rw [List.length_cons] at enough'
  rw [JsMap.get_set]
  split
  · rw [Option.getD_some, same]
    dsimp only at enough
    omega
  · rw [same]
    dsimp only at enough'
    omega

theorem told_createBatch {items : List NewIntentData} (room : BatchRoom ([], .empty) items.zipIdx) :
    Tells P (createBatch cfg items) fun _ => ∀ item ∈ items, Told P item := by
  refine tells_bind (told_checks room) ?_
  rintro ⟨errors, counts⟩ rfl
  refine tells_bind (S := fun _ => ∀ item ∈ items, Told P item) ?_ fun _ told => tells_pure told
  refine tells_mono (fun _ ends => ?_) (tells_onEachWith
    (fun _ rest => ∀ item ∈ items, item ∈ rest ∨ Told P item) ?_ [] fun _ member => .inl member)
  · exact fun item member => (ends item member).resolve_left List.not_mem_nil
  · intro created item rest left
    refine tells_bind told_persistNewIntent fun intent told => tells_pure fun other member => ?_
    rcases left other member with later | earlier
    · rcases List.mem_cons.mp later with rfl | later
      · exact .inr told
      · exact .inl later
    · exact .inr earlier

theorem told_batch {Q} (short : dtos.length ≤ IntentsController.BATCH_CREATE_MAX_INTENTS)
    (inOrder : ∀ dto ∈ dtos, TermsInOrder cfg dto ∧ dto.user.toLower.isEmpty = false)
    (follows : (IntentsController.batchCreate cfg dtos).Follows (fun _ call => SavedAs P call) Q past) :
    ∀ dto ∈ dtos, ToldOf P dto := by
  intro dto member
  have notEmpty : dtos.isEmpty = false := by
    cases dtos with
    | nil => cases member
    | cons => rfl
  unfold IntentsController.batchCreate at follows
  simp only [notEmpty, decide_eq_false (Nat.not_lt.mpr short)] at follows
  have collecting := follows.2 (0 : Nat)
  obtain ⟨items, past₁, kept, checking⟩ :=
    told_items _ (fun dto member => (inOrder dto member).1) _ _ ((follows_bind _ _).mp collecting)
  obtain ⟨_, past₂, rfl, creating⟩ := told_preflight items _ _ ((follows_bind _ _).mp checking)
  have room : BatchRoom ([], .empty) items.zipIdx := by
    refine ⟨rfl, fun item member => ?_, fun user => ?_⟩
    · have isKept := List.mem_map_of_mem (f := (·.keeps)) (List.fst_mem_of_mem_zipIdx member)
      rw [kept] at isKept
      obtain ⟨dto, member, same⟩ := List.mem_map.mp isKept
      have sameUser : dto.user = item.1.user := congrArg (·.2.2) same
      rw [← sameUser]
      exact (inOrder dto member).2
    · have sameLength := congrArg List.length kept
      rw [List.length_map, List.length_map] at sameLength
      rw [JsMap.get_empty, Option.getD_none, List.length_zipIdx, sameLength, Nat.zero_add]
      exact short
  obtain ⟨_, _, told, _⟩ := told_createBatch room _ _ ((follows_bind _ _).mp creating)
  have isKept := List.mem_map_of_mem (f := (·.keeps)) member
  rw [← kept] at isKept
  obtain ⟨item, collected, same⟩ := List.mem_map.mp isKept
  exact (told item collected).item same

end Possible

/-! ### What the guard lets through -/

/-- An active switch of the snapshot covers the creation of an intent on a chain, of a token. -/
def KillSwitch.Covers (k : KillSwitch) (chain : SupportedChain) (token : String) : Prop :=
  ∃ entry ∈ k.snapshot, entry.active = true ∧ Governs ⟨some chain.name, some token, .create⟩ entry = true

/-- The items of a request. -/
def CreateRequest.items : CreateRequest → List CreateIntentDto
  | .create dto _ => [dto]
  | .batchCreate intents _ => intents

/-- The handler does not refuse the request whatever its calls are answered. -/
def CreateRequest.Feasible (cfg : BackendSettings) : CreateRequest → Prop
  | .create dto _ => TermsInOrder cfg dto
  | .batchCreate intents _ => intents.length ≤ IntentsController.BATCH_CREATE_MAX_INTENTS ∧
      ∀ dto ∈ intents, TermsInOrder cfg dto ∧ dto.user.toLower.isEmpty = false

variable {P : Intent → Prop} {cfg : BackendSettings} {request : CreateRequest}

/-- What is said of the address of every item holds of everything that the handler saves. -/
theorem created_of_items (each : ∀ dto ∈ request.items, ∀ intent : Intent, intent.srcChain = dto.srcChain →
    intent.srcToken.address = dto.srcTokenAddress → P intent) : EveryCreated (request.handler cfg) P := by
  have creates : SavesOnly P (request.handler cfg) (fun _ => True) [] := by
    cases request with
    | create dto extras =>
      refine saves_bind (R := fun _ => True) (creates_create dto ?_) fun _ _ _ => trivial
      intro terms now intent isChain isToken
      exact each dto (.head _) intent isChain (by rw [isToken]; rfl)
    | batchCreate dtos extras =>
      refine saves_bind (R := fun _ => True) (creates_batchCreate ?_) fun _ _ _ => trivial
      intro dto member terms now intent isChain isToken
      exact each dto member intent isChain (by rw [isToken]; rfl)
  exact follows_mono (fun _ _ _ => trivial) creates

/-- The handler can save every item of a request that it does not refuse. -/
theorem items_of_created (feasible : request.Feasible cfg) (created : EveryCreated (request.handler cfg) P) :
    ∀ dto ∈ request.items, ToldOf P dto := by
  cases request with
  | create dto extras =>
    have told : ToldOf P dto := told_single feasible ((follows_bind _ _).mp created)
    simpa [CreateRequest.items] using told
  | batchCreate dtos extras => exact told_batch feasible.1 feasible.2 ((follows_bind _ _).mp created)

/-- The address that the guard reads is under a switch too, or everything is paused. -/
def CreateRequest.Shielded (request : CreateRequest) (k : KillSwitch) : Prop :=
  k.ready = false ∨ k.guardianPause.isSome = true ∨ ∃ entry ∈ k.snapshot,
    Governs (guardTarget { operation := .create } request.body {}) entry = true ∧ entry.active = true

theorem admitted_iff (k : KillSwitch) : request.admitted k = .ok () ↔ ¬ request.Shielded k := by
  rw [CreateRequest.admitted, canActivate, assertNotPaused, CreateRequest.Shielded, ← evaluate_paused_iff]
  obtain ⟨ready, pause, snapshot⟩ := k
  cases ready <;> cases pause <;> simp [KillSwitch.evaluateTarget]

/-- For every switch snapshot, every body and both routes: behind the guard nothing is created that an active switch
    covers, if and only if no switch covers an item of the request, or the address that the guard reads is under a
    switch too. -/
theorem scoped_pauses_stop_creation_iff (k : KillSwitch) (feasible : request.Feasible cfg) :
    (request.admitted k = .ok () →
        EveryCreated (request.handler cfg) fun intent => ¬ k.Covers intent.srcChain intent.srcToken.address) ↔
      (∀ dto ∈ request.items, ¬ k.Covers dto.srcChain dto.srcTokenAddress) ∨ request.Shielded k := by
  rw [admitted_iff]
  constructor
  · intro stops
    by_cases shielded : request.Shielded k
    · exact .inr shielded
    · refine .inl fun dto member => ?_
      obtain ⟨intent, isChain, isToken, free⟩ := items_of_created feasible (stops shielded) dto member
      rwa [isChain, isToken] at free
  · rintro (free | shielded) admitted
    · refine created_of_items fun dto member intent isChain isToken => ?_
      rw [isChain, isToken]
      exact free dto member
    · exact absurd shielded admitted

/-- A pause of one chain, in force for everything on it. -/
def basePaused : KillSwitch where
  snapshot := [⟨.chain, some "base", none, none, true, "CHAIN_DEGRADED", ""⟩]

/-- During a pause of one chain, an intent on another one with a stray `chain` field beside it passes, and is not
    covered. -/
theorem stray_field_elsewhere :
    let request := CreateRequest.create { sampleOrder with srcChain := .polygon } { chain := .str "stellar" }
    request.admitted basePaused = .ok () ∧
      EveryCreated (request.handler {}) fun intent => ¬ basePaused.Covers intent.srcChain intent.srcToken.address := by
  intro request
  have feasible : request.Feasible {} := ⟨(none, none), rfl⟩
  have free : ∀ dto ∈ request.items, ¬ basePaused.Covers dto.srcChain dto.srcTokenAddress := by
    rintro dto member ⟨entry, listed, _, governs⟩
    rw [List.mem_singleton.mp member] at governs
    rw [List.mem_singleton.mp listed] at governs
    revert governs
    decide
  have admitted : request.admitted basePaused = .ok () := by decide
  exact ⟨admitted, (scoped_pauses_stop_creation_iff basePaused feasible).mpr (.inl free) admitted⟩

/-- An intent on the paused chain passes with `chain: "stellar"` beside it. -/
theorem extra_field_passes_guard :
    ∃ (cfg : BackendSettings) (k : KillSwitch) (request : CreateRequest), request.admitted k = .ok () ∧
      ¬ EveryCreated (request.handler cfg) fun intent => ¬ k.Covers intent.srcChain intent.srcToken.address := by
  refine ⟨{}, basePaused, .create sampleOrder { chain := .str "stellar" }, by decide, fun created => ?_⟩
  have feasible : (CreateRequest.create sampleOrder { chain := .str "stellar" }).Feasible {} := ⟨(none, none), rfl⟩
  obtain ⟨intent, isChain, isToken, free⟩ := items_of_created feasible created _ (.head _)
  rw [isChain, isToken] at free
  exact free ⟨_, .head _, rfl, by decide⟩

end VortexBackend
