/-
Module: VortexBackend.Proofs.OpenIntentCap
Purpose: The cap on standing intents holds while nobody else saves between a creation's count and its save.
Main exports: open_intent_cap
-/
import VortexBackend.Proofs.CreationCalls

namespace VortexBackend

open Creation IntentsService BackendWorld JsMap BackendCall
open IntentsService (isStanding MAX_OPEN_INTENTS_PER_USER)
open Async (follows_bind follows_bind_of follows_calls_bind follows_of_calls follows_mono follows_tryCatch
  follows_onEachWith calls_bind calls_attempt calls_pure calls_throwWhen calls_onEachWith)

/-- One address, whatever the case of its letters. -/
def sameUser (a b : String) : Bool := a.toLower == b.toLower

/-- How many standing intents a user has. -/
def IntentStore.standing (store : IntentStore) (user : String) : Nat :=
  (store.findByUser user).countP isStanding

/-- What a program believes to be the number: what it counted last, and what it has saved since. -/
def counted (user : String) : List BackendExchange → Option Nat
  | [] => none
  | ⟨.intents (.findByUser u), found⟩ :: earlier =>
    if sameUser u user then some (found.countP isStanding) else counted user earlier
  | ⟨.intents (.save intent), _⟩ :: earlier =>
    if sameUser intent.user user then (counted user earlier).map (· + 1) else counted user earlier
  | _ :: earlier => counted user earlier

def BackendCall.counts (user : String) : BackendCall → Bool
  | .intents (.findByUser u) => sameUser u user
  | _ => false

def BackendCall.savesFor (user : String) : BackendCall → Bool
  | .intents (.save intent) => sameUser intent.user user
  | _ => false

/-- Another request has saved an intent of the user since this one counted. -/
def overtaken (pid : Nat) (user : String) : List BackendEvent → Bool
  | [] => false
  | e :: earlier =>
    if e.actor.pid = pid then !e.call.counts user && overtaken pid user earlier
    else e.call.savesFor user || overtaken pid user earlier

/-- A request that saves an intent has not been overtaken by another for the same user. -/
def notOvertaken (v : BackendView) (e : BackendEvent) : Bool :=
  match e.call with
  | .intents (.save intent) => !overtaken e.actor.pid intent.user v.history
  | _ => true

/-- Any stores in which no user is over the cap, and creations, one by one and in batches, among the other
    handlers. -/
def capRuns : BackendSetting where
  initial w := ∀ user, w.intents.standing user ≤ MAX_OPEN_INTENTS_PER_USER
  admits
    | .create _ | .batchCreate _ => True
    | request => request.isHandler = true

/-- The runs in which no request saves for a user between the count and the save of another. -/
def capSetting : BackendSetting := { capRuns with meets := fun v e _ => notOvertaken v e }

/-! ### Counting -/

/-- What an intent adds to the number of a user. -/
def weight (user : String) (intent : Intent) : Nat :=
  if sameUser intent.user user && isStanding intent then 1 else 0

theorem countP_eq_sum {α : Type} (p : α → Bool) (xs : List α) :
    xs.countP p = (xs.map fun x => if p x then 1 else 0).sum := by
  induction xs with
  | nil => rfl
  | cons x xs ih =>
    rw [List.countP_cons, List.map_cons, List.sum_cons, ih, Nat.add_comm]

namespace IntentStore

variable {store : IntentStore} {user : String}

theorem standing_eq_sum (store : IntentStore) (user : String) :
    store.standing user = (store.rows.values.map (weight user)).sum := by
  unfold standing findByUser findAll
  rw [List.countP_filter, (List.perm_insertionSort _ _).countP_eq, countP_eq_sum]
  congr 1
  apply List.map_congr_left
  intro intent _
  rw [weight, sameUser, Bool.and_comm]

theorem standing_put (store : IntentStore) (user : String) (intent : Intent) :
    (store.put intent).standing user + (store.get intent.intentId).elim 0 (weight user) =
      store.standing user + weight user intent := by
  rw [standing_eq_sum, standing_eq_sum]
  exact sum_set store.rows intent.intentId intent (weight user)

theorem standing_put_le (user : String) (intent : Intent) :
    (store.put intent).standing user ≤ store.standing user + weight user intent := by
  have total := store.standing_put user intent
  omega

end IntentStore

theorem weight_le_one (user : String) (intent : Intent) : weight user intent ≤ 1 := by
  unfold weight
  split <;> decide

variable {intent : Intent} {cfg : BackendSettings} {user : String}

theorem weight_of_other (other : sameUser intent.user user = false) : weight user intent = 0 := by
  rw [weight, other]
  rfl

/-! ### Writes -/

theorem isStanding_iff :
    isStanding intent = true ↔ intent.state ∈ [.open, .accepted, .pendingOpen, .pendingAccepted] := by
  unfold isStanding
  cases intent.state <;> decide

theorem parked_from («from» : IntentState) (op : PendingIntentOp)
    (legal : legalPair «from» (IntentsService.PENDING_STATE_BY_OP op) = true)
    (standing :
      IntentsService.PENDING_STATE_BY_OP op ∈ [IntentState.open, .accepted, .pendingOpen, .pendingAccepted]) :
    «from» ∈ [IntentState.open, .accepted, .pendingOpen, .pendingAccepted] := by
  revert legal standing
  cases «from» <;> cases op <;> decide

theorem standing_before {seen c clock before after} (write : HandlerWrite seen clock c before after)
    (standing : isStanding after = true) : isStanding before = true := by
  rw [isStanding_iff] at standing ⊢
  cases write with
  | amended _ was _ | extended was _ | accepted _ _ was _ | filled _ _ was _ | cancelled _ _ was _
  | expired _ was _ | slashed _ was _ =>
    rw [was]
    decide
  | parked parks =>
    obtain ⟨op, txHash, is, _, legal, _⟩ := parks
    rw [is] at standing legal
    exact parked_from before.state op legal standing

/-! ### What a creation knows when it saves -/

/-- The program has counted a place for the user. -/
def Spare (past : List BackendExchange) (user : String) : Prop :=
  ∃ n, counted user past = some n ∧ n < MAX_OPEN_INTENTS_PER_USER

/-- A save has a place, and the other writes are those of the handlers. -/
def Capped (cfg : BackendSettings) (past : List BackendExchange) : BackendCall → Prop
  | .intents (.save intent) => Spare past intent.user
  | .creation _ => True
  | call => Knows cfg past call

theorem Knows.capped {past call} (known : Knows cfg past call) : Capped cfg past call := by
  cases call with
  | intents c =>
    cases c with
    | save => cases known
    | _ => exact known
  | creation => trivial
  | _ => exact known

theorem BackendCall.Neutral.capped {past call} (neutral : call.Neutral) : Capped cfg past call := by
  cases call with
  | intents c | fills c => cases c <;> trivial
  | _ => trivial

theorem counted_neutral {recent} (neutral : ∀ x ∈ recent, x.call.Neutral) (user : String)
    (past : List BackendExchange) :
    counted user (recent ++ past) = counted user past := by
  induction recent with
  | nil => rfl
  | cons x recent ih =>
    have first := neutral x (.head _)
    have rest := ih fun y member => neutral y (.tail _ member)
    obtain ⟨call, reply⟩ := x
    rw [← rest]
    cases call with
    | intents c => cases c <;> first | rfl | cases first
    | _ => rfl

section Following

variable {cfg : BackendSettings} {α : Type} {past : List BackendExchange} {data : NewIntentData}

theorem follows_neutral {x : Backend α} (calls : x.Calls BackendCall.Neutral) :
    x.Follows (Capped cfg) (fun _ _ => True) past :=
  follows_of_calls calls (fun _ _ _ neutral => neutral.capped) fun _ _ _ => trivial

theorem follows_neutral_bind {β : Type} {x} {f : β → Backend α} (calls : x.Calls BackendCall.Neutral)
    (rest : ∀ value past', (∀ user, counted user past' = counted user past) →
      (f value).Follows (Capped cfg) (fun _ _ => True) past') :
    (x >>= f).Follows (Capped cfg) (fun _ _ => True) past := by
  apply follows_calls_bind calls (fun _ _ _ neutral => neutral.capped) (fun _ _ _ => trivial)
  intro value recent neutral
  exact rest value (recent ++ past) fun user => counted_neutral neutral user past

section

variable (spare : Spare past data.user)
include spare

theorem follows_persistAt (now : Nat) :
    (persistNewIntentAt cfg data now).Follows (Capped cfg) (fun _ _ => True) past := by
  apply follows_persistNewIntentAt
  constructor
  · intro recent call _ prepares
    exact prepares.neutral.capped
  · intro recent intent prepared record
    obtain ⟨n, isCount, below⟩ := spare
    refine ⟨n, ?_, below⟩
    rw [record.user, counted_neutral prepared.neutral]
    exact isCount
  · exact fun _ _ _ _ _ => trivial
  · exact fun _ _ _ _ => trivial

theorem follows_runCreation (key : String) (now createdAt ticket : Nat) :
    (runCreation cfg data key now createdAt ticket).Follows (Capped cfg) (fun _ _ => True) past := by
  apply (follows_tryCatch _ _).mpr
  exact .andThen (follows_persistAt spare createdAt) (fun _ _ _ => ⟨trivial, fun _ => trivial⟩)
    fun _ _ _ => ⟨trivial, fun _ => ⟨trivial, fun _ => trivial⟩⟩

theorem follows_createClaimed (key : String) (now : Option Nat) (claim : CreationClaim) :
    (createClaimed cfg data key now claim).Follows (Capped cfg) (fun _ _ => True) past := by
  cases claim with
  | joined ticket => exact follows_neutral (calls_attempt (calls_one trivial))
  | owner ticket createdAt => exact follows_runCreation spare key (now.getD createdAt) createdAt ticket

/-- `create` of the service by a program that has counted a place. -/
theorem follows_create (idempotencyKey : Option String) :
    (create cfg data idempotencyKey).Follows (Capped cfg) (fun _ _ => True) past := by
  unfold create
  split
  · apply follows_neutral_bind (neutral_of_detached calls_clock)
    intro now past' same
    exact follows_persistAt (by rwa [Spare, same]) now
  · rename_i key _
    refine .call_bind trivial fun found => ?_
    cases found with
    | claimed claim =>
      have same : Spare (⟨.creation (.lookup key), .claimed claim⟩ :: past) data.user := spare
      exact follows_createClaimed same key none claim
    | cached intentId expiresAt now =>
      refine .call_bind trivial fun stored => ?_
      cases stored with
      | some intent => trivial
      | none =>
        refine .call_bind trivial fun claim => ?_
        have same : Spare (⟨.creation (.reclaim key), claim⟩ :: ⟨.intents (.findById intentId), none⟩ ::
          ⟨.creation (.lookup key), .cached intentId expiresAt now⟩ :: past) data.user := spare
        exact follows_createClaimed same key (some now) claim

end

/-- `POST /intents`: the count, and then a creation if it leaves a place. -/
theorem follows_post (dto : CreateIntentDto) :
    (IntentsController.create cfg dto).Follows (Capped cfg) (fun _ _ => True) past := by
  apply follows_neutral_bind (neutral_of_detached calls_clock)
  intro now past₁ _
  apply (follows_bind _ _).mpr
  refine .call_bind trivial fun found => ?_
  refine .throwWhen_bind (fun _ => trivial) fun below => ?_
  have spare : Spare (⟨.intents (.findByUser dto.user), found⟩ :: past₁) dto.user := by
    refine ⟨found.countP isStanding, ?_, Nat.not_le.mp (of_decide_eq_false below)⟩
    simp only [counted, sameUser, beq_self_eq_true, if_true]
  refine follows_neutral_bind (calls_attempt (calls_one trivial)) fun _ past₂ same₂ => ?_
  refine follows_neutral_bind (calls_attempt (calls_one trivial)) fun _ past₃ same₃ => ?_
  apply follows_neutral_bind (neutral_of_detached (calls_partialFillTerms dto))
  intro terms past₄ same₄
  apply follows_neutral_bind (calls_deliveryCheck trivial)
  intro _ past₅ same₅
  have still : Spare past₅ dto.user := by
    rw [Spare, same₅, same₄, same₃, same₂]
    exact spare
  exact .andThen (follows_create still dto.idempotencyKey) (fun _ _ _ => trivial)
    fun intent _ _ => follows_neutral (calls_withProgress (fun _ => trivial) intent)

end Following

/-! ### Batches -/

theorem sameUser_iff {a b} : sameUser a b = true ↔ a.toLower = b.toLower := beq_iff_eq

/-- There is a place for each of the items. -/
def Room (items : List NewIntentData) (past : List BackendExchange) : Prop :=
  ∀ item ∈ items, ∃ n, counted item.user past = some n ∧
    n + items.countP (fun other => sameUser other.user item.user) ≤ MAX_OPEN_INTENTS_PER_USER

variable {item : NewIntentData}

theorem Room.spare {rest past} (room : Room (item :: rest) past) : Spare past item.user := by
  obtain ⟨n, isCount, fits⟩ := room item (.head _)
  refine ⟨n, isCount, ?_⟩
  rw [List.countP_cons, if_pos (sameUser_iff.mpr rfl)] at fits
  omega

theorem Room.saved {rest past past'} (room : Room (item :: rest) past) {reply} (isUser : intent.user = item.user)
    (same : ∀ user, counted user past' = counted user past) :
    Room rest (⟨.intents (.save intent), reply⟩ :: past') := by
  intro other member
  obtain ⟨n, isCount, fits⟩ := room other (.tail _ member)
  rw [List.countP_cons] at fits
  cases shares : sameUser item.user other.user with
  | true =>
    refine ⟨n + 1, ?_, ?_⟩
    · simp only [counted, isUser, shares, if_true, same, isCount, Option.map_some]
    · simp only [shares, if_true] at fits
      omega
  | false =>
    refine ⟨n, ?_, ?_⟩
    · simp only [counted, isUser, shares, same, isCount]
      rfl
    · simp only [shares] at fits
      omega

/-- What the first loop has of the items it has passed: each of their users has a number, which is what was counted
    and the items of the user on top. -/
structure Tally (counts : JsMap String Nat) (passed : List NewIntentData) (past : List BackendExchange) : Prop where
  present : ∀ item ∈ passed, (counts.get item.user.toLower).isSome = true
  current : ∀ user c, counts.get user.toLower = some c → ∃ n, counted user past = some n ∧
    c = n + passed.countP fun item => sameUser item.user user

/-- No number is over the cap. -/
def Within (counts : JsMap String Nat) : Prop :=
  ∀ key c, counts.get key = some c → c ≤ MAX_OPEN_INTENTS_PER_USER

namespace Tally

variable {counts : JsMap String Nat} {passed : List NewIntentData} {past : List BackendExchange}

theorem empty : Tally .empty [] past where
  present := by
    intro item member
    cases member
  current := by
    intro user c isCount
    cases isCount

section

variable (tally : Tally counts passed past)
include tally

theorem none_passed (absent : counts.get user.toLower = none) :
    passed.countP (fun item => sameUser item.user user) = 0 := by
  apply List.countP_eq_zero.mpr
  intro item member shares
  have present := tally.present item member
  rw [sameUser_iff.mp shares, absent] at present
  cases present

theorem count (absent : counts.get user.toLower = none) (found : List Intent) :
    Tally (counts.set user.toLower (found.countP isStanding)) passed
      (⟨.intents (.findByUser user), found⟩ :: past) where
  present := by
    intro item member
    rw [get_set]
    split
    · rfl
    · exact tally.present item member
  current := by
    intro other c isCount
    rw [get_set] at isCount
    by_cases shares : other.toLower = user.toLower
    · rw [if_pos shares] at isCount
      cases isCount
      rw [← shares] at absent
      refine ⟨_, ?_, (Nat.add_zero _).symm.trans (congrArg _ (tally.none_passed absent).symm)⟩
      simp only [counted, sameUser_iff.mpr shares.symm, if_true]
    · rw [if_neg shares] at isCount
      obtain ⟨n, isCounted, total⟩ := tally.current other c isCount
      refine ⟨n, ?_, total⟩
      have differs : sameUser user other = false := by
        rw [Bool.eq_false_iff]
        exact fun same => shares (sameUser_iff.mp same).symm
      simp only [counted, differs]
      exact isCounted

theorem pass {c} (isCount : counts.get item.user.toLower = some c) :
    Tally (counts.set item.user.toLower (c + 1)) (passed ++ [item]) past where
  present := by
    intro other member
    rw [get_set]
    split
    · rfl
    · rename_i differs
      rcases List.mem_append.mp member with earlier | last
      · exact tally.present other earlier
      · cases List.mem_singleton.mp last
        exact absurd rfl differs
  current := by
    intro user c' isNumber
    rw [get_set] at isNumber
    rw [List.countP_append, List.countP_singleton]
    by_cases shares : user.toLower = item.user.toLower
    · rw [if_pos shares] at isNumber
      cases isNumber
      rw [← shares] at isCount
      obtain ⟨n, isCounted, total⟩ := tally.current user c isCount
      refine ⟨n, isCounted, ?_⟩
      rw [if_pos (sameUser_iff.mpr shares.symm)]
      omega
    · rw [if_neg shares] at isNumber
      obtain ⟨n, isCounted, total⟩ := tally.current user c' isNumber
      refine ⟨n, isCounted, ?_⟩
      rw [if_neg fun same => shares (sameUser_iff.mp same).symm]
      exact total

theorem room (within : Within counts) : Room passed past := by
  intro item member
  cases isCount : counts.get item.user.toLower with
  | none =>
    have present := tally.present item member
    rw [isCount] at present
    cases present
  | some c =>
    obtain ⟨n, isCounted, total⟩ := tally.current item.user c isCount
    exact ⟨n, isCounted, total ▸ within _ c isCount⟩

end

end Tally

section Batches

variable {cfg : BackendSettings} {past : List BackendExchange}

theorem follows_withStanding {counts passed} (tally : Tally counts passed past) (within : Within counts) (user : String)
    {Q : Except BackendError (JsMap String Nat) → List BackendExchange → Prop}
    (rest : ∀ counts' past' c, Tally counts' passed past' → counts'.get user.toLower = some c →
      (∀ key n, key ≠ user.toLower → counts'.get key = some n → n ≤ MAX_OPEN_INTENTS_PER_USER) →
      Q (.ok counts') past') : (withStanding counts user).Follows (Capped cfg) Q past := by
  unfold withStanding
  cases isCount : counts.get user.toLower with
  | some c => exact rest counts past c tally isCount fun key n _ isNumber => within key n isNumber
  | none =>
    apply (follows_bind _ _).mpr
    refine .call_bind trivial fun found => ?_
    apply rest _ _ (found.countP isStanding) (tally.count isCount found) (get_set_self _ _ _)
    intro key n differs isNumber
    rw [get_set_of_ne _ _ differs] at isNumber
    exact within key n isNumber

theorem follows_withStanding_any (counts : JsMap String Nat) (user : String) :
    (withStanding counts user).Follows (Capped cfg) (fun _ _ => True) past := by
  unfold withStanding
  split
  · trivial
  · exact ⟨trivial, fun _ => trivial⟩

/-- What the first loop keeps: while there is no error, the items it has passed fit. -/
def Checked (items : List NewIntentData) (checked : List IntentsService.BatchError × JsMap String Nat)
    (rest : List (NewIntentData × Nat)) (past : List BackendExchange) : Prop :=
  checked.1 = [] → ∃ passed, items = passed ++ rest.map Prod.fst ∧ Tally checked.2 passed past ∧
    Within checked.2

variable {items : List NewIntentData} {rest : List (NewIntentData × Nat)}

theorem checked_failed {counts errors} (failed : errors ≠ []) : Checked items (errors, counts) rest past :=
  fun none => absurd none failed

theorem follows_checkBatchItem {checked item} (invariant : Checked items checked (item :: rest) past) :
    (checkBatchItem checked item).Follows (Capped cfg)
      (Async.onOk (fun _ _ => True) fun checked' past' => Checked items checked' rest past') past := by
  obtain ⟨errors, counts⟩ := checked
  unfold checkBatchItem
  dsimp only
  split
  · exact checked_failed (by simp)
  · apply (follows_bind _ _).mpr
    cases errors with
    | cons error errors =>
      -- The errors so far already decide.
      apply follows_mono _ (follows_withStanding_any _ _)
      intro outcome past' _
      cases outcome with
      | error e => trivial
      | ok counts' =>
        change (if _ then _ else _ : Backend _).Follows _ _ _
        split
        · exact checked_failed (by simp)
        · exact checked_failed (by simp)
    | nil =>
      obtain ⟨passed, isItems, tally, within⟩ := invariant rfl
      apply follows_withStanding tally within
      intro counts' past' c tally' isCount others
      change (if _ then _ else _ : Backend _).Follows _ _ _
      rw [isCount, Option.getD_some]
      split
      · exact checked_failed (by simp)
      · rename_i fits
        intro _
        refine ⟨passed ++ [item.1], ?_, tally'.pass isCount, ?_⟩
        · rw [isItems, List.map_cons, List.append_assoc]
          rfl
        · intro key n isNumber
          by_cases same : key = item.1.user.toLower
          · rw [same, get_set_self] at isNumber
            cases isNumber
            exact Nat.not_lt.mp fits
          · rw [get_set_of_ne _ _ same] at isNumber
            exact others key n same isNumber

theorem follows_createItems (room : Room items past) (created : List Intent) :
    (Async.onEachWith (fun created item => do
      let intent ← persistNewIntent cfg item
      pure (created ++ [intent])) created items).Follows (Capped cfg) (fun _ _ => True) past := by
  apply follows_onEachWith (P := fun _ rest past => Room rest past) ?_ (fun _ _ _ => trivial) room
  intro created item rest past room
  apply (follows_bind _ _).mpr
  apply follows_persistNewIntent trivial
  intro ms
  constructor
  · intro recent call _ prepares
    exact prepares.neutral.capped
  · intro recent intent prepared record
    obtain ⟨n, isCount, below⟩ := room.spare
    refine ⟨n, ?_, below⟩
    rw [record.user, counted_neutral prepared.neutral]
    exact isCount
  · intro recent intent reply prepared record
    apply room.saved record.user
    intro user
    exact counted_neutral prepared.neutral user _
  · exact fun _ _ _ _ => trivial

theorem follows_createBatch (items : List NewIntentData) :
    (createBatch cfg items).Follows (Capped cfg) (fun _ _ => True) past := by
  apply (follows_bind _ _).mpr
  apply follows_onEachWith (P := Checked items) (fun _ _ _ _ invariant => follows_checkBatchItem invariant)
  · intro checked past' invariant
    change (if _ then _ else _ : Backend _).Follows _ _ _
    split
    · trivial
    · rename_i passed
      obtain ⟨all, isItems, tally, within⟩ := invariant (by simpa using passed)
      rw [List.map_nil, List.append_nil] at isItems
      subst isItems
      exact .andThen (follows_createItems (tally.room within) []) (fun _ _ _ => trivial) fun _ _ _ => trivial
  · intro _
    refine ⟨[], ?_, .empty, ?_⟩
    · rw [List.zipIdx_map_fst, List.nil_append]
    · intro key c isNumber
      cases isNumber

/-- `POST /intents/batch-create` -/
theorem follows_batchCreate (dtos : List CreateIntentDto) :
    (IntentsController.batchCreate cfg dtos).Follows (Capped cfg) (fun _ _ => True) past := by
  apply follows_neutral_bind (calls_throwWhen _ _)
  intro _ past₁ _
  apply follows_neutral_bind (calls_throwWhen _ _)
  intro _ past₂ _
  apply follows_neutral_bind (neutral_of_detached calls_clock)
  intro now past₃ _
  apply follows_neutral_bind (calls_onEachWith fun _ _ _ => neutral_of_detached (calls_batchItem _ _ _))
  intro items past₄ _
  apply follows_neutral_bind (neutral_of_detached (calls_preflightBatch items))
  intro errors past₅ _
  apply follows_neutral_bind (calls_throwWhen _ _)
  intro _ past₆ _
  exact .andThen (follows_createBatch items) (fun _ _ _ => trivial)
    fun _ _ _ => follows_neutral (calls_bind (calls_throwWhen _ _) fun _ => calls_pure _)

end Batches

/-! ### Whole runs -/

def capDiscipline (cfg : BackendSettings) : BackendDiscipline where
  allows _ past call := Capped cfg past call

theorem creations_followed (cfg : BackendSettings) : (capDiscipline cfg).Followed (backendService cfg) capSetting := by
  have handlers := handlers_followed cfg (E := { capRuns with admits := fun request => request.isHandler = true })
    fun _ handled => handled
  intro request admitted
  cases request with
  | create dto => exact follows_respond (follows_post dto)
  | batchCreate dtos => exact follows_respond (follows_batchCreate dtos)
  | _ => exact Program.follows_weaken (fun _ _ known => known.capped) (handlers _ admitted)

/-- What a program counted is an upper bound until another one saves, and nobody is over the cap. -/
structure CapSound (v : BackendView) : Prop where
  bound : ∀ pid user n, counted user (past pid v.history) = some n → overtaken pid user v.history = false →
    v.world.intents.standing user ≤ n
  capped : ∀ user, v.world.intents.standing user ≤ MAX_OPEN_INTENTS_PER_USER

theorem IntentStore.standing_congr (store : IntentStore) {a b} (same : sameUser a b = true) :
    store.standing a = store.standing b := by
  unfold standing findByUser
  rw [sameUser_iff.mp same]

theorem counted_cons (user : String) (x : BackendExchange) (earlier : List BackendExchange) :
    (∃ u found, x = ⟨.intents (.findByUser u), found⟩ ∧ sameUser u user = true) ∨
      (x.call.counts user = false ∧
        counted user (x :: earlier) = (counted user earlier).map (· + if x.call.savesFor user then 1 else 0)) := by
  obtain ⟨call, reply⟩ := x
  have same : counted user earlier = (counted user earlier).map (· + 0) := Option.map_id'.symm
  cases call with
  | intents c =>
    cases c with
    | findByUser u =>
      cases shares : sameUser u user with
      | true => exact .inl ⟨u, reply, rfl, shares⟩
      | false =>
        refine .inr ⟨shares, ?_⟩
        simp only [counted, shares]
        exact same
    | save intent =>
      refine .inr ⟨rfl, ?_⟩
      cases shares : sameUser intent.user user with
      | true => simp only [counted, savesFor, shares, if_true]
      | false =>
        simp only [counted, savesFor, shares]
        exact same
    | _ => exact .inr ⟨rfl, same⟩
  | _ => exact .inr ⟨rfl, same⟩

namespace CapSound

variable {cfg : BackendSettings} {v : BackendView} {e : BackendEvent} {w : BackendWorld} {choice : BackendChoice}
  {seen : List BackendExchange}

section

variable (performed : perform e.call choice v.world = some (e.reply, w))
include performed

theorem standing_step (known : Capped cfg seen e.call) (user : String) :
    w.intents.standing user ≤ v.world.intents.standing user + if e.call.savesFor user then 1 else 0 := by
  rcases perform_intents_cases performed with
    ⟨_, same⟩ | ⟨id, isDelete, _⟩ | ⟨c, updated, isCall, _, stored, saved | ⟨existing, found, writes⟩⟩
  · rw [same]
    exact Nat.le_add_right _ _
  · rw [isDelete] at known
    cases known
  · rw [isCall, saved, stored, savesFor]
    have added := v.world.intents.standing_put_le user updated
    split
    · exact added.trans (Nat.add_le_add_left (weight_le_one user updated) _)
    · rename_i other
      rw [weight_of_other (Bool.eq_false_iff.mpr other)] at added
      exact added
  · have knows : Knows cfg seen (.intents c) := by
      rw [isCall] at known
      cases c with
      | save => cases writes
      | _ => exact known
    have sameOwner := (knows.terms_kept writes).2.2
    have before := standing_before (knows.write writes)
    have lighter : weight user updated ≤ weight user existing := by
      unfold weight
      rw [sameOwner]
      cases sameUser existing.user user <;> cases isAfter : isStanding updated <;> simp_all
    have total := v.world.intents.standing_put user updated
    rw [found, Option.elim_some] at total
    rw [stored]
    omega

theorem bound_step (sound : CapSound v) (known : Capped cfg seen e.call) (pid : Nat) (user : String) (n : Nat)
    (isCount : counted user (past pid (v.after e w).history) = some n)
    (current : overtaken pid user (v.after e w).history = false) : w.intents.standing user ≤ n := by
  have grown := standing_step performed known user
  change overtaken pid user (e :: v.history) = false at current
  by_cases own : e.actor.pid = pid
  · rw [past_own own] at isCount
    rw [overtaken, if_pos own] at current
    rcases counted_cons user ⟨e.call, e.reply⟩ (past pid v.history) with
      ⟨u, found, isRead, shares⟩ | ⟨notRead, added⟩
    · obtain ⟨actor, call, reply⟩ := e
      cases isRead
      simp only [counted, shares, if_true] at isCount
      cases isCount
      cases performed
      exact Nat.le_of_eq (v.world.intents.standing_congr shares).symm
    · rw [notRead, Bool.not_false, Bool.true_and] at current
      rw [added, Option.map_eq_some_iff] at isCount
      obtain ⟨m, isBefore, rfl⟩ := isCount
      have before := sound.bound pid user m isBefore current
      exact grown.trans (Nat.add_le_add_right before _)
  · rw [past_other own] at isCount
    rw [overtaken, if_neg own, Bool.or_eq_false_iff] at current
    rw [current.1] at grown
    exact grown.trans (sound.bound pid user n isCount current.2)

theorem capped_step (sound : CapSound v) (known : Capped cfg (past e.actor.pid v.history) e.call)
    (current : notOvertaken v e = true) (user : String) : w.intents.standing user ≤ MAX_OPEN_INTENTS_PER_USER := by
  have grown := standing_step performed known user
  cases saves : e.call.savesFor user with
  | false =>
    rw [saves] at grown
    exact grown.trans (sound.capped user)
  | true =>
    rw [saves, if_pos rfl] at grown
    unfold notOvertaken at current
    split at current
    · rename_i intent isCall
      rw [isCall] at known saves
      obtain ⟨n, isCount, below⟩ := known
      rw [Bool.not_eq_eq_eq_not, Bool.not_true] at current
      have before := sound.bound e.actor.pid intent.user n isCount current
      rw [v.world.intents.standing_congr saves] at before
      omega
    · rename_i notSave
      unfold savesFor at saves
      split at saves
      · rename_i intent isCall
        exact absurd isCall (notSave intent)
      · cases saves

theorem step (sound : CapSound v) (known : Capped cfg (past e.actor.pid v.history) e.call)
    (current : notOvertaken v e = true) : CapSound (v.after e w) where
  bound := sound.bound_step performed known
  capped := sound.capped_step performed known current

end

theorem drift (sound : CapSound v) {d} (drifted : drift d v.world = some w) : CapSound { v with world := w } := by
  have same := intents_drift drifted
  constructor
  · intro pid user n isCount current
    rw [same]
    exact sound.bound pid user n isCount current
  · intro user
    rw [same]
    exact sound.capped user

end CapSound

/-- For any interleaving of creations, batches of creations and the other handlers, no user ever has more standing
    intents than the cap allows. -/
theorem open_intent_cap {cfg : BackendSettings} {ts : List BackendTransition} {c : BackendConfig}
    (run : Run (backendService cfg) capSetting ts c) (user : String) :
    c.world.intents.standing user ≤ MAX_OPEN_INTENTS_PER_USER := by
  have sound : CapSound c.view := by
    refine (Run.invariant (I := CapSound) (creations_followed cfg) ?_ ?_ ?_ run).1
    · intro w capped
      exact ⟨fun _ _ _ isCount _ => (nomatch isCount), capped⟩
    · intro v d w sound drifted
      exact sound.drift drifted
    · intro v e v' sound step
      obtain ⟨⟨⟨choice, w, performed, rfl⟩, current⟩, known, _⟩ := step
      exact sound.step performed known current
  exact sound.capped user

/-- A store with `n` open intents of one user. -/
private def crowd : Nat → IntentStore
  | 0 => .empty
  | n + 1 => (crowd n).put { sampleIntent with intentId := toString n }

theorem crowd_standing (n : Nat) (user : String) : (crowd n).standing user ≤ n := by
  induction n with
  | zero => exact Nat.le_refl 0
  | succ n ih =>
    have added := (crowd n).standing_put_le user { sampleIntent with intentId := toString n }
    have one := weight_le_one user { sampleIntent with intentId := toString n }
    have isPut : crowd (n + 1) = (crowd n).put { sampleIntent with intentId := toString n } := rfl
    rw [isPut]
    omega

/-- A user with 49 standing intents creates the last one that the cap allows. -/
theorem fiftieth_created :
    ∃ ts c, Run (backendService {}) capSetting ts c ∧ c.world.intents.standing "U" = 50 ∧
      50 ≤ MAX_OPEN_INTENTS_PER_USER := by
  obtain ⟨ts, c, run, isCount⟩ := Run.exists_of_trace (backendService {}) capSetting { intents := crowd 49 }
    (List.flatten [[.arrive (.create sampleOrder)], List.replicate 10 (.act 0 { id := "new" })])
    (fun _ c => c.world.intents.standing "U" == 50)
    (fun user => (crowd_standing 49 user).trans (by decide)) (by simp [capSetting, capRuns]) (by decide +kernel)
  have isFifty := beq_iff_eq.mp isCount
  exact ⟨ts, c, run, isFifty, isFifty ▸ open_intent_cap run "U"⟩

/-- Two creations count 49 standing intents before either saves, and the user ends with 51. -/
theorem both_counted_first :
    ∃ ts c, Run (backendService {}) capRuns ts c ∧ MAX_OPEN_INTENTS_PER_USER < c.world.intents.standing "U" := by
  obtain ⟨ts, c, run, exceeds⟩ := Run.exists_of_trace (backendService {}) capRuns { intents := crowd 49 }
    (List.flatten [[.arrive (.create sampleOrder), .arrive (.create sampleOrder)], List.replicate 2 (.act 0 {}),
      List.replicate 2 (.act 1 {}), List.replicate 8 (.act 0 { id := "first" }),
      List.replicate 8 (.act 1 { id := "second" })])
    (fun _ c => decide (MAX_OPEN_INTENTS_PER_USER < c.world.intents.standing "U"))
    (fun user => (crowd_standing 49 user).trans (by decide)) (by simp [capRuns]) (by decide +kernel)
  exact ⟨ts, c, run, of_decide_eq_true exceeds⟩

end VortexBackend
