/-
Module: VortexBackend.Proofs.TrackedOutcomes
Purpose: A row is marked failed only after its transaction was found in a ledger, expired by the clock alone.
Main exports: tracked_outcomes
-/
import VortexBackend.Async.Discipline
import VortexBackend.Soroban.TxTracking

namespace VortexBackend

open Tracking TrackingWorld Async

abbrev TrackingExchange := Exchange TrackingReply

abbrev TrackingView := View TrackingReply TrackingWorld TrackingRequest

abbrev TrackingEvent := Event TrackingReply TrackingRequest

/-! ### What the batches do -/

/-- The program has read this row as due. -/
def ReadRow (past : List TrackingExchange) (row : PendingTxRow) : Prop :=
  ∃ rows, ⟨.dueRows, .ok rows⟩ ∈ past ∧ row ∈ rows

/-- It has looked the row's hash up and was told that the transaction failed. -/
def FoundFailed (past : List TrackingExchange) (row : PendingTxRow) : Prop :=
  ReadRow past row ∧ ∃ errorCode, ⟨.getTransaction row.txHash, .ok (.failed errorCode)⟩ ∈ past

/-- It has seen the row's bound pass. -/
def FoundExpired (past : List TrackingExchange) (row : PendingTxRow) : Prop :=
  ReadRow past row ∧ ∃ now, ⟨.now, now⟩ ∈ past ∧ row.maxTrackUntil ≤ seconds now

/-- It has built this envelope around the row's transaction. -/
def BumpBuilt (past : List TrackingExchange) (row : PendingTxRow) (envelope : TrackedEnvelope) : Prop :=
  ReadRow past row ∧ ∃ fee, ⟨.buildFeeBumpTransaction row.txXdr fee, .ok envelope⟩ ∈ past

/-- What each conclusion, and each step of an escalation, rests on. -/
def TrackingRule (past : List TrackingExchange) : TrackingCall → Prop
  | .update id (.status .failed) => ∃ row, row.id = id ∧ FoundFailed past row
  | .emit (.failed txHash ..) => ∃ row, row.txHash = txHash ∧ FoundFailed past row
  | .update id (.status .expired) => ∃ row, row.id = id ∧ FoundExpired past row
  | .emit (.expired txHash ..) => ∃ row, row.txHash = txHash ∧ FoundExpired past row
  | .submit id envelope => ∃ row, row.id = id ∧ BumpBuilt past row envelope
  | .update id (.bumped txHash ..) => ∃ row envelope, row.id = id ∧ envelope.hash = txHash ∧
      BumpBuilt past row envelope
  | _ => True

def trackingDiscipline : Discipline TrackingReply TrackingRequest (Except String Unit) where
  allows _ past call := TrackingRule past call

variable {opts : TrackTxOptions}

section Programs

variable {α : Type} {past past' : List TrackingExchange} {row : PendingTxRow} {envelope : TrackedEnvelope}
  {maxFeeStroops : Nat}

theorem ReadRow.mono (read : ReadRow past row) (grown : past ⊆ past') : ReadRow past' row := by
  obtain ⟨rows, answered, member⟩ := read
  exact ⟨rows, grown answered, member⟩

theorem FoundFailed.mono (found : FoundFailed past row) (grown : past ⊆ past') : FoundFailed past' row := by
  obtain ⟨read, errorCode, answered⟩ := found
  exact ⟨read.mono grown, errorCode, grown answered⟩

theorem FoundExpired.mono (found : FoundExpired past row) (grown : past ⊆ past') : FoundExpired past' row := by
  obtain ⟨read, now, answered, passed⟩ := found
  exact ⟨read.mono grown, now, grown answered, passed⟩

theorem BumpBuilt.mono (built : BumpBuilt past row envelope) (grown : past ⊆ past') :
    BumpBuilt past' row envelope := by
  obtain ⟨read, fee, answered⟩ := built
  exact ⟨read.mono grown, fee, grown answered⟩

/-- A function that keeps to the rule. -/
abbrev Tracks (x : Tracking α) (Q : Except String α → List TrackingExchange → Prop)
    (past : List TrackingExchange) :
    Prop :=
  x.Follows TrackingRule Q past

theorem tracks_buildFeeBump (read : ReadRow past row) :
    Tracks (buildFeeBump maxFeeStroops row.txXdr row.feeBumpCount)
      (onOk (fun _ _ => True) fun bump past' => ∀ envelope fee, bump = some (envelope, fee) →
        BumpBuilt past' row envelope) past := by
  refine .call_bind trivial fun stats => ?_
  dsimp only
  split
  · exact nofun
  · refine .attempt_bind ⟨trivial, fun | .error _ => trivial | .ok built => ?_⟩
    intro envelope fee isSome
    cases isSome
    refine ⟨?_, _, .head _⟩
    exact read.mono fun _ member => .tail _ (.tail _ member)

theorem tracks_maybeFeeBump (read : ReadRow past row) :
    Tracks (maybeFeeBump maxFeeStroops row) (fun _ _ => True) past := by
  refine .call_bind trivial fun now => ?_
  split
  · refine .call_bind trivial fun source => ?_
    cases source with
    | false => trivial
    | true =>
      have stillRead : ReadRow (⟨.feeSource, true⟩ :: ⟨.now, now⟩ :: past) row :=
        read.mono fun _ member => .tail _ (.tail _ member)
      refine .andThen (tracks_buildFeeBump stillRead) (fun _ _ _ => trivial) fun bump past' built => ?_
      cases bump with
      | none => trivial
      | some pair =>
        obtain ⟨envelope, fee⟩ := pair
        have isBuilt := built envelope fee rfl
        refine .attempt_bind ⟨⟨row, rfl, isBuilt⟩, fun
          | .error _ | .ok (.error _) => trivial
          | .ok .sent => ?_⟩
        refine .attempt_bind ⟨⟨row, envelope, rfl, rfl, ?_⟩, fun | .error _ | .ok _ => trivial⟩
        exact isBuilt.mono fun _ member => .tail _ member
  · trivial

/-- Marking a row and publishing the event, when both are allowed as far as the past only grows. -/
theorem tracks_conclude {status event} (marks : TrackingRule past (.update row.id (.status status)))
    (publishes : ∀ x, TrackingRule (x :: past) (.emit event)) :
    Tracks (conclude row status event) (fun _ _ => True) past := by
  exact .attempt_bind ⟨marks, fun | .error _ => trivial | .ok _ => ⟨publishes _, fun _ => trivial⟩⟩

theorem tracks_processRow (read : ReadRow past row) : Tracks (processRow maxFeeStroops row) (fun _ _ => True) past := by
  refine .call_bind trivial fun now => ?_
  have stillRead : ReadRow (⟨.now, now⟩ :: past) row := read.mono fun _ member => .tail _ member
  split
  · rename_i passed
    have found : FoundExpired (⟨.now, now⟩ :: past) row := ⟨stillRead, now, .head _, passed⟩
    apply tracks_conclude
    · exact ⟨row, rfl, found⟩
    · exact fun _ => ⟨row, rfl, found.mono fun _ member => .tail _ member⟩
  · have lookedUp (reply) : ReadRow (⟨.getTransaction row.txHash, reply⟩ :: ⟨.now, now⟩ :: past) row :=
      stillRead.mono fun _ member => .tail _ member
    refine .attempt_bind ⟨trivial, fun
      | .error _ => trivial
      | .ok (.success _) => tracks_conclude trivial fun _ => trivial
      | .ok (.failed errorCode) => ?_
      | .ok .notFound => ?_⟩
    · have found :
        FoundFailed (⟨.getTransaction row.txHash, .ok (.failed errorCode)⟩ :: ⟨.now, now⟩ :: past) row :=
        ⟨lookedUp _, errorCode, .head _⟩
      refine .andThen (follows_suffix (tracks_maybeFeeBump (lookedUp _))) (fun _ _ _ => trivial) ?_
      intro bumped past' grown
      have stillFound := found.mono grown.2.subset
      cases bumped with
      | true => trivial
      | false =>
        apply tracks_conclude
        · exact ⟨row, rfl, stillFound⟩
        · exact fun _ => ⟨row, rfl, stillFound.mono fun _ member => .tail _ member⟩
    · refine .andThen (tracks_maybeFeeBump (lookedUp _)) (fun _ _ _ => trivial) fun bumped past' _ => ?_
      cases bumped with
      | true => trivial
      | false => exact (follows_attempt _).mpr ⟨trivial, fun _ => trivial⟩

theorem tracks_pollBatch : Tracks (pollBatch maxFeeStroops) (fun _ _ => True) past := by
  refine .attempt_bind ⟨trivial, fun | .error _ => trivial | .ok rows => ?_⟩
  -- Every row that is still to come was read by this batch.
  apply follows_onEach (P := fun rest past' => ∀ row ∈ rest, ReadRow past' row)
  · intro row rest past' read
    have later : ∀ past'', past' <:+ past'' → ∀ row ∈ rest, ReadRow past'' row :=
      fun _ grown row member => (read row (.tail _ member)).mono grown.subset
    apply (follows_tryCatch _ _).mpr
    exact follows_onOk (follows_suffix (tracks_processRow (read row (.head _))))
      (fun _ past'' made => later past'' made.2) fun _ past'' made => later past'' made.2
  · exact fun _ _ => trivial
  · exact fun row member => ⟨rows, .head _, member⟩

theorem tracks_track : Tracks (track opts) (fun _ _ => True) past := by
  refine .call_bind trivial fun now => ?_
  exact (follows_attempt _).mpr ⟨trivial, fun _ => trivial⟩

end Programs

theorem trackingDiscipline_followed {maxFeeStroops E} :
    trackingDiscipline.Followed (trackingService maxFeeStroops) E := by
  intro request _
  cases request with
  | pollBatch => exact tracks_pollBatch
  | track opts => exact tracks_track

/-! ### Rows, envelopes and ledgers -/

/-- The rows and the network agree: a hash belongs to one transaction, a transaction is in one ledger, ids are unique,
    and the envelopes of a row all carry its transaction. -/
structure Ledgered (w : TrackingWorld) : Prop where
  fits : ∀ e ∈ w.envelopes, w.Fits e
  known : ∀ x ∈ w.ledger, ⟨x.hash, x.inner⟩ ∈ w.envelopes
  once : ∀ x ∈ w.ledger, ∀ y ∈ w.ledger, x.inner = y.inner → x = y
  carried : ∀ row ∈ w.rows, ⟨row.txHash, row.txXdr⟩ ∈ w.envelopes
  numbered : ∀ (i : Nat) (row : PendingTxRow), w.rows[i]? = some row → row.id = i
  submitted : ∀ s ∈ w.submissions, ∃ row ∈ w.rows, row.id = s.1 ∧ ⟨s.2, row.txXdr⟩ ∈ w.envelopes

/-- What is known stays known, and rows stay around with their transaction. -/
structure TrackingGrows (w w' : TrackingWorld) : Prop where
  now : w.now ≤ w'.now
  envelopes : w.envelopes ⊆ w'.envelopes
  ledger : w.ledger ⊆ w'.ledger
  rows : ∀ row ∈ w.rows, ∃ row' ∈ w'.rows, row'.id = row.id ∧ row'.txXdr = row.txXdr

variable (w : TrackingWorld)

theorem TrackingGrows.refl : TrackingGrows w w where
  now := le_rfl
  envelopes := List.Subset.refl _
  ledger := List.Subset.refl _
  rows row member := ⟨row, member, rfl, rfl⟩

variable {envelope : TrackedEnvelope}

namespace Ledgered

variable {w : TrackingWorld}

theorem same_row (ledgered : Ledgered w) {row row'} (member : row ∈ w.rows) (member' : row' ∈ w.rows)
    (sameId : row.id = row'.id) : row = row' := by
  obtain ⟨i, found⟩ := List.getElem?_of_mem member
  obtain ⟨j, found'⟩ := List.getElem?_of_mem member'
  have samePlace : i = j :=
    (ledgered.numbered i row found).symm.trans (sameId.trans (ledgered.numbered j row' found'))
  subst samePlace
  exact Option.some.inj (found.symm.trans found')

theorem make (ledgered : Ledgered w) (new : w.Fits envelope) (sent : List Nat) :
    Ledgered { w with envelopes := envelope :: w.envelopes, sent } where
  fits := by
    intro e member e' member' sameHash
    rcases List.mem_cons.mp member with rfl | old
    · rcases List.mem_cons.mp member' with rfl | old'
      · rfl
      · exact new e' old' sameHash
    · rcases List.mem_cons.mp member' with rfl | old'
      · exact (new e old sameHash.symm).symm
      · exact ledgered.fits e old e' old' sameHash
  __ := ledgered
  known x member := .tail _ (ledgered.known x member)
  carried row member := .tail _ (ledgered.carried row member)
  submitted := by
    intro s member
    obtain ⟨row, inRows, isId, known⟩ := ledgered.submitted s member
    exact ⟨row, inRows, isId, .tail _ known⟩

variable {f : PendingTxRow → PendingTxRow}

/-- Rows change, but neither their ids nor their transactions, and their hashes stay those of known envelopes. -/
theorem change (ledgered : Ledgered w) (keeps : ∀ row ∈ w.rows, (f row).id = row.id ∧ (f row).txXdr = row.txXdr)
    (carried : ∀ row ∈ w.rows, ⟨(f row).txHash, (f row).txXdr⟩ ∈ w.envelopes) :
    Ledgered { w with rows := w.rows.map f } where
  __ := ledgered
  carried := by
    intro row' member
    obtain ⟨row, inRows, rfl⟩ := List.mem_map.mp member
    exact carried row inRows
  numbered := by
    intro i row' found
    rw [List.getElem?_map, Option.map_eq_some_iff] at found
    obtain ⟨row, before, rfl⟩ := found
    rw [(keeps row (List.mem_of_getElem? before)).1]
    exact ledgered.numbered i row before
  submitted := by
    intro s member
    obtain ⟨row, inRows, isId, known⟩ := ledgered.submitted s member
    obtain ⟨sameId, sameXdr⟩ := keeps row inRows
    exact ⟨f row, List.mem_map_of_mem inRows, sameId.trans isId, by rw [sameXdr]; exact known⟩

theorem change_grows (keeps : ∀ row ∈ w.rows, (f row).id = row.id ∧ (f row).txXdr = row.txXdr) :
    TrackingGrows w { w with rows := w.rows.map f } where
  now := le_rfl
  envelopes := List.Subset.refl _
  ledger := List.Subset.refl _
  rows row member := ⟨f row, List.mem_map_of_mem member, keeps row member⟩

theorem submit {id hash row} (ledgered : Ledgered w) (member : row ∈ w.rows) (isId : row.id = id)
    (known : ⟨hash, row.txXdr⟩ ∈ w.envelopes) (sent : List Nat) :
    Ledgered { w with submissions := (id, hash) :: w.submissions, sent } where
  __ := ledgered
  submitted := List.forall_mem_cons.mpr ⟨⟨row, member, isId, known⟩, ledgered.submitted⟩

/-- A submission is tracked for the first time. -/
theorem create {now} (ledgered : Ledgered w) (fits : w.Fits ⟨opts.txHash, opts.txXdr⟩) (sent : List Nat) :
    Ledgered { w with
      rows := w.rows ++ [w.newRow opts now]
      envelopes := ⟨opts.txHash, opts.txXdr⟩ :: w.envelopes
      sent
      submissions := (w.rows.length, opts.txHash) :: w.submissions } := by
  have made := ledgered.make fits sent
  constructor
  · exact made.fits
  · exact made.known
  · exact made.once
  · intro row member
    rcases List.mem_append.mp member with before | new
    · exact made.carried row before
    · cases List.mem_singleton.mp new
      exact .head _
  · intro i row found
    rcases Nat.lt_trichotomy i w.rows.length with before | rfl | beyond
    · rw [List.getElem?_append_left before] at found
      exact ledgered.numbered i row found
    · rw [List.getElem?_concat_length] at found
      cases found
      rfl
    · rw [List.getElem?_eq_none (by simp; omega)] at found
      cases found
  · intro s member
    rcases List.mem_cons.mp member with rfl | before
    · exact ⟨w.newRow opts now, List.mem_append_right _ (.head _), rfl, .head _⟩
    · obtain ⟨row, inRows, isId, known⟩ := made.submitted s before
      exact ⟨row, List.mem_append_left _ inRows, isId, known⟩

theorem close {success ledger} (ledgered : Ledgered w) (known : envelope ∈ w.envelopes)
    (fresh : ∀ x ∈ w.ledger, x.inner ≠ envelope.inner) :
    Ledgered { w with ledger := ⟨envelope.hash, envelope.inner, success, ledger⟩ :: w.ledger } where
  __ := ledgered
  known := List.forall_mem_cons.mpr ⟨known, ledgered.known⟩
  once := by
    intro x member y member' sameInner
    rcases List.mem_cons.mp member with rfl | before
    · rcases List.mem_cons.mp member' with rfl | before'
      · rfl
      · exact absurd sameInner.symm (fresh y before')
    · rcases List.mem_cons.mp member' with rfl | before'
      · exact absurd sameInner (fresh x before)
      · exact ledgered.once x before y before' sameInner

end Ledgered

/-- What the world still says about a call that was answered. -/
def Recalled : TrackingExchange → Prop
  | ⟨.now, now⟩ => now ≤ w.now
  | ⟨.dueRows, .ok rows⟩ => ∀ r ∈ rows, ⟨r.txHash, r.txXdr⟩ ∈ w.envelopes ∧
      ∃ row ∈ w.rows, row.id = r.id ∧ row.txXdr = r.txXdr
  | ⟨.getTransaction hash, .ok (.failed _)⟩ => ∃ x ∈ w.ledger, x.hash = hash ∧ x.success = false
  | ⟨.buildFeeBumpTransaction inner _, .ok envelope⟩ => envelope ∈ w.envelopes ∧ envelope.inner = inner
  | _ => True

theorem Recalled.grows {w w'} (grows : TrackingGrows w w') {x} (recalled : Recalled w x) : Recalled w' x := by
  obtain ⟨call, reply⟩ := x
  cases call with
  | now => exact Nat.le_trans recalled grows.now
  | dueRows =>
    cases reply with
    | error e => trivial
    | ok rows =>
      intro r member
      obtain ⟨known, row, inRows, sameId, sameXdr⟩ := recalled r member
      obtain ⟨row', inRows', sameId', sameXdr'⟩ := grows.rows row inRows
      exact ⟨grows.envelopes known, row', inRows', sameId'.trans sameId, sameXdr'.trans sameXdr⟩
  | getTransaction hash =>
    rcases reply with e | (ledger | errorCode | _)
    · trivial
    · trivial
    · obtain ⟨x, member, facts⟩ := recalled
      exact ⟨x, grows.ledger member, facts⟩
    · trivial
  | buildFeeBumpTransaction inner fee =>
    cases reply with
    | error e => trivial
    | ok envelope => exact ⟨grows.envelopes recalled.1, recalled.2⟩
  | _ => trivial

/-! ### Runs -/

/-- Nothing was tracked yet. -/
def TrackingWorld.Fresh : Prop :=
  w.rows = [] ∧ w.envelopes = [] ∧ w.submissions = [] ∧ w.ledger = []

/-- Every run of the service. -/
def tracking : Setting TrackingReply TrackingWorld TrackingRequest where
  initial := TrackingWorld.Fresh
  admits _ := True

abbrev TrackingTransition :=
  Transition TrackingReply TrackingWorld TrackingChoice TrackingWorld.Drift TrackingRequest (Except String Unit)

/-- No envelope of the row, neither the tracked one nor a fee bump that was sent for it, has been included
    successfully. -/
def TrackingWorld.Unsuccessful (id : Nat) : Prop :=
  ∀ hash, (id, hash) ∈ w.submissions → ∀ x ∈ w.ledger, x.hash = hash → x.success = false

/-- What a step concludes is so. -/
structure TrackingTransition.Truthful (t : TrackingTransition) : Prop where
  failed : ∀ actor id reply, t.event = some ⟨actor, .update id (.status .failed), reply⟩ →
    t.before.world.Unsuccessful id
  publishedFailed : ∀ actor txHash intentId errorCode latencyMs reply,
    t.event = some ⟨actor, .emit (.failed txHash intentId errorCode latencyMs), reply⟩ →
    ∃ row, ReadRow (past actor.pid t.before.history) row ∧ row.txHash = txHash ∧
      t.before.world.Unsuccessful row.id
  expired : ∀ actor id reply, t.event = some ⟨actor, .update id (.status .expired), reply⟩ →
    ∃ row, ReadRow (past actor.pid t.before.history) row ∧ row.id = id ∧
      row.maxTrackUntil ≤ seconds t.before.world.now
  publishedExpired : ∀ actor txHash intentId latencyMs reply,
    t.event = some ⟨actor, .emit (.expired txHash intentId latencyMs), reply⟩ →
    ∃ row, ReadRow (past actor.pid t.before.history) row ∧ row.txHash = txHash ∧
      row.maxTrackUntil ≤ seconds t.before.world.now

/-- The invariant of the runs. -/
structure TrackingSafe (v : TrackingView) : Prop where
  ledgered : Ledgered v.world
  recalled : ∀ pid, ∀ x ∈ past pid v.history, Recalled v.world x

namespace TrackingSafe

variable {v : TrackingView} {e : TrackingEvent} {w : TrackingWorld} {pid : Nat} {row : PendingTxRow}

theorem initial (fresh : w.Fresh) : TrackingSafe ⟨w, []⟩ := by
  obtain ⟨rows, envelopes, submissions, ledger⟩ := fresh
  constructor
  · constructor <;> simp [rows, envelopes, submissions, ledger]
  · exact nofun

section

variable (safe : TrackingSafe v)
include safe

/-- A step after which the world still agrees, everything known is still known, and the answer is recalled. -/
theorem after (ledgered : Ledgered w) (grows : TrackingGrows v.world w) (answer : Recalled w ⟨e.call, e.reply⟩) :
    TrackingSafe (v.after e w) where
  ledgered := ledgered
  recalled := by
    intro pid x member
    rcases mem_past_cons.mp member with ⟨_, rfl⟩ | earlier
    · exact answer
    · exact (safe.recalled pid x earlier).grows grows

theorem quiet (answer : Recalled v.world ⟨e.call, e.reply⟩) : TrackingSafe (v.after e v.world) :=
  safe.after safe.ledgered (.refl _) answer

theorem drift {d} (drifted : TrackingWorld.drift d v.world = some w) : TrackingSafe { v with world := w } := by
  have agrees : Ledgered w ∧ TrackingGrows v.world w := by
    cases d with
    | tick ms =>
      cases drifted
      exact ⟨{ safe.ledgered with }, { TrackingGrows.refl v.world with now := Nat.le_add_right _ _ }⟩
    | send envelope =>
      obtain ⟨fits, ⟨⟩⟩ := Option.ite_none_right_eq_some.mp drifted
      exact ⟨safe.ledgered.make fits _, { TrackingGrows.refl v.world with envelopes := List.subset_cons_self _ _ }⟩
    | close envelope success ledger =>
      obtain ⟨⟨known, _, unused⟩, ⟨⟩⟩ := Option.ite_none_right_eq_some.mp drifted
      have fresh : ∀ x ∈ v.world.ledger, x.inner ≠ envelope.inner := by
        intro x member
        simpa using List.all_eq_true.mp unused x member
      exact ⟨safe.ledgered.close known fresh,
        { TrackingGrows.refl v.world with ledger := List.subset_cons_self _ _ }⟩
  exact ⟨agrees.1, fun pid x member => (safe.recalled pid x member).grows agrees.2⟩

theorem of_read (read : ReadRow (past pid v.history) row) :
    ⟨row.txHash, row.txXdr⟩ ∈ v.world.envelopes ∧
      ∃ stored ∈ v.world.rows, stored.id = row.id ∧ stored.txXdr = row.txXdr := by
  obtain ⟨rows, answered, member⟩ := read
  exact safe.recalled pid _ answered row member

theorem of_built (built : BumpBuilt (past pid v.history) row envelope) :
    ∃ stored ∈ v.world.rows, stored.id = row.id ∧ ⟨envelope.hash, stored.txXdr⟩ ∈ v.world.envelopes := by
  obtain ⟨read, fee, answered⟩ := built
  obtain ⟨_, stored, inRows, sameId, sameXdr⟩ := safe.of_read read
  obtain ⟨known, isInner⟩ := safe.recalled pid _ answered
  refine ⟨stored, inRows, sameId, ?_⟩
  rw [sameXdr, ← isInner]
  exact known

theorem unsuccessful (found : FoundFailed (past pid v.history) row) : v.world.Unsuccessful row.id := by
  obtain ⟨read, errorCode, answered⟩ := found
  obtain ⟨known, stored, inRows, sameId, sameXdr⟩ := safe.of_read read
  obtain ⟨x, inLedger, isHash, notApplied⟩ := safe.recalled pid _ answered
  -- The transaction that failed is the row's.
  have inner : x.inner = row.txXdr := safe.ledgered.fits _ known _ (safe.ledgered.known x inLedger) isHash
  intro hash submitted y member sameHash
  obtain ⟨owner, inRows', isId, knownHash⟩ := safe.ledgered.submitted _ submitted
  cases safe.ledgered.same_row inRows' inRows (isId.trans sameId.symm)
  have innerOf : y.inner = stored.txXdr := safe.ledgered.fits _ knownHash _ (safe.ledgered.known y member) sameHash
  have same : y = x := safe.ledgered.once y member x inLedger (innerOf.trans (sameXdr.trans inner.symm))
  rw [same]
  exact notApplied

theorem passed (found : FoundExpired (past pid v.history) row) : row.maxTrackUntil ≤ seconds v.world.now := by
  obtain ⟨_, now, answered, passed⟩ := found
  have earlier : now ≤ v.world.now := safe.recalled pid _ answered
  exact Nat.le_trans passed (Nat.div_le_div_right earlier)

end

theorem upsert (now : Nat) (ledgered : Ledgered w) (fits : w.Fits ⟨opts.txHash, opts.txXdr⟩) :
    Ledgered (w.upsert opts now) ∧ TrackingGrows w (w.upsert opts now) := by
  unfold TrackingWorld.upsert
  split
  · -- The row that is tracked again has the hash, and so the transaction, already.
    have keeps : ∀ row ∈ w.rows,
        (if row.txHash = opts.txHash then TrackingWorld.retracked opts now row else row).id = row.id ∧
        (if row.txHash = opts.txHash then TrackingWorld.retracked opts now row else row).txXdr = row.txXdr := by
      intro row member
      split
      · rename_i sameHash
        exact ⟨rfl, (fits _ (ledgered.carried row member) sameHash).symm⟩
      · exact ⟨rfl, rfl⟩
    refine ⟨ledgered.change keeps ?_, Ledgered.change_grows keeps⟩
    intro row member
    rw [(keeps row member).2]
    split
    · exact ledgered.carried row member
    · exact ledgered.carried row member
  · refine ⟨ledgered.create fits _, ?_⟩
    refine { TrackingGrows.refl w with envelopes := List.subset_cons_self _ _, rows := ?_ }
    exact fun row member => ⟨row, List.mem_append_left _ member, rfl, rfl⟩

theorem update {id patch} (safe : TrackingSafe v) (allowed : TrackingRule (past pid v.history) (.update id patch)) :
    Ledgered (v.world.update id patch) ∧ TrackingGrows v.world (v.world.update id patch) := by
  have keeps : ∀ row ∈ v.world.rows, (if row.id = id then patch.apply row else row).id = row.id ∧
      (if row.id = id then patch.apply row else row).txXdr = row.txXdr := by
    intro row _
    split
    · cases patch <;> exact ⟨rfl, rfl⟩
    · exact ⟨rfl, rfl⟩
  refine ⟨safe.ledgered.change keeps ?_, Ledgered.change_grows keeps⟩
  intro row member
  have carried := safe.ledgered.carried row member
  split
  · rename_i isId
    cases patch with
    | bumped txHash feeBumpCount lastFeeStroops attempts nextPollAt =>
      obtain ⟨read, envelope, isRead, isHash, built⟩ := allowed
      obtain ⟨stored, inRows, sameId, known⟩ := safe.of_built built
      cases safe.ledgered.same_row member inRows (isId.trans (isRead.symm.trans sameId.symm))
      subst isHash
      exact known
    | _ => exact carried
  · exact carried

theorem dueRows {actor choice reply} (safe : TrackingSafe v)
    (performed : perform .dueRows choice v.world = some (reply, w)) :
    TrackingSafe (v.after ⟨actor, .dueRows, reply⟩ w) := by
  cases throws : choice.throws with
  | some message =>
    simp only [perform, answer, throws] at performed
    cases performed
    exact safe.quiet trivial
  | none =>
    simp only [perform, answer, throws] at performed
    cases performed
    apply safe.quiet
    intro r member
    have inRows : r ∈ v.world.rows := List.mem_of_mem_filter (List.mem_of_mem_take member)
    exact ⟨safe.ledgered.carried r inRows, r, inRows, rfl, rfl⟩

theorem getTransaction {actor choice hash reply} (safe : TrackingSafe v)
    (performed : perform (.getTransaction hash) choice v.world = some (reply, w)) :
    TrackingSafe (v.after ⟨actor, .getTransaction hash, reply⟩ w) := by
  obtain ⟨answered, rfl⟩ := Prod.mk.inj (Option.some.inj performed)
  apply safe.quiet
  rcases reply with message | (ledger | errorCode | _)
  · trivial
  · trivial
  · cases throws : choice.throws with
    | some message => simp [answer, throws] at answered
    | none =>
      simp only [answer, throws, Except.ok.injEq] at answered
      split at answered
      · cases answered
      · unfold lookup at answered
        split at answered
        · rename_i x isFound
          split at answered
          · cases answered
          · rename_i notApplied
            refine ⟨x, List.mem_of_find?_eq_some isFound, ?_, by simpa using notApplied⟩
            simpa using List.find?_some isFound
        · cases answered
  · trivial

theorem buildFeeBump {actor choice inner fee reply} (safe : TrackingSafe v)
    (performed : perform (.buildFeeBumpTransaction inner fee) choice v.world = some (reply, w)) :
    TrackingSafe (v.after ⟨actor, .buildFeeBumpTransaction inner fee, reply⟩ w) := by
  obtain ⟨fits, performed⟩ := Option.ite_none_right_eq_some.mp performed
  obtain ⟨answered, rfl⟩ := Prod.mk.inj (Option.some.inj performed)
  refine safe.after (safe.ledgered.make fits _)
    { TrackingGrows.refl v.world with envelopes := List.subset_cons_self _ _ } ?_
  cases reply with
  | error message => trivial
  | ok envelope =>
    cases throws : choice.throws with
    | some message => simp [answer, throws] at answered
    | none =>
      simp only [answer, throws, Except.ok.injEq] at answered
      subst answered
      exact ⟨.head _, rfl⟩

theorem step {choice} (safe : TrackingSafe v) (allowed : TrackingRule (past e.actor.pid v.history) e.call)
    (performed : perform e.call choice v.world = some (e.reply, w)) : TrackingSafe (v.after e w) := by
  obtain ⟨actor, call, reply⟩ := e
  cases call with
  | now =>
    cases performed
    exact safe.quiet le_rfl
  | emit | feeSource | getFeeStats =>
    cases performed
    exact safe.quiet trivial
  | upsert opts now =>
    obtain ⟨fits, performed⟩ := Option.ite_none_right_eq_some.mp performed
    obtain ⟨rfl, rfl⟩ := Prod.mk.inj (Option.some.inj performed)
    split
    · obtain ⟨ledgered, grows⟩ := upsert now safe.ledgered fits
      exact safe.after ledgered grows trivial
    · exact safe.quiet trivial
  | dueRows => exact safe.dueRows performed
  | update id patch =>
    simp only [perform] at performed
    split at performed
    · cases performed
      exact safe.quiet trivial
    · obtain ⟨rfl, rfl⟩ := Prod.mk.inj (Option.some.inj performed)
      split
      · obtain ⟨ledgered, grows⟩ := safe.update allowed
        exact safe.after ledgered grows trivial
      · exact safe.quiet trivial
  | getTransaction hash => exact safe.getTransaction performed
  | buildFeeBumpTransaction inner fee => exact safe.buildFeeBump performed
  | submit id envelope =>
    obtain ⟨row, isId, built⟩ := allowed
    obtain ⟨stored, inRows, sameId, known⟩ := safe.of_built built
    cases performed
    exact safe.after (safe.ledgered.submit inRows (sameId.trans isId) known _)
      { TrackingGrows.refl v.world with } trivial

end TrackingSafe

/-- In every run, a row is marked failed and the failure published only if no envelope of the row has been included
    successfully; and it is marked expired and that published only once the bound with which the batch read it has
    passed. -/
theorem tracked_outcomes {maxFeeStroops : Nat} {ts : List TrackingTransition}
    {c : Config TrackingReply TrackingWorld TrackingRequest (Except String Unit)}
    (run : Run (trackingService maxFeeStroops) tracking ts c) : ∀ t ∈ ts, t.Truthful := by
  have holds := (Run.invariant (I := TrackingSafe) trackingDiscipline_followed (fun w => .initial)
    (fun v d w safe drifted => safe.drift drifted) (fun v e v' safe allowed => by
      obtain ⟨choice, w, performed, rfl⟩ := allowed.performed
      exact safe.step allowed.allowed performed) run).2
  intro t member
  obtain ⟨safe, _, allowed⟩ := holds t member
  constructor
  · intro actor id reply isEvent
    obtain ⟨row, rfl, found⟩ := (allowed _ isEvent).allowed
    exact safe.unsuccessful found
  · intro actor txHash intentId errorCode latencyMs reply isEvent
    obtain ⟨row, isHash, found⟩ := (allowed _ isEvent).allowed
    exact ⟨row, found.1, isHash, safe.unsuccessful found⟩
  · intro actor id reply isEvent
    obtain ⟨row, isId, found⟩ := (allowed _ isEvent).allowed
    exact ⟨row, found.1, isId, safe.passed found⟩
  · intro actor txHash intentId latencyMs reply isEvent
    obtain ⟨row, isHash, found⟩ := (allowed _ isEvent).allowed
    exact ⟨row, found.1, isHash, safe.passed found⟩

/-- The row that a step marks, and as what. -/
def TrackingTransition.marked (t : TrackingTransition) : Option (Nat × PendingTxStatus) :=
  match t.event with
  | some ⟨_, .update id (.status status), _⟩ => some (id, status)
  | _ => none

/-- A submission with little time left is bumped once, and the fee bump is included and fails. -/
def bumpedAndFailed : List TrackingMove :=
  ([.arrive (.track { txHash := 1, txXdr := 7, maxTrackUntil := 30 }), .act 0 {}, .act 0 {}, .arrive .pollBatch] :
      List TrackingMove) ++
    (List.replicate 6 (.act 1 {}) : List TrackingMove) ++
    ([.act 1 { hash := 2 }, .act 1 {}, .act 1 {}] : List TrackingMove) ++
    ([.drift (.close ⟨2, 7⟩ false 3), .drift (.tick 6000), .arrive .pollBatch] : List TrackingMove) ++
    (List.replicate 4 (.act 2 {}) : List TrackingMove) ++
    ([.act 2 { feeSource := false }, .act 2 {}, .act 2 {}] : List TrackingMove)

theorem tracked_outcomes_bumped :
    ∃ (ts : List TrackingTransition) (c : _), Run (trackingService 1000) tracking ts c ∧
      ts.filterMap TrackingTransition.marked = [(0, .failed)] ∧ ∀ t ∈ ts, t.Truthful := by
  obtain ⟨ts, c, run, marked⟩ := Run.exists_of_trace (trackingService 1000) tracking {} bumpedAndFailed
    (fun ts _ => ts.filterMap TrackingTransition.marked == [(0, .failed)]) ⟨rfl, rfl, rfl, rfl⟩ (fun _ _ => trivial)
    (by decide +kernel)
  exact ⟨ts, c, run, eq_of_beq marked, tracked_outcomes run⟩

/-- The tracked envelope is included successfully, and the next batch comes after the bound. -/
def includedThenExpired : List TrackingMove :=
  [.arrive (.track { txHash := 1, txXdr := 7, maxTrackUntil := 30 }), .act 0 {}, .act 0 {},
    .drift (.close ⟨1, 7⟩ true 3), .drift (.tick 30000), .arrive .pollBatch, .act 1 {}, .act 1 {}, .act 1 {}]

/-- A row is marked expired although its envelope has been included successfully. -/
theorem expired_after_success :
    ∃ (ts : List TrackingTransition) (c : _), Run (trackingService 1000) tracking ts c ∧
      ∃ t ∈ ts, t.marked = some (0, .expired) ∧ ¬ t.before.world.Unsuccessful 0 := by
  obtain ⟨ts, c, run, found⟩ := Run.exists_of_trace (trackingService 1000) tracking {} includedThenExpired
    (fun ts _ => ts.any fun t => TrackingTransition.marked t == some (0, .expired) &&
      t.before.world.submissions == [(0, 1)] && t.before.world.ledger == [⟨1, 7, true, 3⟩])
    ⟨rfl, rfl, rfl, rfl⟩ (fun _ _ => trivial) (by decide +kernel)
  obtain ⟨t, member, facts⟩ := List.any_eq_true.mp found
  obtain ⟨both, ledger⟩ := Bool.and_eq_true_iff.mp facts
  obtain ⟨marked, submissions⟩ := Bool.and_eq_true_iff.mp both
  refine ⟨ts, c, run, t, member, eq_of_beq marked, fun unsuccessful => ?_⟩
  have isSubmitted : (0, 1) ∈ t.before.world.submissions := by
    rw [eq_of_beq submissions]
    exact .head _
  have isIncluded : ⟨1, 7, true, 3⟩ ∈ t.before.world.ledger := by
    rw [eq_of_beq ledger]
    exact .head _
  exact Bool.noConfusion (unsuccessful 1 isSubmitted _ isIncluded rfl)

end VortexBackend
