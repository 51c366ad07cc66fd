/-
Module: VortexBackend.Proofs.StreamClient
Purpose: Emitted numbers increase, and a replay is emitted whole unless the filter skips a number in it.
Main exports: replays_emitted
-/
import VortexBackend.Proofs.FeedDelivery
import VortexBackend.SolverSdk.Ws

namespace VortexBackend

open VortexWsClient

open Component (Meets states)

namespace WsSession

variable {s : WsSession} {n : Nat}

/-- What is emitted increases, and nothing is missing in it since the replay that is asked for. -/
structure InOrder (s : WsSession) : Prop where
  passing : Feed.Climbs s.passing s.sequenced
  increase : s.emitted.Pairwise (· < ·)
  below : ∀ n ∈ s.emitted, (n : Int) ≤ s.client.lastSeq
  asked : ∀ fromSeq, s.asked = some fromSeq → 0 ≤ fromSeq ∧ fromSeq ≤ s.client.lastSeq ∧
    ∀ n : Nat, fromSeq < n → (n : Int) ≤ s.client.lastSeq → n ∈ s.emitted
  replayed : ∀ n ∈ s.replayed, n ∈ s.emitted

namespace InOrder

theorem start (resumeFrom : Option Int) : InOrder (start resumeFrom) := ⟨.nil, .nil, nofun, nofun, nofun⟩

variable (ok : InOrder s)
include ok

theorem ask : InOrder { s with
    client := s.client.requestReplay.1, asked := s.client.requestReplay.2.or s.asked } := by
  unfold requestReplay
  split
  · exact ok
  · rename_i free
    refine { ok with asked := ?_ }
    rintro _ ⟨⟩
    exact ⟨Int.not_lt.mp (not_or.mp free).2, Int.le_refl _, fun n later upTo => absurd later (Int.not_lt.mpr upTo)⟩

theorem emit {replaying} (fresh : s.client.lastSeq < n)
    (next : 0 ≤ s.client.lastSeq → (n : Int) = s.client.lastSeq + 1) :
    InOrder { s with client := { lastSeq := n, replaying }, emitted := s.emitted ++ [n] } := by
  have older : ∀ x ∈ s.emitted, x < n := fun x member => by
    have := ok.below x member
    omega
  refine ⟨ok.passing, ?_, ?_, fun fromSeq isAsked => ?_, fun x member =>
    List.mem_append_left _ (ok.replayed x member)⟩
  · simpa [List.pairwise_append, ok.increase] using older
  · simpa [or_imp, forall_and] using fun x member => Nat.le_of_lt (older x member)
  · obtain ⟨known, reached, whole⟩ := ok.asked fromSeq isAsked
    refine ⟨known, by dsimp only; omega, fun x later upTo => ?_⟩
    by_cases isNext : x = n
    · simp [isNext]
    · exact List.mem_append_left _ (whole x later (by dsimp only at upTo; omega))

theorem receive_event (n : Nat) : InOrder (s.receive (.event n)) := by
  simp only [receive, onFrame]
  split
  · simpa using ok
  split
  · simpa using ok.ask
  split
  · simpa using ok
  · exact ok.emit (by omega) (by grind)

theorem receive_connected (seq : Nat) : InOrder (s.receive (.connected seq)) := by
  simp only [receive, onFrame]
  split
  · have nothing : s.emitted = [] := List.eq_nil_iff_forall_not_mem.mpr fun x member => by
      have := ok.below x member
      omega
    have := ok.replayed
    refine { ok with increase := ?_, below := ?_, asked := fun fromSeq isAsked => ?_, replayed := ?_ } <;> simp_all
    have := ok.asked fromSeq isAsked
    omega
  split
  · simpa using ok.ask
  · simpa using ok

theorem receiveEvents (seqs : List Nat) : InOrder (s.receiveEvents seqs) := by
  induction seqs generalizing s with
  | nil => exact ok
  | cons n seqs ih => exact ih (ok.receive_event n)

end InOrder

/-- An event that is due raises the last number at least to its own, and nothing is asked for. -/
theorem receive_due (due : (n : Int) ≤ s.client.lastSeq + 1) : (s.receive (.event n)).asked = s.asked ∧
    s.client.lastSeq ≤ (s.receive (.event n)).client.lastSeq ∧ n ≤ (s.receive (.event n)).client.lastSeq := by
  have noGap : ¬s.client.lastSeq + 1 < n := Int.not_lt.mpr due
  simp only [receive, onFrame, noGap, and_false, false_and, if_false]
  split <;> simp_all [Int.le_of_lt]

theorem receive_whole {top : Nat} (seqs : List Nat) : ∀ s : WsSession, seqs.Pairwise (· < ·) →
    (∀ n ∈ seqs, n ≤ top) → 0 ≤ s.client.lastSeq →
    (∀ n : Nat, s.client.lastSeq < n → n ≤ top → n ∈ seqs) →
    (s.receiveEvents seqs).asked = s.asked ∧ (top : Int) ≤ (s.receiveEvents seqs).client.lastSeq := by
  induction seqs with
  | nil =>
    intro s _ _ _ whole
    exact ⟨rfl, Int.not_lt.mp fun later => nomatch whole top later (Nat.le_refl _)⟩
  | cons n seqs ih =>
    intro s sorted bounded known whole
    obtain ⟨first, sorted⟩ := List.pairwise_cons.mp sorted
    obtain ⟨last, isLast⟩ := Int.eq_ofNat_of_zero_le known
    have within := bounded n (.head _)
    -- Otherwise the number after the last one would come before `n` in the replay.
    have due : (n : Int) ≤ s.client.lastSeq + 1 := by
      by_contra late
      rcases List.mem_cons.mp (whole (last + 1) (by omega) (by omega)) with isHead | behind
      · omega
      · have := first _ behind
        omega
    obtain ⟨asked, grows, reached⟩ := receive_due due
    obtain ⟨asked', upTo⟩ :=
      ih (s.receive (.event n)) sorted (fun m member => bounded m (.tail _ member)) (by omega)
      fun m later within => (List.mem_cons.mp (whole m (by omega) within)).resolve_left (by omega)
    exact ⟨asked'.trans asked, upTo⟩

/-- No event since the replay that is asked for is skipped by the filter. -/
def unskipped (s : WsSession) : WsOp → Bool
  | .replay _ => s.asked.all fun fromSeq =>
    (List.range' 1 s.sequenced).all fun n => (n : Int) ≤ fromSeq || s.passing.contains n
  | _ => true

theorem InOrder.step (ok : InOrder s) {op} (met : s.unskipped op = true) : InOrder (step s op).2 := by
  cases op with
  | publish passes arrives =>
    have published : InOrder { s with
        sequenced := s.sequenced + 1, passing := s.passing ++ if passes then [s.sequenced + 1] else [] } := by
      refine { ok with passing := ?_ }
      cases passes with
      | true => exact ok.passing.snoc (Nat.lt_succ_self _)
      | false => simpa using ok.passing.mono (.refl _) (Nat.le_succ _)
    simp only [WsSession.step]
    split
    · exact published.receive_event _
    · exact published
  | replay arrive =>
    cases isAsked : s.asked with
    | none => simpa [WsSession.step, isAsked] using ok
    | some fromSeq =>
      have started : s.receive .replayStart = s := by simp [receive, onFrame]
      simp only [WsSession.step, isAsked, started]
      split
      · exact { ok.receiveEvents _ with asked := nofun }
      · rw [List.take_of_length_le (by omega)]
        obtain ⟨known, reached, _⟩ := ok.asked fromSeq isAsked
        have carries : (s.carried fromSeq).Sublist s.passing := List.filter_sublist
        have bounded := fun n member => ok.passing.2 n (carries.mem member)
        have whole : ∀ n : Nat, s.client.lastSeq < n → n ≤ s.sequenced → n ∈ s.carried fromSeq := by
          intro n later within
          simp only [unskipped, isAsked, Option.all_some, List.all_eq_true] at met
          have passes := met n (List.mem_range'_1.mpr (by omega))
          simp only [Bool.or_eq_true, decide_eq_true_eq, List.contains_iff_mem] at passes
          exact List.mem_filter.mpr ⟨passes.resolve_left (by omega), decide_eq_true (by omega)⟩
        obtain ⟨asked, upTo⟩ := receive_whole _ s (ok.passing.1.sublist carries) bounded (by omega) whole
        have after := ok.receiveEvents (s.carried fromSeq)
        have emitted := (after.asked fromSeq (asked.trans isAsked)).2.2
        refine { after with increase := ?_, below := ?_, asked := nofun, replayed := ?_ } <;>
          simp only [receive, onFrame, List.filterMap_nil, List.append_nil]
        · exact after.increase
        · exact after.below
        · intro n member
          rcases List.mem_append.mp member with old | isCarried
          · exact after.replayed n old
          · have := bounded n isCarried
            exact emitted n (of_decide_eq_true (List.mem_filter.mp isCarried).2) (by omega)
  | connect =>
    simp only [WsSession.step]
    split
    · exact ok
    · have opened : InOrder { s with connected := true } := { ok with }
      exact opened.receive_connected _
  | disconnect => exact { ok with asked := nofun }

end WsSession

/-- In every run in which no replay skips a number, events are emitted in increasing order, and whatever the replays
    that have ended carried is emitted. -/
theorem replays_emitted (resumeFrom : Option Int) (ops : List WsOp)
    (met : Meets WsSession.step (fun _ s op => s.unskipped op = true) [] (.start resumeFrom) ops) :
    ∀ s ∈ states WsSession.step (.start resumeFrom) ops,
      s.emitted.Pairwise (· < ·) ∧ ∀ n ∈ s.replayed, n ∈ s.emitted := by
  intro s reached
  have ok := Component.states_invariant WsSession.InOrder (fun _ _ _ ok met => ok.step met) ops [] _
    (.start resumeFrom) met
  exact ⟨(ok s reached).increase, (ok s reached).replayed⟩

/-- An event is lost on the way to the client, and the next one has it replayed. -/
theorem replays_emitted_two :
    ∃ s ∈ states WsSession.step (.start none) [.connect, .publish true false, .publish true true, .replay 3],
      s.replayed = [1, 2] ∧ s.emitted.Pairwise (· < ·) ∧ ∀ n ∈ s.replayed, n ∈ s.emitted := by
  have reached : ∃ s ∈ states WsSession.step (.start none)
      [.connect, .publish true false, .publish true true, .replay 3], s.replayed = [1, 2] := by decide
  obtain ⟨s, member, replayed⟩ := reached
  exact ⟨s, member, replayed, replays_emitted none _ (by decide) s member⟩

/-- The first event does not pass the filter. The second one looks like a gap and is dropped when it is replayed. -/
theorem filtered_replay_lost :
    ∃ s ∈ states WsSession.step (.start none) [.connect, .publish false false, .publish true true, .replay 2],
      s.replayed = [2] ∧ s.emitted = [] := by
  decide

end VortexBackend
