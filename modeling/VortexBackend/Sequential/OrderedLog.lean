/-
Module: VortexBackend.Sequential.OrderedLog
Purpose: A log ordered by a number, and the parts of it that ranges and pages make up.
Main exports: Ordered, between_append
-/
import Mathlib.Data.List.Basic

namespace VortexBackend

variable {α : Type} {key : α → Nat} {log : List α} {lo mid hi : Nat}

/-- The entries come in the order of their numbers. -/
def Ordered (key : α → Nat) (log : List α) : Prop := log.Pairwise fun x y => key x ≤ key y

/-- The entries with a number from `lo` to before `hi`. -/
def between (key : α → Nat) (lo hi : Nat) (log : List α) : List α := log.filter fun x => lo ≤ key x && key x < hi

@[simp] theorem mem_between {x} : x ∈ between key lo hi log ↔ x ∈ log ∧ lo ≤ key x ∧ key x < hi := by
  simp [between]

@[simp] theorem between_self : between key lo lo log = [] := by
  rw [List.eq_nil_iff_forall_not_mem]
  intro x member
  have bounds := (mem_between.mp member).2
  omega

/-- Two adjacent ranges make up one. -/
theorem between_append (ordered : Ordered key log) (low : lo ≤ mid) (high : mid ≤ hi) :
    between key lo mid log ++ between key mid hi log = between key lo hi log := by
  induction log with
  | nil => rfl
  | cons x rest ih =>
    have later : ∀ y ∈ rest, key x ≤ key y := (List.pairwise_cons.mp ordered).1
    have ih := ih (List.pairwise_cons.mp ordered).2
    by_cases inFront : key x < mid
    · -- The first entry is in the first range or below both.
      by_cases above : lo ≤ key x
      · have inRange : key x < hi := by omega
        have notYet : ¬ mid ≤ key x := by omega
        simp only [between, List.filter_cons, above, inFront, inRange, notYet, decide_true, decide_false,
          Bool.and_self, Bool.false_and, Bool.false_eq_true, if_true, if_false, List.cons_append]
        exact congrArg (x :: ·) ih
      · have notYet : ¬ mid ≤ key x := by omega
        simp only [between, List.filter_cons, above, notYet, decide_false, Bool.false_and, Bool.false_eq_true,
          if_false]
        exact ih
    · -- No later entry is in the first range either.
      have none : between key lo mid rest = [] := by
        rw [List.eq_nil_iff_forall_not_mem]
        intro y member
        obtain ⟨inRest, _, below⟩ := mem_between.mp member
        have := later y inRest
        omega
      have empty : between key lo mid (x :: rest) = [] := by
        rw [between, List.filter_cons_of_neg (by simp; omega)]
        exact none
      have sameRest : between key mid hi rest = between key lo hi rest := by
        rw [← ih, none, List.nil_append]
      have both : (decide (mid ≤ key x) && decide (key x < hi)) = (decide (lo ≤ key x) && decide (key x < hi)) := by
        have fromMid : mid ≤ key x := by omega
        have fromLo : lo ≤ key x := by omega
        simp [fromMid, fromLo]
      rw [empty, List.nil_append, between, between, List.filter_cons, List.filter_cons, both]
      split
      · exact congrArg (x :: ·) sameRest
      · exact sameRest

/-- A page from the start of the entries from `lo` on, if it reaches up to the number before `hi` and everything behind
    it has a larger number. -/
theorem take_eq_between {size} (page : ∀ x ∈ (log.filter (lo ≤ key ·)).take size, key x < hi)
    (behind : ∀ x ∈ (log.filter (lo ≤ key ·)).drop size, hi ≤ key x) :
    (log.filter (lo ≤ key ·)).take size = between key lo hi log := by
  have split : between key lo hi log = (log.filter (lo ≤ key ·)).filter (key · < hi) := by
    rw [between, List.filter_filter]
    exact List.filter_congr fun x _ => Bool.and_comm _ _
  have taken : ((log.filter (lo ≤ key ·)).take size).filter (key · < hi) = (log.filter (lo ≤ key ·)).take size :=
    List.filter_eq_self.mpr fun x member => decide_eq_true (page x member)
  have dropped : ((log.filter (lo ≤ key ·)).drop size).filter (key · < hi) = [] :=
    List.filter_eq_nil_iff.mpr fun x member isBelow =>
      absurd (of_decide_eq_true isBelow) (Nat.not_lt.mpr (behind x member))
  rw [split, ← List.take_append_drop size (log.filter (lo ≤ key ·)), List.filter_append, taken, dropped,
    List.append_nil, List.take_append_drop]

end VortexBackend
