/-
Module: VortexBackend.Js.RecentSet
Purpose: A set of bounded size that the oldest element leaves first.
Main exports: RecentSet.Holds
-/
import Mathlib.Data.List.DropRight
import Mathlib.Data.List.Nodup

namespace VortexBackend

/-- A `Set` that is iterated from the oldest element to the newest. -/
structure RecentSet (α : Type) where
  elements : List α
  nodup : elements.Nodup

namespace RecentSet

variable {α : Type}

instance : EmptyCollection (RecentSet α) := ⟨⟨[], List.nodup_nil⟩⟩

section

variable [DecidableEq α]

def has (s : RecentSet α) (x : α) : Bool := x ∈ s.elements

/-- `add`, without a bound: an element that is there already keeps its place. -/
def insert (s : RecentSet α) (x : α) : RecentSet α :=
  if fresh : x ∈ s.elements then s
  else ⟨s.elements ++ [x], List.nodup_append.mpr
    ⟨s.nodup, List.nodup_singleton x, fun _ member _ isNew same =>
      fresh (List.mem_singleton.mp isNew ▸ same ▸ member)⟩⟩

/-- Without the element that was added first. -/
def dropOldest (s : RecentSet α) : RecentSet α := ⟨s.elements.tail, s.nodup.tail⟩

/-- Add an element and keep the size within the capacity. -/
def add (capacity : Nat) (s : RecentSet α) (x : α) : RecentSet α :=
  if capacity < (s.insert x).elements.length then (s.insert x).dropOldest else s.insert x

end

@[simp] theorem elements_empty : (∅ : RecentSet α).elements = [] := rfl

/-- Of everything that was added, in order, the set holds the last elements. -/
def Holds (capacity : Nat) (added : List α) (s : RecentSet α) : Prop := s.elements = added.rtake capacity

theorem Holds.empty (capacity : Nat) : Holds capacity ([] : List α) ∅ := (List.rtake_nil capacity).symm

variable [DecidableEq α] {capacity : Nat} {added : List α} {s : RecentSet α} {x : α}

theorem Holds.has (holds : Holds capacity added s) : s.has x = true ↔ x ∈ added.rtake capacity := by
  rw [RecentSet.has, decide_eq_true_iff, show s.elements = _ from holds]

theorem elements_insert (fresh : s.has x = false) : (s.insert x).elements = s.elements ++ [x] := by
  have notThere : x ∉ s.elements := of_decide_eq_false fresh
  simp [insert, notThere]

theorem Holds.add (holds : Holds capacity added s) (fresh : s.has x = false) :
    Holds capacity (added ++ [x]) (s.add capacity x) := by
  have inserted : (s.insert x).elements = added.rtake capacity ++ [x] := by
    rw [elements_insert fresh, show s.elements = _ from holds]
  by_cases fits : added.length < capacity
  · -- Nothing has been dropped so far, and there is room for one more.
    have everything : added.rtake capacity = added := by
      rw [List.rtake, Nat.sub_eq_zero_of_le (Nat.le_of_lt fits), List.drop_zero]
    have room : ¬ capacity < (s.insert x).elements.length := by
      rw [inserted, everything, List.length_append, List.length_singleton]
      omega
    rw [RecentSet.add, if_neg room, Holds, inserted, everything, List.rtake, List.length_append, List.length_singleton,
      Nat.sub_eq_zero_of_le (by omega), List.drop_zero]
  · have full : (added.rtake capacity).length = capacity := by
      rw [List.rtake, List.length_drop]
      omega
    have exceeds : capacity < (s.insert x).elements.length := by
      rw [inserted, List.length_append, full, List.length_singleton]
      omega
    have behind : (added ++ [x]).length - capacity = added.length - capacity + 1 := by
      rw [List.length_append, List.length_singleton]
      omega
    have whole : (added ++ [x]).drop (added.length - capacity) = added.drop (added.length - capacity) ++ [x] :=
      List.drop_append_of_le_length (by omega)
    have oldestGone : (s.insert x).dropOldest.elements = (added.rtake capacity ++ [x]).tail :=
      congrArg List.tail inserted
    rw [RecentSet.add, if_pos exceeds, Holds, oldestGone, List.rtake, List.rtake, behind, ← List.tail_drop, whole]

end RecentSet

/-! ### Elements in the order of their first occurrence -/

section Distinct

variable {α : Type} [DecidableEq α] {x : α} {xs : List α}

/-- The elements of a list, each where it occurs first. -/
def distinct (xs : List α) : List α := xs.foldl (fun seen x => if x ∈ seen then seen else seen ++ [x]) []

@[simp] theorem distinct_nil : distinct ([] : List α) = [] := rfl

theorem distinct_concat (xs : List α) (x : α) :
    distinct (xs ++ [x]) = if x ∈ distinct xs then distinct xs else distinct xs ++ [x] := by
  rw [distinct, List.foldl_append]
  rfl

@[simp] theorem mem_distinct : x ∈ distinct xs ↔ x ∈ xs := by
  induction xs using List.reverseRecOn with
  | nil => simp
  | append_singleton xs y ih =>
    rw [distinct_concat]
    split
    · rename_i seen
      rw [ih, List.mem_append, List.mem_singleton]
      constructor
      · exact .inl
      · rintro (earlier | rfl)
        · exact earlier
        · exact ih.mp seen
    · simp [ih]

theorem length_distinct_le (xs : List α) : (distinct xs).length ≤ xs.length := by
  induction xs using List.reverseRecOn with
  | nil => exact Nat.le_refl 0
  | append_singleton xs y ih =>
    rw [distinct_concat, List.length_append, List.length_singleton]
    split
    · exact Nat.le_succ_of_le ih
    · rw [List.length_append, List.length_singleton]
      omega

end Distinct

end VortexBackend
