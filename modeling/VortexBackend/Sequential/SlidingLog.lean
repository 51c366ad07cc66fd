/-
Module: VortexBackend.Sequential.SlidingLog
Purpose: A sliding window over a log of admissions, each of which may come after its time.
Main exports: Freshness, SlidingLog
-/
import Mathlib.Order.Basic

namespace VortexBackend

/-- Which times count at a time, and which can be admitted at it; what has stopped to count does not count later. -/
structure Freshness (α : Type) [Preorder α] where
  fresh : (now t : α) → Bool
  timely : (now t : α) → Prop
  fades : ∀ {now later t}, now ≤ later → fresh later t = true → fresh now t = true

variable {α : Type} [Preorder α]

/-- Times that all count whenever one of them can be admitted, such as those in an interval of the length of the
    window. -/
def Freshness.Narrow (F : Freshness α) (among : α → Bool) : Prop :=
  ∀ t t' now, among t = true → among t' = true → F.timely now t' → F.fresh now t = true

/-- What was admitted until `now`, and what a window has kept of it. -/
structure SlidingLog (F : Freshness α) (limit : Nat) (now : α) (log kept : List α) : Prop where
  covered : ∀ later, now ≤ later → log.countP (F.fresh later) ≤ kept.countP (F.fresh later)
  bounded : ∀ among, F.Narrow among → log.countP among ≤ limit

namespace SlidingLog

variable {F : Freshness α} {limit : Nat} {now later : α} {log kept : List α}

theorem empty : SlidingLog F limit now [] kept := ⟨fun _ _ => Nat.zero_le _, fun _ _ => Nat.zero_le _⟩

section

variable (sliding : SlidingLog F limit now log kept)
include sliding

theorem wait (forward : now ≤ later) : SlidingLog F limit later log kept :=
  ⟨fun time passed => sliding.covered time (le_trans forward passed), sliding.bounded⟩

theorem evict {keep : α → Bool} (keeps : ∀ t ∈ kept, F.fresh now t = true → keep t = true) :
    SlidingLog F limit now log (kept.filter keep) := by
  refine ⟨fun later passed => ?_, sliding.bounded⟩
  have same : (kept.filter keep).countP (F.fresh later) = kept.countP (F.fresh later) := by
    rw [List.countP_filter]
    refine List.countP_congr fun t member => ?_
    simp only [Bool.and_eq_true]
    exact ⟨And.left, fun fresh => ⟨fresh, keeps t member (F.fades passed fresh)⟩⟩
  rw [same]
  exact sliding.covered later passed

theorem keep (t : α) : SlidingLog F limit now log (kept ++ [t]) := by
  refine ⟨fun later passed => ?_, sliding.bounded⟩
  rw [List.countP_append]
  exact Nat.le_add_right_of_le (sliding.covered later passed)

theorem grant {t} (timely : F.timely now t) (room : kept.length < limit) :
    SlidingLog F limit now (t :: log) (kept ++ [t]) := by
  refine ⟨fun later passed => ?_, fun among narrow => ?_⟩
  · have covered := sliding.covered later passed
    simp only [List.countP_append, List.countP_cons, List.countP_nil]
    omega
  · rw [List.countP_cons]
    split
    next inside =>
      -- whatever is among the same times as the newest entry still counts when it comes
      have shared : log.countP among ≤ log.countP (F.fresh now) :=
        List.countP_mono_left fun t' _ isAmong => narrow t' t now isAmong inside timely
      have covered := sliding.covered now le_rfl
      have few : kept.countP (F.fresh now) ≤ kept.length := List.countP_le_length
      omega
    next => exact sliding.bounded among narrow

end

end SlidingLog

end VortexBackend
