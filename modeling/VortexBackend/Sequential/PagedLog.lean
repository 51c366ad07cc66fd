/-
Module: VortexBackend.Sequential.PagedLog
Purpose: Reading an ordered log page by page. `Left` says which entries are still to be read.
Main exports: PagedLog.Left
-/
import Mathlib.Data.List.Basic

namespace VortexBackend.PagedLog

variable {α τ : Type} [DecidableEq τ] {token : α → τ} {p : α → Bool} {log left : List α}

/-- The entries behind the one with the given token. -/
def after (token : α → τ) (log : List α) (cursor : τ) : List α :=
  (log.dropWhile fun entry => token entry ≠ cursor).drop 1

/-- The reader sees the entries that satisfy `p`, and of these `left` come after what it has read. -/
def Left (p : α → Bool) (log left : List α) :
    Prop := ∃ read unread, log = read ++ unread ∧ left = unread.filter p

theorem after_of_split {before rest entry} (unique : (log.map token).Nodup) (split : log = before ++ entry :: rest) :
    after token log (token entry) = rest := by
  subst split
  have earlier : ∀ other ∈ before, decide (token other ≠ token entry) = true := by
    intro other member
    rw [List.map_append, List.map_cons, List.nodup_append] at unique
    have differs := unique.2.2 (token other) (List.mem_map_of_mem member) (token entry) (.head _)
    exact decide_eq_true differs
  rw [after, List.dropWhile_append_of_pos earlier, List.dropWhile_cons_of_neg (by simp)]
  rfl

theorem Left.whole (p : α → Bool) (log : List α) : Left p log (log.filter p) := ⟨[], log, rfl, rfl⟩

/-- A page ends with an entry, and behind that entry the reader sees what the page did not take. -/
theorem Left.page {size last} (reading : Left p log left) (unique : (log.map token).Nodup)
    (isLast : (left.take size).getLast? = some last) :
    (after token log (token last)).filter p = left.drop size ∧ Left p log (left.drop size) := by
  obtain ⟨read, unread, rfl, rfl⟩ := reading
  obtain ⟨front, isPage⟩ := List.getLast?_eq_some_iff.mp isLast
  have split : unread.filter p = front ++ last :: (unread.filter p).drop size := by
    calc unread.filter p
        = (unread.filter p).take size ++ (unread.filter p).drop size := (List.take_append_drop _ _).symm
      _ = front ++ last :: (unread.filter p).drop size := by rw [isPage, List.append_assoc, List.singleton_append]
  obtain ⟨skipped, tail, rfl, -, fromLast⟩ := List.filter_eq_append_iff.mp split
  obtain ⟨more, rest, rfl, -, -, isRest⟩ := List.filter_eq_cons_iff.mp fromLast
  have whole : read ++ (skipped ++ (more ++ last :: rest)) = (read ++ skipped ++ more) ++ last :: rest := by simp
  have behind : after token (read ++ (skipped ++ (more ++ last :: rest))) (token last) = rest :=
    after_of_split unique whole
  refine ⟨by rw [behind, isRest], read ++ skipped ++ more ++ [last], rest, by simp, isRest.symm⟩

end VortexBackend.PagedLog
