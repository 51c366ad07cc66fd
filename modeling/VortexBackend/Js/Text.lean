/-
Module: VortexBackend.Js.Text
Purpose: Texts that are put together from parts and a separator, and numerals as parts of them.
Main exports: split_at_last
-/
import Mathlib.Data.Nat.Digits.Defs

namespace VortexBackend

/-- A text without a separator behind the last separator can be told from what is before it. -/
theorem split_at_last {α : Type} {x : α} {before before' after after' : List α} (clean : x ∉ after)
    (clean' : x ∉ after')
    (same : before ++ x :: after = before' ++ x :: after') : before = before' ∧ after = after' := by
  induction before generalizing before' with
  | nil =>
    cases before' with
    | nil => exact ⟨rfl, (List.cons.inj same).2⟩
    | cons y before' =>
      have inside : x ∈ after := by
        rw [(List.cons.inj same).2]
        exact List.mem_append_right _ (.head _)
      exact absurd inside clean
  | cons y before ih =>
    cases before' with
    | nil =>
      have inside : x ∈ after' := by
        rw [← (List.cons.inj same).2]
        exact List.mem_append_right _ (.head _)
      exact absurd inside clean'
    | cons y' before' =>
      obtain ⟨sameHead, sameTail⟩ := List.cons.inj same
      obtain ⟨sameBefore, sameAfter⟩ := ih sameTail
      exact ⟨by rw [sameHead, sameBefore], sameAfter⟩

theorem colon_notMem_digits (n : Nat) : ':' ∉ Nat.toDigits 10 n := by
  intro member
  have isDigit := Nat.isDigit_of_mem_toDigits (by decide) (by decide) member
  cases isDigit

theorem toDigits_injective {n m} (same : Nat.toDigits 10 n = Nat.toDigits 10 m) : n = m := by
  have values := congrArg (Nat.ofDigitChars 10 · 0) same
  simpa [Nat.ofDigitChars_toDigits] using values

end VortexBackend
