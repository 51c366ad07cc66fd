/-
Module: VortexBackend.Js.Decimal
Purpose: Decimal texts, the number they denote, and its digits scaled by a power of ten.
Main exports: Decimal.value, Decimal.value_mul_pow
-/
import Mathlib.Data.Rat.Defs
import Mathlib.Tactic.FieldSimp
import Mathlib.Tactic.Ring
import VortexBackend.Js.BigInt

namespace VortexBackend

namespace Decimal

variable (text : List Char)

/-- The two halves of `text.split(".")`. -/
def whole : List Char := text.takeWhile (· ≠ '.')

def fraction : List Char := ((text.dropWhile (· ≠ '.')).drop 1).takeWhile (· ≠ '.')

def digits : Bool := !text.isEmpty && text.all Char.isDigit

/-- `/^\d+(\.\d+)?$/` -/
def isDecimal : Bool :=
  digits (whole text) &&
    (whole text == text || (digits (fraction text) && whole text ++ '.' :: fraction text == text))

/-- The number that a decimal text denotes. -/
def value : Rat :=
  Nat.ofDigitChars 10 (whole text) 0 + Nat.ofDigitChars 10 (fraction text) 0 / 10 ^ (fraction text).length

/-- The fraction, filled up with zeros or cut to the given number of digits. -/
def padded (places : Nat) : List Char :=
  (fraction text ++ List.replicate places '0').take places

/-! ### The parts of a decimal text -/

variable {text : List Char} {places : Nat}

theorem digits_iff : digits text = true ↔ text ≠ [] ∧ ∀ c ∈ text, c.isDigit = true := by
  simp [digits]

theorem whole_digits (h : isDecimal text = true) : digits (whole text) = true := by
  rw [isDecimal, Bool.and_eq_true] at h
  exact h.1

theorem fraction_digits (h : isDecimal text = true) : ∀ c ∈ fraction text, c.isDigit = true := by
  rw [isDecimal, Bool.and_eq_true, Bool.or_eq_true, Bool.and_eq_true, beq_iff_eq] at h
  rcases h.2 with noDot | both
  · have nothing : text.dropWhile (· ≠ '.') = [] := by
      have split := List.takeWhile_append_dropWhile (p := (· ≠ '.')) (l := text)
      rw [show text.takeWhile (· ≠ '.') = text from noDot] at split
      exact List.append_right_eq_self.mp split
    rw [fraction, nothing]
    exact nofun
  · exact (digits_iff.mp both.1).2

theorem padded_eq (fits : (fraction text).length ≤ places) :
    padded text places = fraction text ++ List.replicate (places - (fraction text).length) '0' := by
  rw [padded, List.take_append, List.take_of_length_le fits, List.take_replicate,
    Nat.min_eq_left (Nat.sub_le _ _)]

theorem padded_digits (h : isDecimal text = true) (fits : (fraction text).length ≤ places) :
    ∀ c ∈ padded text places, c.isDigit = true := by
  intro c member
  rw [padded_eq fits] at member
  rcases List.mem_append.mp member with inFraction | zero
  · exact fraction_digits h c inFraction
  · rw [List.eq_of_mem_replicate zero]
    rfl

/-! ### Scaling -/

theorem ofDigitChars_replicate_zero (n init : Nat) :
    Nat.ofDigitChars 10 (List.replicate n '0') init = 10 ^ n * init := by
  induction n generalizing init with
  | zero => simp [Nat.ofDigitChars]
  | succ n ih =>
    rw [List.replicate_succ, Nat.ofDigitChars_cons, ih]
    simp only [Nat.sub_self, Nat.add_zero]
    ring

/-- Scaling by enough places gives the whole number that the digits spell. -/
theorem value_mul_pow (fits : (fraction text).length ≤ places) :
    value text * 10 ^ places =
      ((Nat.ofDigitChars 10 (whole text) 0 * 10 ^ places + Nat.ofDigitChars 10 (padded text places) 0 : Nat) :
        Rat) := by
  obtain ⟨more, rfl⟩ := Nat.exists_eq_add_of_le fits
  rw [padded_eq fits, Nat.ofDigitChars_append, ofDigitChars_replicate_zero, Nat.add_sub_cancel_left, value]
  push_cast
  rw [pow_add]
  field_simp

end Decimal

end VortexBackend
