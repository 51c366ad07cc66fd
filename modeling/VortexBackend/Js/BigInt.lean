/-
Module: VortexBackend.Js.BigInt
Purpose: Amounts as `BigInt(text)` parses them. What is printed parses back.
Main exports: parse, parse_toText
-/
import Mathlib.Data.Nat.Digits.Defs

namespace VortexBackend

namespace BigInt

/-- White space and line terminators. -/
def isSpace (c : Char) : Bool :=
  [0x9, 0xA, 0xB, 0xC, 0xD, 0x20, 0xA0, 0x1680, 0x2028, 0x2029, 0x202F, 0x205F, 0x3000, 0xFEFF].contains
      c.toNat ||
    (0x2000 ≤ c.toNat && c.toNat ≤ 0x200A)

/-- `text.trim()`, on the characters. -/
def trim (text : List Char) : List Char :=
  ((text.dropWhile isSpace).reverse.dropWhile isSpace).reverse

/-- Decimal digits, at least one. -/
def decimal (digits : List Char) : Option Nat :=
  if digits ≠ [] ∧ digits.all Char.isDigit then some (Nat.ofDigitChars 10 digits 0) else none

/-- The value of a digit in a radix up to sixteen. -/
def digitValue (radix : Nat) (c : Char) : Option Nat :=
  let value :=
    if c.isDigit then c.toNat - '0'.toNat
    else if 'a' ≤ c ∧ c ≤ 'f' then c.toNat - 'a'.toNat + 10
    else if 'A' ≤ c ∧ c ≤ 'F' then c.toNat - 'A'.toNat + 10
    else radix
  if value < radix then some value else none

/-- Digits of another radix, at least one. -/
def inRadix (radix : Nat) (digits : List Char) : Option Nat :=
  if digits = [] then none
  else digits.foldlM (fun value c => (digitValue radix c).map (radix * value + ·)) 0

/-- The literal inside the white space. -/
def literal : List Char → Option Int
  | [] => some 0
  | '0' :: 'x' :: digits | '0' :: 'X' :: digits => (inRadix 16 digits).map Int.ofNat
  | '0' :: 'o' :: digits | '0' :: 'O' :: digits => (inRadix 8 digits).map Int.ofNat
  | '0' :: 'b' :: digits | '0' :: 'B' :: digits => (inRadix 2 digits).map Int.ofNat
  | '-' :: digits => (decimal digits).map fun n => -(n : Int)
  | '+' :: digits => (decimal digits).map Int.ofNat
  | digits => (decimal digits).map Int.ofNat

/-- `BigInt(text)`; `none` is a `SyntaxError`. -/
def parse (text : String) : Option Int := literal (trim text.toList)

/-- `n.toString()` -/
def toText (n : Int) : String := n.repr

/-! ### Printing and parsing -/

variable {digits : List Char}

theorem dropWhile_isSpace (h : ∀ c ∈ digits, isSpace c = false) : digits.dropWhile isSpace = digits := by
  cases digits with
  | nil => rfl
  | cons c rest => rw [List.dropWhile_cons, h c (.head _), if_neg Bool.false_ne_true]

theorem trim_eq (h : ∀ c ∈ digits, isSpace c = false) : trim digits = digits := by
  have reversed : ∀ c ∈ digits.reverse, isSpace c = false :=
    fun c hc => h c (List.mem_reverse.mp hc)
  rw [trim, dropWhile_isSpace h, dropWhile_isSpace reversed, List.reverse_reverse]

theorem isSpace_of_isDigit {c} (h : c.isDigit = true) : isSpace c = false := by
  have range : 48 ≤ c.toNat ∧ c.toNat ≤ 57 := by
    simpa [Char.isDigit, UInt32.le_iff_toNat_le] using h
  obtain ⟨low, high⟩ := range
  unfold isSpace
  simp only [List.contains_eq_mem, Bool.or_eq_false_iff, decide_eq_false_iff_not, List.mem_cons,
    List.not_mem_nil, Bool.and_eq_false_iff, or_false, not_or]
  refine ⟨⟨?_, ?_, ?_, ?_, ?_, ?_, ?_, ?_, ?_, ?_, ?_, ?_, ?_, ?_⟩, .inl ?_⟩ <;> omega

theorem literal_of_digits (nonempty : digits ≠ []) (h : ∀ c ∈ digits, c.isDigit = true) :
    literal digits = (decimal digits).map Int.ofNat := by
  have second :
    ∀ c ∈ digits, c ≠ 'x' ∧ c ≠ 'X' ∧ c ≠ 'o' ∧ c ≠ 'O' ∧ c ≠ 'b' ∧ c ≠ 'B' ∧ c ≠ '-' ∧
      c ≠ '+' := by
    intro c hc
    have digit := h c hc
    refine ⟨?_, ?_, ?_, ?_, ?_, ?_, ?_, ?_⟩ <;> rintro rfl <;> exact absurd digit (by decide)
  unfold literal
  split <;> simp_all

theorem parse_digits (nonempty : digits ≠ []) (h : ∀ c ∈ digits, c.isDigit = true) :
    parse (String.ofList digits) = some (Nat.ofDigitChars 10 digits 0 : Int) := by
  have all : digits.all Char.isDigit = true := List.all_eq_true.mpr h
  rw [parse, String.toList_ofList, trim_eq fun c hc => isSpace_of_isDigit (h c hc), literal_of_digits nonempty h,
    decimal, if_pos ⟨nonempty, all⟩]
  rfl

/-- What is printed parses back. -/
theorem parse_toText (n : Nat) : parse (toText n) = some (n : Int) := by
  have digits : ∀ c ∈ Nat.toDigits 10 n, c.isDigit = true :=
    fun c hc => Nat.isDigit_of_mem_toDigits (by decide) (by decide) hc
  have text : toText n = String.ofList (Nat.toDigits 10 n) :=
    String.toList_injective ((Nat.toList_repr (n := n)).trans String.toList_ofList.symm)
  rw [text, parse_digits Nat.toDigits_ne_nil digits, Nat.ofDigitChars_toDigits (by decide) (by decide)]

theorem parse_toText_int (n : Int) : parse (toText n) = some n := by
  cases n with
  | ofNat n => exact parse_toText n
  | negSucc n =>
    have digits : ∀ c ∈ Nat.toDigits 10 (n + 1), c.isDigit = true :=
      fun c hc => Nat.isDigit_of_mem_toDigits (by decide) (by decide) hc
    have text : (toText (Int.negSucc n)).toList = '-' :: Nat.toDigits 10 (n + 1) := by
      simp [toText, Int.repr, Nat.toList_repr]
    have noSpace : ∀ c ∈ '-' :: Nat.toDigits 10 (n + 1), isSpace c = false := by
      intro c member
      rcases List.mem_cons.mp member with rfl | digit
      · decide
      · exact isSpace_of_isDigit (digits c digit)
    rw [parse, text, trim_eq noSpace, literal, decimal, if_pos ⟨Nat.toDigits_ne_nil, List.all_eq_true.mpr digits⟩,
      Nat.ofDigitChars_toDigits (by decide) (by decide)]
    rfl

example : (parse " 42\n", parse "", parse "0x1F", parse "-7", parse "1e3") =
    (some 42, some 0, some 31, some (-7), none) := by decide

end BigInt

end VortexBackend
