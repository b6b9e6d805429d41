/-!
# Numeral — unsigned decimal numbers in text

A numeral is one or more ASCII digits, with at most one `+` before them. Leading
zeros are allowed and there is no bound on the length; a reader with a limit refuses
the values above it.
-/

namespace Switchboard.Numeral

/-- Reads decimal digits, of which there must be some. -/
def ofDigits? (s : List Char) : Option Nat :=
  if s ≠ [] ∧ s.all Char.isDigit then some (Nat.ofDigitChars 10 s 0) else none

/-- Reads a number that may have a plus sign. -/
def read? : List Char → Option Nat
  | '+' :: s => ofDigits? s
  | s => ofDigits? s

/-- The value of a numeral that is not above `limit`. -/
def readUpTo? (limit : Nat) (s : List Char) : Option Nat :=
  (read? s).filter (· ≤ limit)

def max16 : Nat := 0xFFFF

def max64 : Nat := 0xFFFFFFFFFFFFFFFF

/-- A number in decimal, without leading zeros. -/
def digits (n : Nat) : String := String.ofList (Nat.toDigits 10 n)

/-- What is written as digits reads back. -/
theorem read?_digits (n : Nat) : read? (digits n).toList = some n := by
  have hall : (Nat.toDigits 10 n).all Char.isDigit = true := by
    rw [List.all_eq_true]
    intro c hc
    exact Nat.isDigit_of_mem_toDigits (by decide) (by decide) hc
  have hof : ofDigits? (Nat.toDigits 10 n) = some n := by
    simp [ofDigits?, hall, Nat.toDigits_ne_nil]
  simp only [digits, String.toList_ofList]
  unfold read?
  split
  · next s heq =>
    rw [heq] at hall
    simp at hall
  · exact hof

end Switchboard.Numeral
