/-!
# Decimal numerals

Integers are unbounded and are written in decimal : a minus sign before a negative one,
no leading zero, and `0` for zero. A run of digits is read as the natural number it
denotes.
-/

namespace Reckoner.Numeral

/-- The natural number that a run of decimal digits denotes. -/
def value (digits : List Char) : Nat :=
  Nat.ofDigitChars 10 digits 0

/-- A natural number in decimal. -/
def natText (n : Nat) : String :=
  String.ofList (Nat.toDigits 10 n)

/-- An integer in decimal. -/
def text : Int → String
  | .ofNat n => natText n
  | .negSucc n => "-" ++ natText (n + 1)

/-- Reading the digits of a number gives the number back. -/
@[simp]
theorem value_toDigits (n : Nat) : value (Nat.toDigits 10 n) = n :=
  Nat.ofDigitChars_toDigits (by decide) (by decide)

end Reckoner.Numeral
