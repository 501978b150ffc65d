/-!
# Decimal numerals
-/

namespace QueryCompiler.Text

/-- The value of a run of decimal digits, continued from `n`; nothing if another character
occurs. -/
def digitsFrom? (n : Nat) : List Char → Option Nat
  | [] => some n
  | c :: rest => if c.isDigit then digitsFrom? (10 * n + (c.toNat - '0'.toNat)) rest else none

/-- The value of a decimal numeral: one digit or more, and nothing else. -/
def natOfDigits? : List Char → Option Nat
  | [] => none
  | cs => digitsFrom? 0 cs

end QueryCompiler.Text
