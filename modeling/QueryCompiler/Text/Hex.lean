/-!
# Hexadecimal digits and code points
-/

namespace QueryCompiler.Text

/-- The value of a hexadecimal digit of either case. -/
def hexDigit? (c : Char) : Option Nat :=
  if '0' ≤ c ∧ c ≤ '9' then some (c.toNat - '0'.toNat)
  else if 'a' ≤ c ∧ c ≤ 'f' then some (c.toNat - 'a'.toNat + 10)
  else if 'A' ≤ c ∧ c ≤ 'F' then some (c.toNat - 'A'.toNat + 10)
  else none

def isScalar (n : Nat) : Bool := n < 0xd800 || (0xdfff < n && n < 0x110000)

end QueryCompiler.Text
