import QueryCompiler.Text.IdentStart
import QueryCompiler.Text.IdentContinue
import QueryCompiler.Text.Alphanumeric
import QueryCompiler.Text.Word
import QueryCompiler.Text.Lowercase

/-!
# Character classes

Each class is decided by a short test on ASCII and by a table beyond it, so that the tables are
consulted only for the characters that need them.
-/

namespace QueryCompiler.Text

def isAscii (c : Char) : Bool := c.toNat < 128

/-- An ASCII digit, letter of either case, or one of the class's characters beyond ASCII. -/
def isAlphanumeric (c : Char) : Bool :=
  if isAscii c then c.isAlphanum else alphanumericRanges.contains c

def isLowercase (c : Char) : Bool :=
  if isAscii c then c.isLower else lowercaseRanges.contains c

/-- Characters of a word: letters, marks, digits and connectors such as `_`. -/
def isWord (c : Char) : Bool :=
  if isAscii c then c.isAlphanum || c == '_' else wordRanges.contains c

def isIdentStart (c : Char) : Bool :=
  if isAscii c then c.isAlpha || c == '_' else identStartRanges.contains c

def isIdentContinue (c : Char) : Bool :=
  if isAscii c then c.isAlphanum || c == '_' else identContinueRanges.contains c

/-- The Unicode property White_Space. -/
def isBlank (c : Char) : Bool :=
  let n := c.toNat
  (9 ≤ n && n ≤ 13) || n == 0x20 || n == 0x85 || n == 0xa0 || n == 0x1680 ||
    -- U+180E and the zero width blanks do not have the property.
    (0x2000 ≤ n && n ≤ 0x200a) || n == 0x2028 || n == 0x2029 || n == 0x202f || n == 0x205f ||
    n == 0x3000

/-- The lower-case form of an ASCII letter; any other character is left alone. -/
def asciiLower (c : Char) : Char := c.toLower

/-- The upper-case form of an ASCII letter; any other character is left alone. -/
def asciiUpper (c : Char) : Char := c.toUpper

end QueryCompiler.Text
