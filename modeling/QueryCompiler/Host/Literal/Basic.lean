/-!
# Literals of the host language
-/

namespace QueryCompiler.Host

/-- The value a literal denotes. Numbers keep their digits, because no machine type bounds them. -/
inductive Literal where
  | str (value : String)
  | char (value : Char)
  | bool (value : Bool)
  /-- A whole number in decimal, and the type suffix that followed it. -/
  | int (digits suffix : String)
  /-- A fractional number as written, without separators, and its type suffix. -/
  | float (digits suffix : String)
  /-- Bytes and byte strings, whose value nothing here asks for. -/
  | other
deriving DecidableEq, Inhabited

namespace Literal

def isNumber : Literal → Bool
  | .int .. | .float .. => true
  | _ => false

end Literal

end QueryCompiler.Host
