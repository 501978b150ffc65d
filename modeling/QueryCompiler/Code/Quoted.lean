/-!
# String literals in generated code
-/

namespace QueryCompiler.Code

/-- One character inside a string literal. Line breaks are escaped, so a literal stays on its
line. -/
def escapeChar : Char → List Char
  | '\\' => ['\\', '\\']
  | '"' => ['\\', '"']
  | '\n' => ['\\', 'n']
  | '\r' => ['\\', 'r']
  | '\t' => ['\\', 't']
  | '\x00' => ['\\', '0']
  | c => [c]

/-- A text as it stands inside a string literal. -/
def escape (s : String) : String := String.ofList (s.toList.flatMap escapeChar)

/-- The string literal that denotes a text. -/
def quote (s : String) : String := "\"" ++ escape s ++ "\""

end QueryCompiler.Code
