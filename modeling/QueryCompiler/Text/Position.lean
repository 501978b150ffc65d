/-!
# Places in a source text
-/

namespace QueryCompiler.Text

/-- A place in a text: both numbers start at one, and a column counts characters. -/
structure Pos where
  line : Nat
  column : Nat
deriving DecidableEq, Inhabited

namespace Pos

def start : Pos := ⟨1, 1⟩

/-- The place behind `c` when `c` stands at `p`; only a line feed opens a new line. -/
def after (p : Pos) (c : Char) : Pos :=
  if c = '\n' then ⟨p.line + 1, 1⟩ else ⟨p.line, p.column + 1⟩

/-- The place behind a run of characters that starts at `p`. -/
def afterAll (p : Pos) (cs : List Char) : Pos := cs.foldl after p

/-- `line:column`, as messages show a place. -/
def render (p : Pos) : String := s!"{p.line}:{p.column}"

end Pos

/-- A piece of source text, word for word, with the place where it starts. -/
structure Excerpt where
  pos : Pos
  text : String
deriving DecidableEq, Inhabited

end QueryCompiler.Text
