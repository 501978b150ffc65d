/-!
# Indented text

Code is a list of lines, some of which open or close a block. A writer puts the indentation of the
block before each of them; a blank line gets none.
-/

namespace QueryCompiler.Code

/-- How a level of indentation is written. -/
inductive Indent where
  | tabs
  | spaces (n : Nat)
deriving DecidableEq, Inhabited

namespace Indent

def unit : Indent → String
  | .tabs => "\t"
  | .spaces n => String.ofList (List.replicate n ' ')

def standard : Indent := .spaces 4

end Indent

/-- A line of code. -/
inductive Line where
  | text (s : String)
  | blank
  /-- A line behind which a block begins. -/
  | opening (s : String)
  /-- A line before which a block ends. -/
  | closing (s : String)
deriving DecidableEq, Inhabited

/-- What has been written, and how the next line is indented. -/
structure Writer where
  text : String
  /-- One level of indentation. -/
  unit : String
  level : Nat
  atLineStart : Bool
deriving DecidableEq, Inhabited

namespace Writer

/-- A writer that has written nothing. -/
def ofIndent (i : Indent) : Writer := ⟨"", i.unit, 0, true⟩

def indent (w : Writer) : Writer := { w with level := w.level + 1 }

/-- Outside of all blocks this changes nothing. -/
def dedent (w : Writer) : Writer := { w with level := w.level - 1 }

/-- The indentation of the current level. -/
def margin (w : Writer) : String := String.join (List.replicate w.level w.unit)

/-- Writes the indentation that is due. -/
def begin (w : Writer) : Writer :=
  if w.atLineStart && 0 < w.level then
    { w with text := w.text ++ w.margin, atLineStart := false }
  else w

/-- Writes text and ends the line. -/
def line (w : Writer) (s : String) : Writer :=
  { w.begin with text := w.begin.text ++ s ++ "\n", atLineStart := true }

/-- Writes text without ending the line. -/
def inline (w : Writer) (s : String) : Writer :=
  { w.begin with text := w.begin.text ++ s, atLineStart := false }

def blank (w : Writer) : Writer := { w with text := w.text ++ "\n", atLineStart := true }

/-- Writes a line of code. -/
def write (w : Writer) : Line → Writer
  | .text s => w.line s
  | .blank => w.blank
  | .opening s => (w.line s).indent
  -- The closing line stands on the level of the line that opened the block.
  | .closing s => w.dedent.line s

def writeAll (w : Writer) (lines : List Line) : Writer := lines.foldl write w

end Writer

def commas (texts : List String) : String := String.intercalate ", " texts

def docLine (s : String) : Line := .text (if s.isEmpty then "///" else "/// " ++ s)

def docs (lines : List String) : List Line := lines.map docLine

end QueryCompiler.Code
