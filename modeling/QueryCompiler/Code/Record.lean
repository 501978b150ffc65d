import QueryCompiler.Code.Writer
import QueryCompiler.Schema.Table
import QueryCompiler.Text.Split

/-!
# Records

The record type of a table, with the tags of its fields as documentation.
-/

namespace QueryCompiler.Code

open Schema Text

/-- What every record derives. -/
def baseDerives : List String := ["Debug", "Clone", "Default"]

/-- Adds a path to a list, unless one with the same last segment is there. -/
def addDerive (derives : List String) (path : String) : List String :=
  if derives.any fun d => lastSegment d == lastSegment path then derives else derives ++ [path]

/-- What the record of a table derives. -/
def deriveList (t : Table) : List String := t.derives.foldl addDerive baseDerives

/-- The visibility to write; what was declared private becomes public. -/
def visibilityText (declared : String) : String := if declared.isEmpty then "pub" else declared

/-- The line that shows the tag of a field. -/
def tagLine (tag : String) : Line := .text ("/// sql: " ++ tag)

def fieldLines (c : Column) : List Line :=
  docs c.docs ++ c.tag.toList.map tagLine ++ c.attributes.map .text ++
    [.text s!"{visibilityText c.visibility} {c.name}: {c.type},"]

def recordLines (t : Table) : List Line :=
  docs t.docs ++ [.text s!"#[derive({commas (deriveList t)})]"] ++
    t.attributes.map .text ++ [.opening s!"{visibilityText t.visibility} struct {t.name} \x7b"] ++
    t.columns.flatMap fieldLines ++ [.closing "\x7d"]

end QueryCompiler.Code
