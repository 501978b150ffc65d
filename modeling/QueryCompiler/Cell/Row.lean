import QueryCompiler.Cell.Decoder

/-!
# Rows
-/

namespace QueryCompiler.Cell

/-- What can go wrong with a database. -/
inductive DbError where
  | cancelled
  | columnOutOfRange (index size : Nat)
  | conversion (index : Nat) (expected found : String)
  | driver (message : String)
deriving DecidableEq, Inhabited

def DbError.message : DbError → String
  | .cancelled => "operation cancelled"
  | .columnOutOfRange index size => s!"column {index} out of range (row has {size} columns)"
  | .conversion index expected found => s!"column {index}: cannot read {found} as {expected}"
  | .driver message => "driver error: " ++ message

/-- The values of a row in the order of the select list. -/
structure Row where
  values : List Value
deriving DecidableEq, Inhabited

namespace Row

def size (r : Row) : Nat := r.values.length

def isEmpty (r : Row) : Bool := r.values.isEmpty

/-- Reads the column of that number, counted from zero. -/
def get {α : Type} (r : Row) (d : Decoder α) (index : Nat) : Except DbError α :=
  match r.values[index]? with
  | none => .error (.columnOutOfRange index r.size)
  | some v =>
    match d.decode v with
    | some a => .ok a
    | none => .error (.conversion index d.typeName v.kind)

end Row

/-- Rows that are handed out one after the other. -/
structure Cursor where
  rows : List Row
deriving DecidableEq, Inhabited

/-- The next row, if there is one, and the cursor behind it. -/
def Cursor.next (c : Cursor) : Option Row × Cursor := (c.rows.head?, ⟨c.rows.tail⟩)

end QueryCompiler.Cell
