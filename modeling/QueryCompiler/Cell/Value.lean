import QueryCompiler.Cell.Binary

/-!
# Values in the database

What is bound to a statement, and what a column of a row holds.
-/

namespace QueryCompiler.Cell

/-- A value as the database takes and gives it. -/
inductive Value where
  | null
  | bool (b : Bool)
  | int (v : Int64)
  | uint (v : UInt64)
  | float (x : Double)
  | text (s : String)
  | bytes (bs : List UInt8)
deriving DecidableEq, Inhabited

namespace Value

/-- The word for such values in messages. -/
def kind : Value → String
  | .null => "null"
  | .bool _ => "bool"
  | .int _ | .uint _ => "int"
  | .float _ => "float"
  | .text _ => "text"
  | .bytes _ => "bytes"

def isNull : Value → Bool
  | .null => true
  | _ => false

/-- An integer of any size. Those that no word of 64 bits holds travel as decimal text. -/
def ofInt (v : Int) : Value :=
  if Int64.minValue.toInt ≤ v ∧ v ≤ Int64.maxValue.toInt then .int (.ofInt v)
  -- Unsigned only beyond the signed numbers, so that a number has one form.
  else if 0 ≤ v ∧ v < UInt64.size then .uint (.ofNat v.toNat)
  else .text (toString v)

def ofSingle (x : Single) : Value := .float x.widen

/-- An absent value is null. -/
def ofOption {α : Type} (of : α → Value) : Option α → Value
  | none => .null
  | some a => of a

end Value

end QueryCompiler.Cell
