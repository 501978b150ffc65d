import QueryCompiler.Cell.Value
import QueryCompiler.Text.Decimal

/-!
# Reading values

A decoder reads a value as the type of a field. Integers may also come as decimal text, and any
number as a truth value.
-/

namespace QueryCompiler.Cell

open Text

/-- The integer types of fields. -/
inductive IntType where
  | i8 | i16 | i32 | i64 | i128 | isize
  | u8 | u16 | u32 | u64 | u128 | usize
deriving DecidableEq, Inhabited

namespace IntType

def all : List IntType :=
  [.i8, .i16, .i32, .i64, .i128, .isize, .u8, .u16, .u32, .u64, .u128, .usize]

def name : IntType → String
  | .i8 => "i8"
  | .i16 => "i16"
  | .i32 => "i32"
  | .i64 => "i64"
  | .i128 => "i128"
  | .isize => "isize"
  | .u8 => "u8"
  | .u16 => "u16"
  | .u32 => "u32"
  | .u64 => "u64"
  | .u128 => "u128"
  | .usize => "usize"

def signed : IntType → Bool
  | .i8 | .i16 | .i32 | .i64 | .i128 | .isize => true
  | _ => false

/-- The number of bits; a machine word has 64. -/
def bits : IntType → Nat
  | .i8 | .u8 => 8
  | .i16 | .u16 => 16
  | .i32 | .u32 => 32
  | .i64 | .u64 | .isize | .usize => 64
  | .i128 | .u128 => 128

def min (t : IntType) : Int := if t.signed then -pow2 (t.bits - 1) else 0

def max (t : IntType) : Int := if t.signed then pow2 (t.bits - 1) - 1 else pow2 t.bits - 1

/-- The integer, if it is in the range of the type. -/
def fit? (t : IntType) (v : Int) : Option Int := if t.min ≤ v ∧ v ≤ t.max then some v else none

/-- The integer that a numeral denotes: digits behind a plus sign, or a minus sign if the type has
negative numbers. -/
def numeral? (t : IntType) : List Char → Option Int
  | '+' :: rest => (natOfDigits? rest).map Int.ofNat
  | '-' :: rest => if t.signed then (natOfDigits? rest).map fun n : Nat => -(n : Int) else none
  | cs => (natOfDigits? cs).map Int.ofNat

end IntType

/-- Reads values as the type of a field; messages show the name of the type. -/
structure Decoder (α : Type) where
  typeName : String
  decode : Value → Option α

namespace Decoder

def int (t : IntType) : Decoder Int where
  typeName := t.name
  decode
    | .int v => t.fit? v.toInt
    | .uint v => t.fit? v.toNat
    | .text s => (t.numeral? s.toList).bind t.fit?
    | _ => none

def bool : Decoder Bool where
  typeName := "bool"
  decode
    | .bool b => some b
    | .int v => some (v != 0)
    | .uint v => some (v != 0)
    | _ => none

def double : Decoder Double where
  typeName := "f64"
  decode
    | .float x => some x
    -- Rounded if the number has more digits than fit.
    | .int v => some (.ofInt v.toInt)
    | .uint v => some (.ofInt v.toNat)
    | _ => none

/-- Reads a number of 64 bits first, so an integer is rounded twice. -/
def single : Decoder Single where
  typeName := "f32"
  decode v := (double.decode v).map (·.narrow)

def text : Decoder String where
  typeName := "String"
  decode
    | .text s => some s
    | _ => none

/-- Text is read as the bytes of its encoding. -/
def bytes : Decoder (List UInt8) where
  typeName := "Vec<u8>"
  decode
    | .bytes bs => some bs
    | .text s => some s.toUTF8.toList
    | _ => none

/-- Reads null as an absent value. -/
def optional {α : Type} (d : Decoder α) : Decoder (Option α) where
  typeName := d.typeName
  decode
    | .null => some none
    | v => (d.decode v).map some

end Decoder

end QueryCompiler.Cell
