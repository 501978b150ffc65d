import QueryCompiler.Host.Literal.Number

/-!
# The literal at the head of a text
-/

namespace QueryCompiler.Host.Literal

open Quoted Number

/-- The number of signs `#` at the head of a text that a quote follows. -/
def rawFence? (cs : List Char) : Option Nat :=
  let hashes := (cs.takeWhile (· == '#')).length
  if hashes ≤ 255 ∧ (cs.drop hashes).head? = some '"' then some hashes else none

/-- A literal that spans `size` characters of `cs`, together with the suffix behind it. -/
def closing (cs : List Char) (value : Literal) (size : Nat) : Literal × Nat :=
  (value, size + identSize (cs.drop size))

/-- A string with escapes whose opening quote stands behind the first `lead` characters. -/
def cookedAt (alphabet : Alphabet) (lead : Nat) (cs : List Char)
    (make : List Char → Literal) : Option (Literal × Nat) :=
  if (cs.drop lead).head? = some '"' then
    (cooked alphabet 0 (cs.drop (lead + 1))).map fun (v, n) => closing cs (make v) (lead + 1 + n)
  else none

/-- A string without escapes whose fence stands behind the first `lead` characters. -/
def rawAt (alphabet : Alphabet) (lead : Nat) (cs : List Char)
    (make : List Char → Literal) : Option (Literal × Nat) :=
  match rawFence? (cs.drop lead) with
  | some hashes =>
    (raw alphabet hashes (cs.drop (lead + hashes + 1))).map fun (v, n) =>
      closing cs (make v) (lead + hashes + 1 + n)
  | none => none

/-- A number: a fractional one where the text allows it, else a whole one. -/
def numberAt (cs : List Char) : Option (Literal × Nat) :=
  match fractionSize? cs <|> wholeSize? cs with
  -- What spans a number but denotes none is still one token.
  | some n => some ((ofNumeral? false (cs.take n)).getD .other, n)
  | none => none

/-- The literal at the head of a text, and how many characters it spans with its suffix. -/
def scan? (cs : List Char) : Option (Literal × Nat) :=
  let text := fun v => Literal.str (String.ofList v)
  let bytes := fun _ => Literal.other
  match cs with
  | '"' :: _ => cookedAt .text 0 cs text
  | '\'' :: rest => (single .text rest).map fun (v, n) => closing cs (.char v) (n + 1)
  | 'r' :: _ => rawAt .text 1 cs text
  | 'b' :: '\'' :: rest => (single .bytes rest).map fun (_, n) => closing cs .other (n + 2)
  | 'b' :: 'r' :: _ => rawAt .bytes 2 cs bytes
  | 'b' :: _ => cookedAt .bytes 1 cs bytes
  | 'c' :: 'r' :: _ => rawAt .terminated 2 cs bytes
  | 'c' :: _ => cookedAt .terminated 1 cs bytes
  | _ => numberAt cs

end QueryCompiler.Host.Literal
