import QueryCompiler.Text.Hex

/-!
# Quoted literals: strings and characters

Every scanner here starts behind the opening quote and answers with the value read and the number
of characters it spans, closing quote included. An escape may span any number of characters; the
recursion walks over them one at a time, so that each scanner follows the text structurally.
-/

namespace QueryCompiler.Host.Quoted

open Text

/-- The alphabets of quoted literals, which differ in their escapes and in the characters that may
stand for themselves. -/
inductive Alphabet where
  | text
  | bytes
  | terminated
deriving DecidableEq

/-- Whether a character other than a quote or a backslash may stand for itself. -/
def Alphabet.admits : Alphabet → Char → Bool
  | .text, _ => true
  | .bytes, c => c.toNat < 128
  | .terminated, c => c != '\x00'

/-- A code point between braces: one to six hexadecimal digits, with underscores behind the first.
The scan starts behind the opening brace, with `count` digits of value `value` already read. -/
def codePoint (count value : Nat) : List Char → Option (Char × Nat)
  | [] => none
  | c :: rest =>
    if c = '}' then
      if 0 < count ∧ isScalar value then some (Char.ofNat value, 1) else none
    else if c = '_' ∧ 0 < count then
      (codePoint count value rest).map fun (v, n) => (v, n + 1)
    else
      match hexDigit? c with
      | some d =>
        -- Leading zeros count.
        if count = 6 then none
        else (codePoint (count + 1) (value * 16 + d) rest).map fun (v, n) => (v, n + 1)
      | none => none

/-- Two hexadecimal digits, whose value has to suit the alphabet. -/
def byteEscape (alphabet : Alphabet) : List Char → Option (Char × Nat)
  | a :: b :: _ =>
    match hexDigit? a, hexDigit? b with
    | some x, some y =>
      let n := x * 16 + y
      let suits := match alphabet with
        -- In text the escape stands for a character, and only ASCII has one number for both.
        | .text => decide (n < 128)
        | .bytes => true
        | .terminated => decide (n ≠ 0)
      if suits then some (Char.ofNat n, 2) else none
    | _, _ => none
  | _ => none

/-- The character that an escape denotes, and how many characters behind the backslash it spans. -/
def escapeAt (alphabet : Alphabet) : List Char → Option (Char × Nat)
  | [] => none
  | c :: rest =>
    if c = 'n' then some ('\n', 1)
    else if c = 'r' then some ('\r', 1)
    else if c = 't' then some ('\t', 1)
    else if c = '\\' ∨ c = '\'' ∨ c = '"' then some (c, 1)
    else if c = '0' then if alphabet = .terminated then none else some ('\x00', 1)
    else if c = 'x' then (byteEscape alphabet rest).map fun (v, n) => (v, n + 1)
    else if c = 'u' then
      match alphabet, rest with
      | .bytes, _ => none
      | _, '{' :: digits =>
        match codePoint 0 0 digits with
        | some (v, n) => if alphabet.admits v then some (v, n + 2) else none
        | none => none
      | _, _ => none
    else none

/-- How many blanks follow the end of a line that a backslash continues. A carriage return counts
only before a line feed, and something has to follow the blanks. -/
def continuation (afterReturn : Bool) : List Char → Option Nat
  | [] => none
  | c :: rest =>
    if afterReturn then
      if c = '\n' then (continuation false rest).map (· + 1) else none
    -- Empty lines are continued as well.
    else if c = ' ' ∨ c = '\t' ∨ c = '\n' then (continuation false rest).map (· + 1)
    else if c = '\r' then (continuation true rest).map (· + 1)
    else some 0

/-- Puts `value` in front of what the rest of the literal reads as, one character further on. -/
def grow (value : List Char) (rest : Option (List Char × Nat)) : Option (List Char × Nat) :=
  rest.map fun (v, n) => (value ++ v, n + 1)

/-- A literal with escapes. The first `skip` characters belong to an escape already read. A line
break written as carriage return and line feed reads as a line feed. -/
def cooked (alphabet : Alphabet) : (skip : Nat) → List Char → Option (List Char × Nat)
  | _, [] => none
  | skip + 1, _ :: rest => grow [] (cooked alphabet skip rest)
  | 0, c :: rest =>
    if c = '"' then some ([], 1)
    else if c = '\\' then
      match rest with
      | '\n' :: more =>
        match continuation false more with
        | some n => grow [] (cooked alphabet (n + 1) rest)
        | none => none
      | '\r' :: more =>
        match continuation true more with
        | some n => grow [] (cooked alphabet (n + 1) rest)
        | none => none
      | _ =>
        match escapeAt alphabet rest with
        | some (v, n) => grow [v] (cooked alphabet n rest)
        | none => none
    else if c = '\r' then
      -- A return by itself may not stand in a literal.
      if rest.head? = some '\n' then grow ['\n'] (cooked alphabet 1 rest) else none
    else if alphabet.admits c then grow [c] (cooked alphabet 0 rest)
    else none

/-- A literal without escapes, closed by a quote and `hashes` number signs. -/
def raw (alphabet : Alphabet) (hashes : Nat) : List Char → Option (List Char × Nat)
  | [] => none
  | c :: rest =>
    if c = '"' ∧ rest.take hashes = List.replicate hashes '#' then some ([], hashes + 1)
    else if c = '\r' ∧ rest.head? ≠ some '\n' then none
    else if alphabet.admits c then grow [c] (raw alphabet hashes rest)
    else none

/-- A single character or escape and the closing quote. -/
def single (alphabet : Alphabet) : List Char → Option (Char × Nat)
  | [] => none
  | c :: rest =>
    if c = '\\' then
      match escapeAt alphabet rest with
      | some (v, n) => if (rest.drop n).head? = some '\'' then some (v, n + 2) else none
      | none => none
    else if alphabet.admits c ∧ rest.head? = some '\'' then some (c, 2)
    else none

end QueryCompiler.Host.Quoted
