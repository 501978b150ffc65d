import QueryCompiler.Host.Literal.Basic
import QueryCompiler.Host.Literal.Quoted
import QueryCompiler.Text.Class

/-!
# Numeric literals

`wholeSize?` and `fractionSize?` say how many characters a number spans at the head of a text, type
suffix included. `ofNumeral?` reads the value of a text that is one number.
-/

namespace QueryCompiler.Host.Number

open Text

/-- How many characters the identifier at the head of a text spans; zero where there is none. -/
def identSize : List Char → Nat
  | [] => 0
  | c :: rest => if isIdentStart c then (rest.takeWhile isIdentContinue).length + 1 else 0

/-- Whether a text is empty or one identifier. -/
def isSuffix (cs : List Char) : Bool := identSize cs == cs.length

/-- A number of `size` characters together with the identifier behind it. What follows must not
continue a word. -/
def withSuffix? (cs : List Char) (size : Nat) : Option Nat :=
  let total := size + identSize (cs.drop size)
  match (cs.drop total).head? with
  | some c => if isIdentContinue c then none else some total
  | none => some total

/-! ### Where a number ends -/

/-- A digit, or the underscore that may separate digits. -/
def isDigitOrSeparator (c : Char) : Bool := c.isDigit || c == '_'

/-- How many characters an exponent spans behind its mark: one sign at most, and no sign behind a
digit. Nothing is read where no digit occurs. -/
def exponentSize? (signed valued : Bool) : List Char → Option Nat
  | [] => if valued then some 0 else none
  | c :: rest =>
    if c = '+' ∨ c = '-' then
      -- Behind a digit a sign is an operator.
      if valued then some 0
      -- Two signs without a digit are no exponent.
      else if signed then none
      else (exponentSize? true valued rest).map (· + 1)
    else if c.isDigit then (exponentSize? signed true rest).map (· + 1)
    else if c = '_' then (exponentSize? signed valued rest).map (· + 1)
    else if valued then some 0
    else none

/-- Whether the character behind a point makes it something other than a decimal point. -/
def endsAtPoint : List Char → Bool
  | [] => false
  | c :: _ => c == '.' || isIdentStart c

/-- The digits of a fractional number: a point, an exponent, or both. Where a point stands and the
exponent has no digits, the number ends before the mark of the exponent. -/
def fractionDigits? : List Char → Option Nat
  | [] => none
  | c :: rest =>
    if !c.isDigit then none
    else
      let lead := (rest.takeWhile isDigitOrSeparator).length + 1
      match (c :: rest).drop lead with
      | '.' :: more =>
        -- `1..2` is a range and `1.max(2)` a call.
        if endsAtPoint more then none
        else
          let size := lead + 1 + (more.takeWhile isDigitOrSeparator).length
          match more.dropWhile isDigitOrSeparator with
          | mark :: tail =>
            if mark = 'e' ∨ mark = 'E' then
              match exponentSize? false false tail with
              | some n => some (size + 1 + n)
              -- The mark begins a suffix.
              | none => some size
            else some size
          | [] => some size
      | mark :: tail =>
        if mark = 'e' ∨ mark = 'E' then
          (exponentSize? false false tail).map (lead + 1 + ·)
        else none
      | [] => none

/-- How many characters the fractional number at the head of a text spans. -/
def fractionSize? (cs : List Char) : Option Nat :=
  match fractionDigits? cs with
  | some n => withSuffix? cs n
  | none => none

/-- The base a numeral announces, and the digits behind the announcement. -/
def splitBase : List Char → Nat × List Char
  | '0' :: 'x' :: rest => (16, rest)
  | '0' :: 'o' :: rest => (8, rest)
  | '0' :: 'b' :: rest => (2, rest)
  | cs => (10, cs)

/-- How many characters the digits of a whole number span. A decimal digit too large for the base is
an error, a letter too large for it begins the suffix. -/
def wholeDigits? (base : Nat) (valued : Bool) : List Char → Option Nat
  | [] => if valued then some 0 else none
  | c :: rest =>
    if c.isDigit then
      -- A decimal digit never begins a suffix.
      if c.toNat - '0'.toNat < base then (wholeDigits? base true rest).map (· + 1) else none
    else if c = '_' then
      -- `0x_1` is a number, `_1` a name.
      if !valued && base == 10 then none else (wholeDigits? base valued rest).map (· + 1)
    else
      match Text.hexDigit? c with
      | some d =>
        if d < base then (wholeDigits? base true rest).map (· + 1)
        else if valued then some 0
        else none
      | none => if valued then some 0 else none

/-- How many characters the whole number at the head of a text spans. -/
def wholeSize? (cs : List Char) : Option Nat :=
  let (base, digits) := splitBase cs
  match wholeDigits? base false digits with
  | some n => withSuffix? cs (if base = 10 then n else n + 2)
  | none => none

/-! ### What a number denotes -/

/-- Whether the text behind an `e` makes it the mark of an exponent rather than a suffix. -/
def isExponent (valued : Bool) : List Char → Bool
  | [] => valued
  | c :: rest =>
    if c = '_' then isExponent valued rest
    else if c = '+' ∨ c = '-' then true
    else if c.isDigit then isExponent true rest
    else valued && isSuffix (c :: rest)

/-- The value of a whole number, and the suffix behind its digits. -/
def whole? (base value : Nat) (valued : Bool) : List Char → Option (Nat × List Char)
  | [] => if valued then some (value, []) else none
  | c :: rest =>
    let digit? := if c.isDigit || 10 < base then Text.hexDigit? c else none
    match digit? with
    | some d => if d < base then whole? base (value * base + d) true rest else none
    | none =>
      if c = '_' then whole? base value valued rest
      -- A point or an exponent makes it a fractional number.
      else if base = 10 ∧ c = '.' then none
      else if base = 10 ∧ (c = 'e' ∨ c = 'E') ∧ isExponent false rest then none
      else if valued ∧ isSuffix (c :: rest) then some (value, c :: rest)
      else none

/-- What has been read of a fractional number. -/
structure FractionState where
  point : Bool := false
  exponent : Bool := false
  sign : Bool := false
  power : Bool := false

/-- The end of a fractional number before the suffix `rest`. -/
def FractionState.finish (s : FractionState) (rest : List Char) : Option (List Char × List Char) :=
  if (s.exponent && !s.power) || !isSuffix rest then none else some ([], rest)

/-- Puts a character in front of the digits read. -/
def pushDigit (c : Char) (r : Option (List Char × List Char)) : Option (List Char × List Char) :=
  r.map fun (digits, suffix) => (c :: digits, suffix)

/-- The digits of a fractional number without separators and plus signs, its exponent marked by `e`,
and the suffix behind them. -/
def fraction? (s : FractionState) : List Char → Option (List Char × List Char)
  | [] => s.finish []
  | c :: rest =>
    if c = '_' then fraction? s rest
    else if c.isDigit then pushDigit c (fraction? { s with power := s.power || s.exponent } rest)
    else if c = '.' then
      if s.exponent || s.point then none
      else pushDigit '.' (fraction? { s with point := true } rest)
    else if c = 'e' ∨ c = 'E' then
      match (rest.dropWhile (· == '_')).head? with
      | some d =>
        if d = '+' ∨ d = '-' ∨ d.isDigit then
          if s.exponent then
            -- A second exponent can only be a suffix.
            if s.power then s.finish (c :: rest) else none
          else pushDigit 'e' (fraction? { s with exponent := true } rest)
        else s.finish (c :: rest)
      | none => s.finish (c :: rest)
    else if c = '+' ∨ c = '-' then
      if s.sign || s.power || !s.exponent then none
      else
        -- A plus sign is left out.
        let r := fraction? { s with sign := true } rest
        if c = '-' then pushDigit '-' r else r
    else s.finish (c :: rest)

/-- The literal that a numeral denotes, negated where `negative` holds. -/
def ofNumeral? (negative : Bool) (cs : List Char) : Option Literal :=
  let sign := if negative then "-" else ""
  let (base, digits) := splitBase cs
  if !(cs.head?.any Char.isDigit) then none
  else
    -- What is not whole is read again from the start, as a decimal number with a fraction.
    match whole? base 0 false digits with
    | some (value, suffix) => some (.int (sign ++ toString value) (String.ofList suffix))
    | none =>
      match fraction? {} cs with
      | some (text, suffix) => some (.float (sign ++ String.ofList text) (String.ofList suffix))
      | none => none

end QueryCompiler.Host.Number
