import QueryCompiler.Config.Value
import QueryCompiler.Text.Decimal
import QueryCompiler.Text.Hex

/-!
# Numbers, truth values and times of a configuration

These are written without quotes. The characters of one are collected first and have to match one of
the forms as a whole.
-/

namespace QueryCompiler.Config.Scalar

open Text

/-- The digits of a numeral without the underscores between them. An underscore needs a digit on
either side. -/
def digits? (isDigit : Char → Bool) : List Char → Option (List Char)
  | [] => none
  | [c] => if isDigit c then some [c] else none
  | c :: '_' :: rest => if isDigit c then (digits? isDigit rest).map (c :: ·) else none
  | c :: rest => if isDigit c then (digits? isDigit rest).map (c :: ·) else none

def valueIn (base : Nat) (ds : List Char) : Nat :=
  ds.foldl (fun n c => base * n + (hexDigit? c).getD 0) 0

def isOctal (c : Char) : Bool := '0' ≤ c && c ≤ '7'

def isBinary (c : Char) : Bool := c == '0' || c == '1'

def isHex (c : Char) : Bool := (hexDigit? c).isSome

/-- Decimal digits that do not begin with a superfluous zero. -/
def decimal? (cs : List Char) : Option (List Char) :=
  match digits? Char.isDigit cs with
  -- A single zero is not superfluous.
  | some ('0' :: _ :: _) => none
  | ds => ds

/-- A numeral without its sign, and whether it has one. -/
def unsigned : List Char → Bool × Bool × List Char
  | '+' :: rest => (true, false, rest)
  | '-' :: rest => (true, true, rest)
  | cs => (false, false, cs)

/-- The value of an integer of any size; one in another base has no sign. -/
def anyInteger? (cs : List Char) : Option Int :=
  match cs with
  | '0' :: 'x' :: rest => (digits? isHex rest).map fun ds => (valueIn 16 ds : Int)
  | '0' :: 'o' :: rest => (digits? isOctal rest).map fun ds => (valueIn 8 ds : Int)
  | '0' :: 'b' :: rest => (digits? isBinary rest).map fun ds => (valueIn 2 ds : Int)
  | _ =>
    let (_, negative, body) := unsigned cs
    (decimal? body).map fun ds =>
      let n : Int := valueIn 10 ds
      if negative then -n else n

/-- An integer, which has to fit 128 bits. -/
def integer? (cs : List Char) : Option Int :=
  -- From the least signed to the largest unsigned value.
  (anyInteger? cs).filter fun v => -Nat.pow 2 127 ≤ v && v < Nat.pow 2 128

/-- Whether the text is an exponent behind its mark. -/
def isExponent (cs : List Char) : Bool := (digits? Char.isDigit (unsigned cs).2.2).isSome

def isExponentMark (c : Char) : Bool := c == 'e' || c == 'E'

/-- Whether the text is a number with a point or an exponent, or one of the special numbers. -/
def isFloat (cs : List Char) : Bool :=
  let body := (unsigned cs).2.2
  if body = ['i', 'n', 'f'] ∨ body = ['n', 'a', 'n'] then true
  else
    let whole := body.takeWhile fun c => c != '.' && !isExponentMark c
    let rest := body.dropWhile fun c => c != '.' && !isExponentMark c
    (decimal? whole).isSome &&
      match rest with
      | '.' :: rest =>
        let fraction := rest.takeWhile (!isExponentMark ·)
        (digits? Char.isDigit fraction).isSome &&
          match rest.dropWhile (!isExponentMark ·) with
          | [] => true
          | _ :: exponent => isExponent exponent
      | _ :: exponent => isExponent exponent
      | [] => false

/-- A number of exactly as many digits as given, and what follows it. -/
def fixed? (n : Nat) (cs : List Char) : Option (Nat × List Char) := do
  let ds := cs.take n
  if ds.length = n then return (← natOfDigits? ds, cs.drop n) else none

/-- Takes a character that has to come next. -/
def char? (c : Char) : List Char → Option (List Char)
  | d :: rest => if c = d then some rest else none
  | [] => none

def isLeapYear (y : Nat) : Bool := y % 4 = 0 && (y % 100 ≠ 0 || y % 400 = 0)

def daysIn (year month : Nat) : Nat :=
  if month = 2 then (if isLeapYear year then 29 else 28)
  else if month = 4 ∨ month = 6 ∨ month = 9 ∨ month = 11 then 30
  else 31

/-- Takes a date: year, month and day. -/
def date? (cs : List Char) : Option (List Char) := do
  let (year, cs) ← fixed? 4 cs
  let (month, cs) ← fixed? 2 (← char? '-' cs)
  let (day, cs) ← fixed? 2 (← char? '-' cs)
  if 1 ≤ month ∧ month ≤ 12 ∧ 1 ≤ day ∧ day ≤ daysIn year month then return cs else none

/-- Takes a time of day: hour, minute and second, with or without a fraction. -/
def time? (cs : List Char) : Option (List Char) := do
  let (hour, cs) ← fixed? 2 cs
  let (minute, cs) ← fixed? 2 (← char? ':' cs)
  let (second, cs) ← fixed? 2 (← char? ':' cs)
  -- A leap second is accepted.
  if hour ≤ 23 ∧ minute ≤ 59 ∧ second ≤ 60 then
    match cs with
    | '.' :: rest =>
      if (rest.takeWhile Char.isDigit).isEmpty then none else return rest.dropWhile Char.isDigit
    | cs => return cs
  else none

/-- Takes the distance from universal time. -/
def offset? : List Char → Option (List Char)
  | 'Z' :: rest | 'z' :: rest => some rest
  | '+' :: rest | '-' :: rest => do
    let (hour, cs) ← fixed? 2 rest
    let (minute, cs) ← fixed? 2 (← char? ':' cs)
    if hour ≤ 23 ∧ minute ≤ 59 then return cs else none
  | _ => none

/-- Whether the text is a date, a time, or both with or without a distance from universal time. -/
def isDatetime (cs : List Char) : Bool :=
  match date? cs with
  | some [] => true
  | some (sep :: rest) =>
    (sep == 'T' || sep == 't' || sep == ' ') &&
      match time? rest with
      | some [] => true
      | some rest => offset? rest == some []
      | none => false
  -- A time by itself has no distance from universal time.
  | none => time? cs == some []

/-- The characters of numbers, truth values and times. -/
def isPart (c : Char) : Bool :=
  c.isAlphanum || c == '+' || c == '-' || c == '_' || c == '.' || c == ':'

/-- Splits off the characters of one of these. A blank may stand between date and time. -/
def split (cs : List Char) : List Char × List Char :=
  let first := cs.takeWhile isPart
  let rest := cs.dropWhile isPart
  match rest with
  | ' ' :: c :: more =>
    -- Only behind a date, as a blank ends anything else.
    if date? first = some [] ∧ c.isDigit then
      (first ++ ' ' :: (c :: more).takeWhile isPart, (c :: more).dropWhile isPart)
    else (first, rest)
  | _ => (first, rest)

/-- A number, truth value or time, and what follows it. -/
def scan? (cs : List Char) : Option (Value × List Char) :=
  let (body, rest) := split cs
  if body = ['t', 'r', 'u', 'e'] then some (.boolean true, rest)
  else if body = ['f', 'a', 'l', 's', 'e'] then some (.boolean false, rest)
  else
    match integer? body with
    | some v => some (.integer v, rest)
    | none =>
      if isFloat body then some (.float, rest)
      else if isDatetime body then some (.datetime, rest)
      else none

end QueryCompiler.Config.Scalar
