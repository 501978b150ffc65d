import QueryCompiler.Text.Hex

/-!
# Strings of a configuration

There are four kinds: in double or single quotes, on one line or on several. Double quotes have
escapes, single quotes have none. Each scanner starts behind the opening quotes and answers with the
text and what follows the closing ones.
-/

namespace QueryCompiler.Config.Quoted

open Text

/-- Whether a character may stand for itself: no control characters but the tab. -/
def isPlain (c : Char) : Bool := c == '\t' || (0x20 ≤ c.toNat && c.toNat != 0x7f)

/-- A blank of a line. -/
def isSpace (c : Char) : Bool := c == ' ' || c == '\t'

/-- The character of a code point of exactly as many digits as given. -/
def codePoint? (n : Nat) (cs : List Char) : Option Char := do
  let ds := cs.take n
  if ds.length = n then
    let value ← ds.foldlM (fun v c => (hexDigit? c).map (16 * v + ·)) 0
    if isScalar value then return Char.ofNat value else none
  else none

/-- The character that an escape denotes, and how many characters it spans behind the backslash. -/
def escape? : List Char → Option (Char × Nat)
  | 'b' :: _ => some ('\x08', 1)
  | 't' :: _ => some ('\t', 1)
  | 'n' :: _ => some ('\n', 1)
  | 'f' :: _ => some ('\x0c', 1)
  | 'r' :: _ => some ('\r', 1)
  | '"' :: _ => some ('"', 1)
  | '\\' :: _ => some ('\\', 1)
  | 'u' :: rest => (codePoint? 4 rest).map (·, 5)
  | 'U' :: rest => (codePoint? 8 rest).map (·, 9)
  | _ => none

/-- How many characters a line break takes, if one comes next. -/
def breakSize : List Char → Nat
  | '\n' :: _ => 1
  | '\r' :: '\n' :: _ => 2
  | _ => 0

/-- How many blanks and line breaks come next. -/
def gapSize : List Char → Nat
  | [] => 0
  | c :: rest =>
    if isSpace c || c == '\n' || (c == '\r' && rest.head? == some '\n') then gapSize rest + 1 else 0

/-- How many characters a break of the line takes that a backslash hides: blanks, the line break,
and all blanks and line breaks behind it. -/
def hiddenBreak (cs : List Char) : Nat :=
  let spaces := (cs.takeWhile isSpace).length
  if breakSize (cs.drop spaces) = 0 then 0 else gapSize cs

/-- A string in double quotes on one line. `skip` characters belong to what was read before. -/
def basic? (skip : Nat) : List Char → Option (List Char × List Char)
  | [] => none
  | c :: rest =>
    match skip with
    | skip + 1 => basic? skip rest
    | 0 =>
      if c = '"' then some ([], rest)
      else if c = '\\' then do
        let (v, n) ← escape? rest
        let (body, rest) ← basic? n rest
        return (v :: body, rest)
      else if isPlain c then do
        let (body, rest) ← basic? 0 rest
        return (c :: body, rest)
      else none

/-- A string in single quotes on one line. -/
def literal? : List Char → Option (List Char × List Char)
  | [] => none
  | c :: rest =>
    if c = '\'' then some ([], rest)
    else if isPlain c then do
      let (body, rest) ← literal? rest
      return (c :: body, rest)
    else none

def quoteCount (q : Char) (cs : List Char) : Nat := (cs.takeWhile (· == q)).length

/-- A string on several lines between triple quotes; `escapes` if a backslash is special. One or two
quotes may stand inside, also right before the closing ones. -/
def long? (q : Char) (escapes : Bool) (skip : Nat) : List Char → Option (List Char × List Char)
  | [] => none
  | c :: rest =>
    match skip with
    | skip + 1 => long? q escapes skip rest
    | 0 =>
      let quotes := quoteCount q (c :: rest)
      if 3 ≤ quotes then
        -- Three quotes close the text, and two may stand before them.
        if 5 < quotes then none
        else some (List.replicate (quotes - 3) q, (c :: rest).drop quotes)
      else if c = '\\' ∧ escapes then
        -- Behind a backslash, a line break is tried before an escape.
        if 0 < hiddenBreak rest then long? q escapes (hiddenBreak rest) rest
        else do
          let (v, n) ← escape? rest
          let (body, rest) ← long? q escapes n rest
          return (v :: body, rest)
      else if isPlain c || c == '\n' || (c == '\r' && rest.head? == some '\n') then do
        let (body, rest) ← long? q escapes 0 rest
        return (c :: body, rest)
      else none

/-- A string of any kind, and what follows it. A line break behind triple quotes is left out. -/
def scan? : List Char → Option (String × List Char)
  | '"' :: '"' :: '"' :: rest => do
    let (body, rest) ← long? '"' true (breakSize rest) rest
    return (String.ofList body, rest)
  | '\'' :: '\'' :: '\'' :: rest => do
    let (body, rest) ← long? '\'' false (breakSize rest) rest
    return (String.ofList body, rest)
  | '"' :: rest => do
    let (body, rest) ← basic? 0 rest
    return (String.ofList body, rest)
  | '\'' :: rest => do
    let (body, rest) ← literal? rest
    return (String.ofList body, rest)
  | _ => none

/-- A string on one line, as a key may be. -/
def scanLine? (cs : List Char) : Option (String × List Char) :=
  match cs with
  -- Two quotes are an empty string, three would open a long one.
  | '"' :: '"' :: '"' :: _ | '\'' :: '\'' :: '\'' :: _ => none
  | cs => scan? cs

end QueryCompiler.Config.Quoted
