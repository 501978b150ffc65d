import QueryCompiler.Host.Literal.Scan
import QueryCompiler.Host.Token

/-!
# From text to tokens

`Lexeme.scan?` cuts a text into lexemes, each with the gap before it; `Token.read?` matches the
brackets. Both fail as a whole where some character begins no lexeme or a bracket has no partner.
-/

namespace QueryCompiler.Host

open Text

namespace Lexeme

/-! ### Gaps -/

/-- How many characters a block comment spans, of which `depth` are open; comments nest. The first
`skip` characters belong to a mark already read. -/
def blockSize? : (skip depth : Nat) → List Char → Option Nat
  | _, _, [] => none
  | skip + 1, depth, _ :: rest =>
    -- The second character of the mark that closed the outermost comment.
    if skip = 0 ∧ depth = 0 then some 1 else (blockSize? skip depth rest).map (· + 1)
  | 0, depth, c :: rest =>
    if c = '/' ∧ rest.head? = some '*' then (blockSize? 1 (depth + 1) rest).map (· + 1)
    else if c = '*' ∧ rest.head? = some '/' then (blockSize? 1 (depth - 1) rest).map (· + 1)
    else (blockSize? 0 depth rest).map (· + 1)

def startsWith (lead : String) (cs : List Char) : Bool := lead.toList.isPrefixOf cs

/-- Whether a comment that is no documentation begins here, up to the end of its line. -/
def startsLineComment (cs : List Char) : Bool :=
  startsWith "//" cs && (!startsWith "///" cs || startsWith "////" cs) && !startsWith "//!" cs

/-- Whether a block comment that is no documentation begins here. -/
def startsBlockComment (cs : List Char) : Bool :=
  startsWith "/**/" cs ||
    (startsWith "/*" cs && (!startsWith "/**" cs || startsWith "/***" cs) && !startsWith "/*!" cs)

/-- The blanks between tokens: white space and the two direction marks. -/
def isGapChar (c : Char) : Bool := isBlank c || c == '\u200e' || c == '\u200f'

/-- How many characters the first blank or comment of a gap spans; zero where the gap ends. A block
comment that is never closed is no gap. -/
def gapPiece (cs : List Char) : Nat :=
  match cs with
  | [] => 0
  | c :: _ =>
    if c = '/' then
      -- The line feed is a blank of its own.
      if startsLineComment cs then (cs.takeWhile (· != '\n')).length
      else if startsBlockComment cs then (blockSize? 0 0 cs).getD 0
      else 0
    else if isGapChar c then 1
    else 0

/-- Splits a text behind the gap at its head. -/
def splitGap : List Char → List Char × List Char
  | [] => ([], [])
  | c :: rest =>
    match gapPiece (c :: rest) with
    | 0 => ([], c :: rest)
    | n + 1 =>
      let more := splitGap (rest.drop n)
      (c :: (rest.take n ++ more.1), more.2)
termination_by cs => cs.length
decreasing_by simp only [List.length_drop, List.length_cons]; omega

/-- A gap and what follows it make up the text. -/
theorem splitGap_append (cs : List Char) : (splitGap cs).1 ++ (splitGap cs).2 = cs := by
  fun_induction splitGap cs with
  | case1 => rfl
  | case2 => rfl
  | case3 c rest n _ more ih => simp [more, ih]

theorem splitGap_length (cs : List Char) : (splitGap cs).2.length ≤ cs.length := by
  have h := congrArg List.length (splitGap_append cs)
  simp only [List.length_append] at h
  omega

/-! ### Lexemes -/

/-- The kinds of lexemes; those with brackets are not matched yet. -/
inductive Kind where
  | ident
  | punct (char : Char) (joint : Bool)
  | literal (value : Literal)
  | lifetime
  | doc (inner : Bool) (content : String)
  | opening (delimiter : Delimiter)
  | closing (delimiter : Delimiter)

/-- How many characters stand before the end of the line, and how many with the carriage return of
the line break. -/
def lineSize : List Char → Nat × Nat
  | [] => (0, 0)
  | c :: rest =>
    if c = '\n' then (0, 0)
    -- The return is taken with the comment, the line feed is left for the gap.
    else if c = '\r' ∧ rest.head? = some '\n' then (0, 1)
    else
      let (content, total) := lineSize rest
      (content + 1, total + 1)

/-- Whether every carriage return stands before a line feed. -/
def returnsPaired : List Char → Bool
  | [] => true
  | c :: rest => (c != '\r' || rest.head? == some '\n') && returnsPaired rest

/-- A documentation comment with the content given, unless a carriage return stands alone in it. -/
def docOf (inner : Bool) (content : List Char) (size : Nat) : Option (Kind × Nat) :=
  if returnsPaired content then some (.doc inner (String.ofList content), size) else none

/-- A documentation comment up to the end of its line; its mark has three characters. -/
def lineDoc? (inner : Bool) (cs : List Char) : Option (Kind × Nat) :=
  let (content, total) := lineSize (cs.drop 3)
  docOf inner ((cs.drop 3).take content) (total + 3)

/-- A documentation comment between marks of three and two characters. -/
def blockDoc? (inner : Bool) (cs : List Char) : Option (Kind × Nat) :=
  match blockSize? 0 0 cs with
  | some n => docOf inner ((cs.drop 3).take (n - 5)) n
  | none => none

/-- The documentation comment at the head of a text. -/
def doc? (cs : List Char) : Option (Kind × Nat) :=
  if startsWith "//!" cs then lineDoc? true cs
  else if startsWith "/*!" cs then blockDoc? true cs
  else if startsWith "///" cs then if startsWith "////" cs then none else lineDoc? false cs
  else if startsWith "/**" cs && !startsWith "/***" cs then blockDoc? false cs
  else none

/-- Whether a punctuation character stands at the head of a text; the mark of a comment is none. -/
def punctAt (cs : List Char) : Bool :=
  match cs with
  | [] => false
  | c :: _ =>
    !startsWith "//" cs && !startsWith "/*" cs && "~!@#$%^&*-=+|;:,<.>/?'".toList.contains c

/-- How many characters an identifier spans, raw ones included; zero where there is none. Keywords
that name a path cannot be raw. -/
def wordSize (cs : List Char) : Nat :=
  match cs with
  | 'r' :: '#' :: rest =>
    let n := Number.identSize rest
    if n = 0 ∨ ["_", "super", "self", "Self", "crate"].contains (String.ofList (rest.take n)) then 0
    else n + 2
  | _ => Number.identSize cs

/-- Marks that begin a quoted literal, so that no identifier starts there. -/
def startsQuoted (cs : List Char) : Bool :=
  ["r\"", "r#\"", "r##", "b\"", "b'", "br\"", "br#", "c\"", "cr\"", "cr#"].any (startsWith · cs)

/-- A lifetime, whose name no quote may follow. -/
def lifetime? (rest : List Char) : Option (Kind × Nat) :=
  let n := wordSize rest
  let next := (rest.drop n).head?
  -- With a quote behind it, it would be a character; that has been tried before.
  if n = 0 ∨ next = some '\'' ∨ (next = some '#' ∧ !startsWith "r#" rest) then none
  else some (.lifetime, n + 1)

/-- The lexeme at the head of a text that has no gap there, and how many characters it spans. -/
def at? (cs : List Char) : Option (Kind × Nat) :=
  match cs with
  | [] => none
  | c :: rest =>
    match doc? cs with
    | some d => some d
    | none =>
      if c = '(' then some (.opening .paren, 1)
      else if c = '[' then some (.opening .bracket, 1)
      else if c = '\x7b' then some (.opening .brace, 1)
      else if c = ')' then some (.closing .paren, 1)
      else if c = ']' then some (.closing .bracket, 1)
      else if c = '\x7d' then some (.closing .brace, 1)
      else
        -- Literals before words, because some of them begin with a letter.
        match Literal.scan? cs with
        | some (value, n) => some (.literal value, n)
        | none =>
          if c = '\'' then lifetime? rest
          else if punctAt cs then some (.punct c (punctAt rest), 1)
          -- A quoted literal that could not be read is an error, not a word before a string.
          else if startsQuoted cs then none
          else
            match wordSize cs with
            | 0 => none
            | n => some (.ident, n)

end Lexeme

/-- A lexeme with its text and what comes before it. -/
structure Lexeme where
  lead : Lead
  text : String
  kind : Lexeme.Kind

namespace Lexeme

/-- Cuts a text that stands at `pos` into lexemes. -/
def scan? (pos : Pos) (cs : List Char) : Option (List Lexeme) :=
  let split := splitGap cs
  let here := pos.afterAll split.1
  match _h : split.2 with
  | [] => some []
  | c :: rest =>
    match at? (c :: rest) with
    -- No lexeme is empty, so what is left to scan gets shorter.
    | some (kind, n + 1) =>
      let text := c :: rest.take n
      match scan? (here.afterAll text) (rest.drop n) with
      | some more => some (⟨⟨String.ofList split.1, here⟩, String.ofList text, kind⟩ :: more)
      | none => none
    | _ => none
termination_by cs.length
decreasing_by
  have hs : (splitGap cs).2.length ≤ cs.length := splitGap_length cs
  have hc : (splitGap cs).2 = c :: rest := _h
  rw [hc] at hs
  simp only [List.length_cons] at hs
  simp only [List.length_drop]
  omega

end Lexeme

namespace Token

/-- A bracket still open: its kind and lead, and the tokens before it in reverse. -/
structure Frame where
  delimiter : Delimiter
  lead : Lead
  before : List Token

/-- Matches brackets. `done` holds the tokens of the innermost open bracket in reverse, `frames` the
brackets around it. -/
def assemble (frames : List Frame) (done : List Token) : List Lexeme → Option (List Token)
  | [] => if frames.isEmpty then some done.reverse else none
  | x :: rest =>
    match x.kind with
    | .ident => assemble frames (.ident x.lead x.text :: done) rest
    | .punct c joint => assemble frames (.punct x.lead c joint :: done) rest
    | .literal value => assemble frames (.literal x.lead x.text value :: done) rest
    | .lifetime => assemble frames (.lifetime x.lead x.text :: done) rest
    | .doc inner content => assemble frames (.doc x.lead inner content x.text :: done) rest
    | .opening d => assemble (⟨d, x.lead, done⟩ :: frames) [] rest
    | .closing d =>
      match frames with
      | [] => none
      | f :: outer =>
        if f.delimiter = d then
          -- The group is the next token of the bracket around it.
          assemble outer (.group f.lead d done.reverse x.lead :: f.before) rest
        else none

/-- The tokens of a text. A byte order mark at its head is skipped, though it takes a column. -/
def read? (text : String) : Option (List Token) :=
  let lexemes? := match text.toList with
    | '\ufeff' :: rest => Lexeme.scan? (Pos.start.after '\ufeff') rest
    | cs => Lexeme.scan? .start cs
  match lexemes? with
  | some lexemes => assemble [] [] lexemes
  | none => none

end Token

end QueryCompiler.Host
