import QueryCompiler.Host.Item
import QueryCompiler.Host.Lexeme

/-!
# Readers of token lists

A reader takes what it recognises off the front of a list of tokens, or fails. Looking ahead is a
question about the list alone, so the tests below are plain functions on lists.
-/

namespace QueryCompiler.Host

open Text

/-- Takes a value off the front of a list of tokens, or fails. -/
abbrev Reader := StateT (List Token) Option

namespace Peek

/-- Words that are no identifiers unless marked as raw. -/
def keywords : List String :=
  ["_", "abstract", "as", "async", "await", "become", "box", "break", "const", "continue", "crate",
    "do", "dyn", "else", "enum", "extern", "false", "final", "fn", "for", "if", "impl", "in", "let",
    "loop", "macro", "match", "mod", "move", "mut", "override", "priv", "pub", "ref", "return",
    "Self", "self", "static", "struct", "super", "trait", "true", "try", "type", "typeof", "unsafe",
    "unsized", "use", "virtual", "where", "while", "yield"]

def anyWord : List Token → Bool
  | .ident .. :: _ => true
  | _ => false

def ident : List Token → Bool
  | .ident _ name :: _ => !keywords.contains name
  | _ => false

def word (w : String) : List Token → Bool
  | .ident _ name :: _ => name == w
  | _ => false

def words (ws : List String) (ts : List Token) : Bool := ws.any (word · ts)

/-- The punctuation given comes next, its characters joined. More may follow it at once. -/
def punctChars : List Char → List Token → Bool
  | [], _ => true
  | c :: more, .punct _ d joint :: rest =>
    -- The last character need not end the run: `<` is seen in `<=`.
    c == d && (more.isEmpty || (joint && punctChars more rest))
  | _ :: _, _ => false

/-- The punctuation given comes next, as `punctChars` has it. -/
def punct (p : String) (ts : List Token) : Bool := punctChars p.toList ts

def puncts (ps : List String) (ts : List Token) : Bool := ps.any (punct · ts)

def group (d : Delimiter) : List Token → Bool
  | .group _ e _ _ :: _ => d = e
  | _ => false

def lifetime : List Token → Bool
  | .lifetime .. :: _ => true
  | _ => false

/-- A number under a minus sign comes next. -/
def negativeNumber : List Token → Bool
  | .punct _ '-' _ :: .literal _ _ value :: _ => value.isNumber
  | _ => false

/-- A literal comes next: a truth value and a number under a minus sign are literals too. -/
def literal (ts : List Token) : Bool :=
  match ts with
  | .literal .. :: _ => true
  | _ => words ["true", "false"] ts || negativeNumber ts

def string : List Token → Bool
  | .literal _ _ (.str _) :: _ => true
  | _ => false

def done (ts : List Token) : Bool := ts.isEmpty

/-- A colon comes next that begins no path separator. -/
def colon (ts : List Token) : Bool := punct ":" ts && !punct "::" ts

/-- A point comes next that begins no range. -/
def point (ts : List Token) : Bool := punct "." ts && !punct ".." ts

/-- What comes behind the next token. -/
def second (test : List Token → Bool) (ts : List Token) : Bool := test (ts.drop 1)

/-- What comes behind the next two tokens. -/
def third (test : List Token → Bool) (ts : List Token) : Bool := test (ts.drop 2)

/-- An attribute or documentation comment comes next. -/
def attr (ts : List Token) : Bool :=
  match ts with
  | .doc _ _ _ _ :: _ => true
  | _ => punct "#" ts

end Peek

namespace Reader

/-- Whether the tokens that come next pass a test. -/
def sees (test : List Token → Bool) : Reader Bool := do return test (← get)

/-- Fails unless the tokens that come next pass a test. -/
def expect (test : List Token → Bool) : Reader Unit := do
  if test (← get) then pure () else failure

def take : Reader Token := fun
  | [] => none
  | t :: rest => some (t, rest)

def anyWord : Reader Ident := fun
  | .ident lead name :: rest => some (⟨name, lead.pos⟩, rest)
  | _ => none

def ident : Reader Ident := do
  expect Peek.ident
  anyWord

def word (w : String) : Reader Unit := do
  expect (Peek.word w)
  let _ ← take

/-- Takes the punctuation given. -/
def punct (p : String) : Reader Unit := do
  expect (Peek.punct p)
  modify (·.drop p.length)

/-- Runs a reader where a test holds. -/
def optional {α : Type} (test : List Token → Bool) (p : Reader α) : Reader (Option α) := do
  if test (← get) then some <$> p else return none

/-- Takes a word if it comes next, and says whether it did. -/
def optWord (w : String) : Reader Bool := do
  return (← optional (Peek.word w) (word w)).isSome

/-- Takes punctuation if it comes next, and says whether it did. -/
def optPunct (p : String) : Reader Bool := do
  return (← optional (Peek.punct p) (punct p)).isSome

def lifetime : Reader Unit := fun
  | .lifetime .. :: rest => some ((), rest)
  | _ => none

/-- Takes a literal, with the minus sign of a number. -/
def literal : Reader Literal := fun
  | .literal _ _ value :: rest => some (value, rest)
  | .punct _ '-' _ :: .literal _ text value :: rest =>
    -- The text is read again, as the value that the token carries has no sign.
    if value.isNumber then (Number.ofNumeral? true text.toList).map (·, rest) else none
  | .ident _ name :: rest =>
    if name = "true" then some (.bool true, rest)
    else if name = "false" then some (.bool false, rest)
    else none
  | _ => none

def string : Reader String := fun
  | .literal _ _ (.str value) :: rest => some (value, rest)
  | _ => none

/-- Takes a group in the brackets given; the reader has to take all that the group encloses. -/
def delimited {α : Type} (d : Delimiter) (p : Reader α) : Reader α := fun
  | .group _ e content _ :: rest =>
    if d = e then
      match p content with
      -- What is left inside of the brackets is an error.
      | some (a, []) => some (a, rest)
      | _ => none
    else none
  | _ => none

/-- Takes a group in any brackets, and says which. -/
def anyGroup : Reader (Delimiter × List Token) := fun
  | .group _ d content _ :: rest => some ((d, content), rest)
  | _ => none

/-- The tokens between two points of the same list. -/
def consumed (start rest : List Token) : List Token := start.take (start.length - rest.length)

/-- The source text between `start` and where the reader stands now. -/
def since (start : List Token) : Reader Excerpt := do
  return Token.excerptOf (consumed start (← get))

/-- Runs a step until it answers with a result. Each step that does not has to take a token. -/
def iterate {σ α : Type} (step : σ → Reader (σ ⊕ α)) (s : σ) (ts : List Token) :
    Option (α × List Token) :=
  match step s ts with
  | none => none
  | some (.inr a, rest) => some (a, rest)
  -- The length is compared at run time, so that any step may be iterated.
  | some (.inl t, rest) => if rest.length < ts.length then iterate step t rest else none
termination_by ts.length

/-- Takes items until a test holds. -/
def manyUntil {α : Type} (stop : List Token → Bool) (item : Reader α) : Reader (List α) :=
  iterate (fun acc => do
    if stop (← get) then return .inr acc.reverse
    else return .inl ((← item) :: acc)) []

/-- Takes items with a separator between them until a test holds; one separator may come last. -/
def separated {α : Type} (stop : List Token → Bool) (sep : String) (item : Reader α) :
    Reader (List α) :=
  iterate (fun acc => do
    if stop (← get) then return .inr acc.reverse
    let acc := (← item) :: acc
    if stop (← get) then return .inr acc.reverse
    -- Behind an item comes the end or a separator.
    punct sep
    return .inl acc) []

/-- Takes items with commas between them until nothing is left. -/
def terminated {α : Type} (item : Reader α) : Reader (List α) := separated Peek.done "," item

/-- Takes items joined by plus signs, none where `stop` holds. Says how many there were, and whether
a plus sign came last. -/
def joined {α : Type} (stop : List Token → Bool) (item : Reader α) : Reader (Nat × Bool) :=
  iterate (fun (n, plus) => do
    if stop (← get) then return .inr (n, plus)
    let _ ← item
    if ← optPunct "+" then return .inl (n + 1, true)
    return .inr (n + 1, false)) (0, false)

/-- Runs a reader on all tokens of a text. -/
def onText {α : Type} (p : List Token → Reader α) (text : String) : Option α :=
  match Token.read? text with
  | some ts =>
    match p ts ts with
    | some (a, []) => some a
    | _ => none
  | none => none

end Reader

end QueryCompiler.Host
