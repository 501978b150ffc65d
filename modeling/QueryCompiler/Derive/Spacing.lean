import QueryCompiler.Code.Quoted
import QueryCompiler.Host.Reader

/-!
# Tokens as evenly spaced text

Tokens stand one blank apart, whatever the gaps between them were. Parentheses and square brackets
lie close around what they enclose, and the characters of one operator stay together. Which
characters make an operator depends on the context: two closing angle brackets are two tokens in a
type and one in an expression, and the input of a macro is left as it was written.
-/

namespace QueryCompiler.Derive

open Host

/-- What kind of text the tokens are. -/
inductive Context where
  | type
  | value
  | verbatim
deriving DecidableEq, Inhabited

/-- What came before a token, as far as it matters for a group. -/
inductive Before where
  | word
  /-- An exclamation mark behind a word, which calls a macro. -/
  | call
  | other
deriving DecidableEq, Inhabited

/-- A token's text; `glued` if no blank follows it. -/
structure Piece where
  text : String
  glued : Bool
deriving DecidableEq, Inhabited

/-- Puts pieces together. -/
def joinPieces : List Piece → String
  | [] => ""
  | [p] => p.text
  | p :: rest => p.text ++ (if p.glued then "" else " ") ++ joinPieces rest

/-- Operators of more than one character, the longer ones first. -/
def operators : Context → List (List Char)
  | .type => [['.', '.', '.'], [':', ':'], ['-', '>']]
  | .value =>
    [['<', '<', '='], ['>', '>', '='], ['.', '.', '.'], ['.', '.', '='],
      [':', ':'], ['-', '>'], ['=', '>'], ['=', '='], ['!', '='], ['<', '='], ['>', '='],
      ['&', '&'], ['|', '|'], ['<', '<'], ['>', '>'], ['.', '.'],
      ['+', '='], ['-', '='], ['*', '='], ['/', '='], ['%', '='], ['^', '='], ['&', '='],
      ['|', '=']]
  | .verbatim => []

/-- The characters of the operator that begins here, behind its first one. -/
def operatorRest (ctx : Context) (ts : List Token) : List Char :=
  (((operators ctx).find? fun op => Peek.punctChars op ts).map (·.drop 1)).getD []

/-- The context inside brackets. -/
def inside (ctx : Context) (before : Before) (d : Delimiter) : Context :=
  if before = .call then .verbatim
  else if ctx = .type ∧ d = .brace then .value
  else ctx

def beforeNumber : List Token → Bool
  | .literal _ _ value :: _ => value.isNumber
  | _ => false

mutual

/-- The pieces of a list of tokens; `pending` are the characters to come of an operator. Behind a
semicolon in a type there is the length of an array. -/
def pieces (ctx : Context) (before : Before) (pending : List Char) : List Token → List Piece
  | [] => []
  | t :: rest =>
    match t with
    | .punct _ c joint =>
      -- Inside of an operator no other one begins.
      let pending := if pending.isEmpty then operatorRest ctx (t :: rest) else pending.drop 1
      let glued :=
        match ctx with
        | .verbatim => joint
        -- In a type, a sign and its number are one literal.
        | .type => !pending.isEmpty || (c == '-' && beforeNumber rest)
        | .value => !pending.isEmpty
      let before := if c = '!' ∧ before = .word then .call else .other
      -- The rest of the list is the length.
      let ctx := if ctx = .type ∧ c = ';' then .value else ctx
      ⟨c.toString, glued⟩ :: pieces ctx before pending rest
    | .ident _ name => ⟨name, false⟩ :: pieces ctx .word [] rest
    | .group _ d _ _ => ⟨groupText (inside ctx before d) t, false⟩ :: pieces ctx .other [] rest
    | .doc _ inner content _ =>
      ⟨(if inner then "# ! " else "# ") ++ "[doc = " ++ Code.quote content ++ "]", false⟩ ::
        pieces ctx .other [] rest
    | .literal _ text _ | .lifetime _ text => ⟨text, false⟩ :: pieces ctx .other [] rest

/-- The text of a bracketed group. Braces stand apart from what they enclose. -/
def groupText (ctx : Context) : Token → String
  | .group _ d content _ =>
    let body := joinPieces (pieces ctx .other [] content)
    match d with
    | .brace => if content.isEmpty then "\x7b \x7d" else "\x7b " ++ body ++ " \x7d"
    | d => d.opening ++ body ++ d.closing
  | _ => ""

end

/-- The source text of a type, evenly spaced. -/
def spacedType (text : String) : String :=
  joinPieces (pieces .type .other [] ((Token.read? text).getD []))

end QueryCompiler.Derive
