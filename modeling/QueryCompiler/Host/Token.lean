import QueryCompiler.Host.Literal.Basic
import QueryCompiler.Text.Position

/-!
# Tokens of the host language

A token carries the blanks and comments that stand before it, so the source text of any run of
tokens can be put together again. Brackets are matched: what they enclose is one token.
-/

namespace QueryCompiler.Host

open Text

/-- The three kinds of brackets. -/
inductive Delimiter where
  | paren
  | bracket
  | brace
deriving DecidableEq, Inhabited

namespace Delimiter

def opening : Delimiter → String
  | .paren => "("
  | .bracket => "["
  | .brace => "\x7b"

def closing : Delimiter → String
  | .paren => ")"
  | .bracket => "]"
  | .brace => "\x7d"

end Delimiter

/-- What comes before a token: the gap of blanks and comments, and the place behind it. -/
structure Lead where
  gap : String
  pos : Pos
deriving Inhabited

/-- One token, or a bracketed group of them. -/
inductive Token where
  /-- An identifier or keyword, with the mark `r#` of a raw one. -/
  | ident (lead : Lead) (name : String)
  /-- A punctuation character; `joint` if another one follows at once. -/
  | punct (lead : Lead) (char : Char) (joint : Bool)
  | literal (lead : Lead) (text : String) (value : Literal)
  /-- A lifetime or label, with its apostrophe. -/
  | lifetime (lead : Lead) (text : String)
  /-- A documentation comment on what follows it, or on what encloses it if `inner`. -/
  | doc (lead : Lead) (inner : Bool) (content text : String)
  | group (lead : Lead) (delimiter : Delimiter) (content : List Token) (close : Lead)
deriving Inhabited

namespace Token

def lead : Token → Lead
  | .ident l _ | .punct l _ _ | .literal l _ _ | .lifetime l _ | .doc l _ _ _ | .group l _ _ _ => l

def pos (t : Token) : Pos := t.lead.pos

mutual

/-- The source text of a token, without the gap before it. -/
def text : Token → String
  | .ident _ name => name
  | .punct _ c _ => c.toString
  | .literal _ text _ => text
  | .lifetime _ text => text
  | .doc _ _ _ text => text
  | .group _ d content close => d.opening ++ sourceOf content ++ close.gap ++ d.closing

/-- The source text of a run of tokens, with the gap before each of them. -/
def sourceOf : List Token → String
  | [] => ""
  | t :: rest => t.lead.gap ++ t.text ++ sourceOf rest

end

mutual

def weight : Token → Nat
  | .group _ _ content _ => weightOf content + 1
  | _ => 1

def weightOf : List Token → Nat
  | [] => 0
  | t :: rest => t.weight + weightOf rest

end

/-- The source text of a run of tokens from its first token on, and the place where that stands. -/
def excerptOf : List Token → Excerpt
  | [] => ⟨.start, ""⟩
  | t :: rest => ⟨t.pos, t.text ++ sourceOf rest⟩

end Token

end QueryCompiler.Host
