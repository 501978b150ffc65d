import QueryCompiler.Host.Token

/-!
# Expressions of the host language

Only the shapes that a query can be built from are told apart; every other expression is kept as the
source text it was written as. Each node carries its excerpt: attributes before an expression belong
to it.
-/

namespace QueryCompiler.Host

open Text

/-- An identifier, with the mark `r#` of a raw one, and the place where it stands. -/
structure Ident where
  name : String
  pos : Pos
deriving DecidableEq, Inhabited

namespace Ident

/-- An identifier's name without the mark of a raw one. -/
def unraw (i : Ident) : String :=
  match i.name.toList with
  | 'r' :: '#' :: rest => String.ofList rest
  | _ => i.name

end Ident

/-- The generic arguments of a path segment; `isEmpty` if angle brackets enclose nothing. -/
inductive Arguments where
  | none
  | angle (isEmpty : Bool)
  /-- Parentheses, as of a function trait. They say something even if they enclose nothing. -/
  | paren
deriving DecidableEq, Inhabited

/-- Whether a segment has no arguments, or angle brackets that enclose none. -/
def Arguments.isEmpty : Arguments → Bool
  | .none => true
  | .angle e => e
  | .paren => false

/-- One name of a path and the arguments behind it. -/
structure Segment where
  ident : Ident
  arguments : Arguments
deriving DecidableEq, Inhabited

/-- A path; `rooted` if it begins with a double colon. -/
structure Path where
  rooted : Bool
  segments : List Segment
deriving DecidableEq, Inhabited

namespace Path

/-- The identifier of a path that is one name and nothing else. -/
def single? : Path → Option Ident
  | ⟨false, [⟨ident, .none⟩]⟩ => some ident
  | _ => none

def last? (p : Path) : Option Segment := p.segments.getLast?

/-- Whether the path is the one name given. -/
def isName (p : Path) (name : String) : Bool :=
  match p.single? with
  | some ident => ident.name == name
  | none => false

def isPlain (p : Path) : Bool := p.segments.all fun s => s.arguments = .none

end Path

/-- What a field access selects. -/
inductive Member where
  | named (ident : Ident)
  | index
deriving DecidableEq, Inhabited

/-- Operators before an operand. -/
inductive UnaryOp where
  | neg
  | not
  | deref
deriving DecidableEq, Inhabited

/-- Operators between two operands, those that assign included. -/
inductive BinaryOp where
  | add | sub | mul | div | rem
  | and | or
  | bitXor | bitAnd | bitOr
  | shl | shr
  | eq | lt | le | ne | ge | gt
  | addAssign | subAssign | mulAssign | divAssign | remAssign
  | bitXorAssign | bitAndAssign | bitOrAssign
  | shlAssign | shrAssign
deriving DecidableEq, Inhabited

/-- Shapes of the remaining expressions, as far as the grammar of statements tells them apart. -/
inductive Form where
  /-- An expression that ends with its own block and stands as a statement without a semicolon. -/
  | block
  /-- A macro call, with the brackets around its input. -/
  | invocation (delimiter : Delimiter)
  | range
  | plain
deriving DecidableEq, Inhabited

/-- An expression. -/
inductive Expr where
  | lit (src : Excerpt) (value : Literal)
  /-- A path; `qualified` if it begins with a type in angle brackets. -/
  | path (src : Excerpt) (qualified : Bool) (path : Path)
  | field (src : Excerpt) (base : Expr) (member : Member)
  | call (src : Excerpt) (callee : Expr) (args : List Expr)
  | methodCall (src : Excerpt) (receiver : Expr) (method : Ident) (args : List Expr)
  | unary (src : Excerpt) (op : UnaryOp) (operand : Expr)
  | binary (src : Excerpt) (op : BinaryOp) (opSrc : Excerpt) (left right : Expr)
  | paren (src : Excerpt) (inner : Expr)
  /-- An expression in invisible brackets, which no source text shows. -/
  | group (src : Excerpt) (inner : Expr)
  | tuple (src : Excerpt) (elements : List Expr)
  | other (src : Excerpt) (form : Form)
deriving Inhabited

namespace Expr

def src : Expr → Excerpt
  | .lit s _ | .path s _ _ | .field s _ _ | .call s _ _ | .methodCall s _ _ _ | .unary s _ _
  | .binary s _ _ _ _ | .paren s _ | .group s _ | .tuple s _ | .other s _ => s

def pos (e : Expr) : Pos := e.src.pos

def text (e : Expr) : String := e.src.text

/-- The same expression with the excerpt given. -/
def withSrc (s : Excerpt) : Expr → Expr
  | .lit _ v => .lit s v
  | .path _ q p => .path s q p
  | .field _ b m => .field s b m
  | .call _ c a => .call s c a
  | .methodCall _ r m a => .methodCall s r m a
  | .unary _ o e => .unary s o e
  | .binary _ o os l r => .binary s o os l r
  | .paren _ e => .paren s e
  | .group _ e => .group s e
  | .tuple _ es => .tuple s es
  | .other _ f => .other s f

end Expr

end QueryCompiler.Host
