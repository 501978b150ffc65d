import QueryCompiler.Host.Expr

/-!
# Types, attributes and items of the host language
-/

namespace QueryCompiler.Host

open Text

/-- A type. Only paths and parentheses are told apart from other types. -/
inductive TypeExpr where
  /-- A path; `qualified` if it begins with a type in angle brackets. -/
  | path (src : Excerpt) (qualified : Bool) (path : Path)
  | paren (src : Excerpt) (inner : TypeExpr)
  /-- A type in invisible brackets, which no source text shows. -/
  | group (src : Excerpt) (inner : TypeExpr)
  /-- Trait bounds without a keyword before them; `single` if there is one bound. -/
  | bounds (src : Excerpt) (single : Bool)
  | other (src : Excerpt)
deriving Inhabited

namespace TypeExpr

def src : TypeExpr → Excerpt
  | .path s _ _ | .paren s _ | .group s _ | .bounds s _ | .other s => s

def text (t : TypeExpr) : String := t.src.text

/-- The last segment of a type that is a path. -/
def lastSegment? : TypeExpr → Option Segment
  | .path _ _ p => p.last?
  | _ => none

end TypeExpr

/-- A pattern. Only names are told apart from other patterns. -/
inductive Pattern where
  /-- A name, taken by reference or bound beside a further pattern where the flags say so. -/
  | name (src : Excerpt) (ident : Ident) (byRef hasSub : Bool)
  /-- Two dots, alone. -/
  | rest (src : Excerpt)
  /-- A range without its start or its end. -/
  | openRange (src : Excerpt)
  | other (src : Excerpt)
deriving Inhabited

def Pattern.src : Pattern → Excerpt
  | .name s _ _ _ | .rest s | .openRange s | .other s => s

/-- What follows the path of an attribute. -/
inductive AttributeArgs where
  | none
  | list (content : List Token)
  | value (value : Expr)
deriving Inhabited

/-- An attribute, or the documentation comment that stands for one. -/
structure Attribute where
  src : Excerpt
  path : Path
  args : AttributeArgs
deriving Inhabited

/-- A field of a record; those of a tuple have no name. -/
structure Field where
  attributes : List Attribute
  visibility : String
  ident : Ident
  type : TypeExpr
deriving Inhabited

/-- The fields of a record. -/
inductive Fields where
  | named (fields : List Field)
  | unnamed
  | unit
deriving Inhabited

/-- A record declaration. -/
structure Struct where
  attributes : List Attribute
  visibility : String
  ident : Ident
  /-- Where the generic parameters stand, if there are any. -/
  generics : Option Pos
  fields : Fields
deriving Inhabited

/-- A parameter of a function. -/
inductive Param where
  | receiver (src : Excerpt)
  | typed (src : Excerpt) (pattern : Pattern) (type : TypeExpr)
deriving Inhabited

/-- A statement. Only expressions are told apart; a semicolon behind one makes no difference. -/
inductive Stmt where
  | expr (e : Expr)
  | other
deriving Inhabited

/-- A function with its body. -/
structure Function where
  attributes : List Attribute
  ident : Ident
  params : List Param
  body : List Stmt
deriving Inhabited

/-- An item. -/
inductive Item where
  | struct (decl : Struct)
  /-- Another name for a type. -/
  | alias (src : Excerpt) (ident : Ident) (type : TypeExpr)
  /-- A static or constant with a value. -/
  | binding (ident : Ident) (type : TypeExpr)
  /-- An import; `root` is the first name of its path, if a single path is imported. -/
  | use (src : Excerpt) (root : Option Ident)
  | function (fn : Function)
  | other
deriving Inhabited

/-- What a derivation is applied to. -/
inductive Declaration where
  | struct (decl : Struct)
  | enum (ident : Ident) (generics : Option Pos)
  | union (ident : Ident) (generics : Option Pos)
deriving Inhabited

end QueryCompiler.Host
