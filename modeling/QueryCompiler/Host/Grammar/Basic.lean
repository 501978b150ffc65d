import QueryCompiler.Host.Reader

/-!
# The grammar, open for recursion

The rules of the grammar refer to each other. Each is written against a `Grammar` that stands for
the rules one level further in, and the levels are tied together in one place, where the number of
tokens bounds how deep they go.
-/

namespace QueryCompiler.Host

open Text Reader

/-- The rules that other rules refer to. `braces` says whether a record may be written with braces
in an expression, `plus` whether a plus sign may add bounds to a type. -/
structure Grammar where
  expr : (braces : Bool) → Reader Expr
  unary : (braces : Bool) → Reader Expr
  /-- Extends an operand by operators that bind at least as tightly as `base`. The operand begins
  at `start`. -/
  climb : (start : List Token) → (operand : Expr) → (braces : Bool) → (base : Nat) → Reader Expr
  /-- An expression that ends where a statement may end, as the branches of a match do. -/
  boundary : Reader Expr
  type : (plus : Bool) → Reader TypeExpr
  /-- One bound on a type. `captures` says whether it may be a list of captures, `constant` whether
  it may be constant; the answer is whether it is a trait. -/
  bound : (captures constant : Bool) → Reader Bool
  pattern : Reader Pattern
  item : Reader Item
  /-- A block in braces; `inner` says whether attributes may stand at its head. -/
  block : (inner : Bool) → Reader (List Attribute × List Stmt)
  /-- A tree of imports. `root` says whether a branch may begin with a double colon; the answer is
  nothing if some branch does. -/
  importTree : (root : Bool) → Reader (Option (Option Ident))

/-- The grammar that accepts nothing. -/
def Grammar.empty : Grammar where
  expr _ := failure
  unary _ := failure
  climb _ _ _ _ := failure
  boundary := failure
  type _ := failure
  bound _ _ := failure
  pattern := failure
  item := failure
  block _ := failure
  importTree _ := failure

namespace Grammar

/-! ### Paths without arguments, attributes and visibility -/

/-- The word of a path segment that has no arguments. -/
def plainSegment : Reader Segment := do
  expect fun ts => Peek.ident ts || Peek.words ["super", "self", "Self", "crate"] ts
  return ⟨← anyWord, .none⟩

/-- A path without arguments. -/
def plainPath : Reader Path := do
  let rooted ← optPunct "::"
  let first ← plainSegment
  let more ← manyUntil (fun ts => !Peek.punct "::" ts) do
    punct "::"
    plainSegment
  return ⟨rooted, first :: more⟩

/-- The value behind the equals sign of an attribute: a literal alone, or an expression without
attributes of its own. -/
def attributeValue (g : Grammar) : Reader Expr := do
  let start ← get
  match literal start with
  -- Nothing may follow the literal; `"a" + b` is an expression.
  | some (value, []) =>
    set ([] : List Token)
    return .lit (← since start) value
  | _ =>
    expect fun ts => !(Peek.punct "#" ts && Peek.second (Peek.group .bracket) ts)
    g.expr true

/-- What an attribute holds between its brackets. -/
def attributeContent (g : Grammar) : Reader (Path × AttributeArgs) := do
  let path ← if ← sees (Peek.word "unsafe") then (fun i => ⟨false, [⟨i, .none⟩]⟩) <$> anyWord
    else plainPath
  match ← get with
  | .group .. :: _ => return (path, .list (← anyGroup).2)
  | _ =>
    if ← optPunct "=" then return (path, .value (← attributeValue g))
    return (path, .none)

/-- One attribute, or the documentation comment that stands for one. -/
def attr (g : Grammar) (inner : Bool) : Reader Attribute := do
  let start ← get
  match start with
  | .doc lead isInner content _ :: rest =>
    if isInner = inner then
      set rest
      let src ← since start
      -- As if it had been written `#[doc = ".."]`.
      let path : Path := ⟨false, [⟨⟨"doc", lead.pos⟩, .none⟩]⟩
      return ⟨src, path, .value (.lit src (.str content))⟩
    else failure
  | _ =>
    punct "#"
    if inner then punct "!"
    let (path, args) ← delimited .bracket (attributeContent g)
    return ⟨← since start, path, args⟩

/-- The attributes before an item, expression or field. -/
def outerAttributes (g : Grammar) : Reader (List Attribute) :=
  manyUntil (fun ts => !Peek.attr ts) (attr g false)

/-- An attribute comes next that belongs to what encloses it. -/
def peekInner : List Token → Bool
  | .doc _ inner _ _ :: _ => inner
  | ts => Peek.punct "#" ts && Peek.second (Peek.punct "!") ts

/-- The attributes at the head of a block or file that belong to it. -/
def innerAttributes (g : Grammar) : Reader (List Attribute) :=
  manyUntil (fun ts => !peekInner ts) (attr g true)

/-- Whether the parentheses behind the word `pub` restrict it. -/
def restricts : List Token → Bool
  | [.ident _ name] => ["crate", "self", "super"].contains name
  | .ident _ "in" :: _ => true
  | _ => false

/-- A visibility as source text; empty where there is none. -/
def visibility : Reader String := do
  let start ← get
  if !(← optWord "pub") then return ""
  match ← get with
  -- In a tuple, `pub (A, B)` is a visibility and a type.
  | .group _ .paren content _ :: rest =>
    if restricts content then
      match content with
      | [_] => set rest
      | _ =>
        delimited .paren do
          word "in"
          let _ ← plainPath
  | _ => pure ()
  return (← since start).text

/-- A macro's path, mark and input. -/
def invocation : Reader Delimiter := do
  punct "!"
  return (← anyGroup).1

end Grammar

end QueryCompiler.Host
