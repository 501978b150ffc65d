import QueryCompiler.Host.Grammar.Basic

/-!
# Rules for paths with arguments, types and generic parameters
-/

namespace QueryCompiler.Host.Grammar

open Text Reader

/-! ### Paths -/

/-- A literal comes next, or a block. -/
def peekConst (ts : List Token) : Bool := Peek.literal ts || Peek.group .brace ts

def label : Reader Unit := do
  lifetime
  punct ":"

/-- A constant in the place of a type: a literal, a name, or a block. -/
def constArgument (g : Grammar) : Reader Unit := do
  if ← sees Peek.literal then
    let _ ← literal
  else if ← sees Peek.ident then
    let _ ← ident
  else
    let _ ← g.block true

/-- Lifetimes that a bound ranges over. -/
def boundLifetimes (g : Grammar) : Reader Unit := do
  word "for"
  punct "<"
  let _ ← separated (Peek.punct ">") "," do
    let _ ← outerAttributes g
    lifetime
  punct ">"

/-- Arguments in parentheses, as of a function trait. Says whether a path may go on behind them. -/
def parenArguments (g : Grammar) : Reader Bool := do
  let _ ← delimited .paren (terminated (g.type true))
  if ← optPunct "->" then
    -- Behind `Fn() -> T`, a double colon belongs to `T` unless that is closed off.
    match ← g.type false with
    | .paren .. => return true
    | _ => return false
  return true

/-- Parentheses come next, perhaps behind a double colon. -/
def peekParenArguments (ts : List Token) : Bool :=
  Peek.group .paren ts || (Peek.punct "::" ts && Peek.third (Peek.group .paren) ts)

/-- One argument in angle brackets. A name may be given a type or bounds there. -/
def genericArgument (g : Grammar) : Reader Unit := do
  -- With a plus sign behind it, a lifetime is the first bound of a type.
  if ← sees fun ts => Peek.lifetime ts && !Peek.second (Peek.punct "+") ts then lifetime
  else if ← sees peekConst then constArgument g
  else
    match ← g.type true with
    -- Only a single name can be bound.
    | .path _ false ⟨false, [⟨_, .none⟩]⟩ | .path _ false ⟨false, [⟨_, .angle _⟩]⟩ =>
      if ← optPunct "=" then
        if ← sees peekConst then constArgument g
        else
          let _ ← g.type true
      else if ← optPunct ":" then
        let _ ← joined (Peek.puncts [",", ">"]) (g.bound false true)
    | _ => pure ()

/-- Arguments in angle brackets; says whether there are none. -/
def angleArguments (g : Grammar) : Reader Bool := do
  punct "<"
  let args ← separated (Peek.punct ">") "," (genericArgument g)
  punct ">"
  return args.isEmpty

/-- A path segment of a type, or of an expression if `inExpr`. In an expression arguments need a
double colon before them. -/
def segment (g : Grammar) (inExpr : Bool) : Reader Segment := do
  if ← sees (Peek.words ["super", "self", "crate", "try"]) then return ⟨← anyWord, .none⟩
  let name ← if ← sees (Peek.word "Self") then anyWord else ident
  let opens := fun ts =>
    (!inExpr && Peek.punct "<" ts && !Peek.punct "<=" ts) ||
      (Peek.punct "::" ts && Peek.third (Peek.punct "<") ts)
  if ← sees opens then
    let _ ← optPunct "::"
    return ⟨name, .angle (← angleArguments g)⟩
  return ⟨name, .none⟩

/-- The segments behind the first, each behind a double colon. -/
def moreSegments (g : Grammar) (inExpr : Bool) : Reader (List Segment) :=
  manyUntil (fun ts => !Peek.punct "::" ts || Peek.third (Peek.group .paren) ts) do
    punct "::"
    segment g inExpr

/-- A path with arguments. -/
def path (g : Grammar) (inExpr : Bool) : Reader Path := do
  let rooted ← optPunct "::"
  let first ← segment g inExpr
  return ⟨rooted, first :: (← moreSegments g inExpr)⟩

/-- A path that may begin with a type in angle brackets; says whether it does. -/
def qualifiedPath (g : Grammar) (inExpr : Bool) : Reader (Bool × Path) := do
  if !(← optPunct "<") then return (false, ← path g inExpr)
  let _ ← g.type true
  let owner ← if ← optWord "as" then some <$> path g false else pure none
  punct ">"
  punct "::"
  let first ← segment g inExpr
  let more ← manyUntil (fun ts => !Peek.punct "::" ts) do
    punct "::"
    segment g inExpr
  match owner with
  | some p => return (true, ⟨p.rooted, p.segments ++ first :: more⟩)
  -- Without a trait, what stands behind the type is a path from the root.
  | none => return (true, ⟨true, first :: more⟩)

/-! ### Bounds -/

/-- What a list of bounds captures explicitly. -/
def captureList : Reader Unit := do
  word "use"
  punct "<"
  let _ ← separated (Peek.punct ">") "," do
    if ← sees Peek.lifetime then lifetime
    else if !(← optWord "Self") then
      let _ ← ident
  punct ">"

/-- Whether the last segment of a path has no arguments. -/
def endsBare (p : Path) : Bool := p.last?.all (·.arguments.isEmpty)

/-- The trait of a bound, which may be taken away by a question mark. -/
def traitBound (g : Grammar) (constant : Bool) : Reader Unit := do
  let binder ← optional (Peek.word "for") (boundLifetimes g)
  if ← sees (Peek.group .bracket) then
    delimited .bracket (word "const")
    if !constant then failure
  else if ← optWord "const" then
    if !constant then failure
  if ← optPunct "?" then
    -- The lifetimes stand before the question mark or behind it, not on both sides.
    if binder.isNone then
      let _ ← optional (Peek.word "for") (boundLifetimes g)
  let p ← path g false
  if endsBare p && (← sees peekParenArguments) then
    let _ ← optPunct "::"
    let _ ← parenArguments g

/-- The rule for one bound. -/
def boundRule (g : Grammar) (captures constant : Bool) : Reader Bool := do
  if ← sees Peek.lifetime then
    lifetime
    return false
  if ← sees (Peek.word "use") then
    if !captures then failure
    captureList
    return false
  if ← sees (Peek.group .paren) then delimited .paren (traitBound g constant)
  else traitBound g constant
  return true

/-- A further bound may come next. -/
def peekBound (constant : Bool) (ts : List Token) : Bool :=
  Peek.anyWord ts || Peek.puncts ["::", "?"] ts || Peek.lifetime ts || Peek.group .paren ts ||
    (constant && Peek.group .bracket ts)

/-- Bounds with plus signs between them, of which one at least has to be a trait. One plus sign may
come last. -/
def traitBounds (g : Grammar) (plus captures constant : Bool) : Reader Unit := do
  let found ← iterate (fun found => do
    let found := (← g.bound captures constant) || found
    if !plus || !(← optPunct "+") then return .inr found
    -- A plus sign may come last.
    if ← sees (peekBound constant) then return .inl found
    return .inr found) false
  if !found then failure

/-! ### Types -/

def returnType (g : Grammar) (plus : Bool) : Reader Unit := do
  if ← optPunct "->" then
    let _ ← g.type plus

def abi : Reader Unit := do
  word "extern"
  let _ ← optional Peek.string string

/-- A parameter of a function type; the first may be the receiver. -/
def functionTypeParam (g : Grammar) (first : Bool) : Reader Unit := do
  let _ ← outerAttributes g
  -- `mut self` may be named by itself or have a type; the word is taken before it is known which.
  let mutSelf ← sees fun ts => first && Peek.word "mut" ts && Peek.second (Peek.word "self") ts
  if mutSelf then word "mut"
  let isSelf ← sees fun ts => first && Peek.word "self" ts
  let named ← sees fun ts =>
    (Peek.ident ts || Peek.word "_" ts || isSelf) && Peek.second Peek.colon ts
  if named then
    let _ ← anyWord
    punct ":"
  let hasSelf := named && isSelf
  if first && !hasSelf &&
      (← sees fun ts => Peek.word "mut" ts && Peek.second (Peek.word "self") ts) then
    word "mut"
    word "self"
  else if mutSelf && !named then word "self"
  else
    let _ ← g.type true

/-- The dots of a variable number of parameters come next, perhaps behind a name. -/
def peekVariadic (ts : List Token) : Bool :=
  Peek.punct "..." ts ||
    ((Peek.ident ts || Peek.word "_" ts) && Peek.second (Peek.punct ":") ts &&
      Peek.third (Peek.punct "...") ts)

/-- The parameters of a function type. -/
def functionTypeParams (g : Grammar) : Reader Unit :=
  iterate (fun first => do
    if ← sees Peek.done then return .inr ()
    let _ ← outerAttributes g
    if ← sees peekVariadic then
      -- The dots may have a name.
      if ← sees Peek.anyWord then
        let _ ← anyWord
        punct ":"
      punct "..."
      let _ ← optPunct ","
      return .inr ()
    functionTypeParam g first
    if ← sees Peek.done then return .inr ()
    punct ","
    return .inl false) true

/-- A function type. -/
def functionType (g : Grammar) : Reader Unit := do
  let _ ← optWord "unsafe"
  let _ ← optional (Peek.word "extern") abi
  word "fn"
  delimited .paren (functionTypeParams g)
  returnType g false

/-- A type that is a path, whose last segment may have arguments in parentheses. -/
def pathType (g : Grammar) : Reader (Bool × Path) := do
  let (qualified, p) ← qualifiedPath g false
  let p ← iterate (fun (p : Path) => do
    if endsBare p && (← sees peekParenArguments) then
      let _ ← optPunct "::"
      let goesOn ← parenArguments g
      let segments := match p.segments.reverse with
        | s :: before => (⟨s.ident, .paren⟩ :: before).reverse
        | [] => []
      -- Another function trait may follow, so the last segment is looked at again.
      let more ← if goesOn then moreSegments g false else pure []
      return .inl { p with segments := segments ++ more }
    return .inr p) p
  return (qualified, p)

/-- The content of parentheses in a type. -/
inductive Parenthesized where
  | tuple
  | inner (type : TypeExpr)
  /-- A bound under a question mark. -/
  | maybe

/-- What stands between the parentheses of a type. -/
def parenthesizedType (g : Grammar) : Reader Parenthesized := do
  if ← sees Peek.done then return .tuple
  if ← sees Peek.lifetime then
    let start ← get
    traitBounds g true false false
    return .inner (.bounds (← since start) false)
  if ← sees (Peek.punct "?") then
    traitBound g false
    return .maybe
  let first ← g.type true
  -- One type and no comma is no tuple.
  if ← sees (Peek.punct ",") then
    punct ","
    let _ ← terminated (g.type true)
    return .tuple
  return .inner first

/-- Further bounds, each behind a plus sign. -/
def plusBounds (g : Grammar) : Reader Unit := do
  let _ ← manyUntil (fun ts => !Peek.punct "+" ts) do
    punct "+"
    g.bound false false

/-- A type in parentheses: a tuple, a type, or the first of several bounds. -/
def parenType (g : Grammar) (start : List Token) (plus : Bool) : Reader TypeExpr := do
  match ← delimited .paren (parenthesizedType g) with
  | .tuple => return .other (← since start)
  | .maybe =>
    let single ← sees fun ts => !Peek.punct "+" ts
    plusBounds g
    return .bounds (← since start) single
  | .inner t =>
    -- Only what could be a trait may be added to.
    let isBound := match t with
      | .path _ false _ => true
      | .bounds _ single => single
      | _ => false
    if plus && isBound && (← sees (Peek.punct "+")) then
      plusBounds g
      return .bounds (← since start) false
    return .paren (← since start) t

/-- A type that begins with a path: the path itself, a macro call, or the first of several
bounds. `bound` says whether lifetimes were bound before it. -/
def namedType (g : Grammar) (start : List Token) (plus bound : Bool) : Reader TypeExpr := do
  let (qualified, p) ← pathType g
  if qualified then return .path (← since start) true p
  if p.isPlain && (← sees fun ts => Peek.punct "!" ts && !Peek.punct "!=" ts) then
    let _ ← invocation
    return .other (← since start)
  let adds ← sees fun ts => plus && Peek.punct "+" ts
  if bound || adds then
    if adds then
      iterate (fun () => do
        if !(← optPunct "+") then return .inr ()
        if !(← sees (peekBound false)) then return .inr ()
        let _ ← g.bound false false
        return .inl ()) ()
    return .bounds (← since start) (!adds)
  return .path (← since start) false p

/-- The rule for types. -/
def typeRule (g : Grammar) (plus : Bool) : Reader TypeExpr := do
  let start ← get
  let other : Reader TypeExpr := do return .other (← since start)
  let binder ← optional (Peek.word "for") (boundLifetimes g)
  if binder.isSome then
    -- Lifetimes are bound before a function or a trait.
    expect fun ts => Peek.ident ts ||
      Peek.words ["fn", "unsafe", "extern", "super", "self", "Self", "crate"] ts
  if ← sees (Peek.group .paren) then parenType g start plus
  else if ← sees (Peek.words ["fn", "unsafe", "extern"]) then
    functionType g
    other
  else if ← sees fun ts => Peek.ident ts || Peek.words ["super", "self", "Self", "crate"] ts ||
      Peek.puncts ["::", "<"] ts then
    namedType g start plus binder.isSome
  else if ← optWord "dyn" then
    let _ ← optPunct "*"
    traitBounds g plus false false
    other
  else if ← sees (Peek.group .bracket) then
    delimited .bracket do
      let _ ← g.type true
      if ← optPunct ";" then
        let _ ← g.expr true
    other
  else if ← optPunct "*" then
    if !(← optWord "const") then word "mut"
    let _ ← g.type false
    other
  else if ← optPunct "&" then
    let _ ← optional Peek.lifetime lifetime
    let _ ← optWord "mut"
    let _ ← g.type false
    other
  else if ← optPunct "!" then other
  else if ← optWord "impl" then
    traitBounds g plus true true
    other
  else if ← optWord "_" then other
  else if ← sees Peek.lifetime then
    traitBounds g true false false
    return .bounds (← since start) false
  else failure

/-! ### Generic parameters -/

/-- One generic parameter. -/
def genericParam (g : Grammar) : Reader Unit := do
  let _ ← outerAttributes g
  if ← sees Peek.lifetime then
    lifetime
    if ← optPunct ":" then
      let _ ← joined (Peek.puncts [",", ">"]) lifetime
  else if ← optWord "const" then
    let _ ← ident
    punct ":"
    let _ ← g.type true
    if ← optPunct "=" then constArgument g
  else if ← optWord "_" then pure ()
  else
    let _ ← ident
    if ← optPunct ":" then
      -- The list of bounds may be empty.
      let _ ← joined (Peek.puncts [",", ">", "="]) (g.bound false true)
    if ← optPunct "=" then
      let _ ← g.type true

/-- Generic parameters in angle brackets; the place of the brackets if they enclose any. -/
def generics (g : Grammar) : Reader (Option Pos) := do
  match ← get with
  -- The place is that of the bracket, even if a gap stands before it.
  | t@(.punct _ '<' _) :: _ =>
    punct "<"
    let params ← separated (Peek.punct ">") "," (genericParam g)
    punct ">"
    return if params.isEmpty then none else some t.pos
  | _ => return none

/-- The bounds of a condition end here, or the conditions do. -/
def peekWhereEnd (ts : List Token) : Bool :=
  Peek.done ts || Peek.group .brace ts || Peek.puncts [",", ";", "="] ts || Peek.colon ts

/-- One condition on type parameters. -/
def wherePredicate (g : Grammar) : Reader Unit := do
  if ← sees fun ts => Peek.lifetime ts && Peek.second (Peek.punct ":") ts then
    lifetime
    punct ":"
    let _ ← joined peekWhereEnd lifetime
  else
    let _ ← optional (Peek.word "for") (boundLifetimes g)
    let _ ← g.type true
    punct ":"
    let _ ← joined peekWhereEnd (g.bound false true)

/-- Conditions on type parameters, where there are any. -/
def whereClause (g : Grammar) : Reader Unit := do
  if ← optWord "where" then
    iterate (fun () => do
      if ← sees peekWhereEnd then return .inr ()
      wherePredicate g
      if ← optPunct "," then return .inl ()
      return .inr ()) ()

end QueryCompiler.Host.Grammar
