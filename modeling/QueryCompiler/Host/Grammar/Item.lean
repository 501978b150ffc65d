import QueryCompiler.Host.Grammar.Expr

/-!
# Rules for statements and items
-/

namespace QueryCompiler.Host.Grammar

open Text Reader

/-! ### Statements -/

/-- A macro call as a statement, or the start of an item that a macro declares. -/
inductive MacroStmt where
  | braced
  | item
  | neither

/-- What kind of macro call comes next, if one does. A call in braces that a selection follows is
an expression. -/
def macroStmt (ts : List Token) : MacroStmt :=
  match plainPath ts with
  | some (_, rest) =>
    if Peek.punct "!" rest then
      if Peek.second Peek.ident rest || Peek.second (Peek.word "try") rest then .item
      else if Peek.second (Peek.group .brace) rest &&
          !(Peek.third Peek.point rest || Peek.third (Peek.punct "?") rest) then .braced
      else .neither
    else .neither
  | none => .neither

/-- An item comes next, in the place of a statement. -/
def peekItem (ts : List Token) : Bool :=
  let second := Peek.second
  let third := Peek.third
  Peek.words ["pub", "extern", "use", "fn", "mod", "type", "struct", "enum", "trait", "impl",
    "macro"] ts ||
    (Peek.word "crate" ts && !second (Peek.punct "::") ts) ||
    (Peek.word "static" ts && (second (Peek.word "mut") ts || second Peek.ident ts)) ||
    (Peek.word "const" ts && !(second (Peek.group .brace) ts || second (Peek.word "static") ts ||
      (second (Peek.word "async") ts && !third (Peek.words ["unsafe", "extern", "fn"]) ts) ||
      second (Peek.word "move") ts || second (Peek.punct "|") ts)) ||
    (Peek.word "unsafe" ts && !second (Peek.group .brace) ts) ||
    (Peek.word "async" ts && second (Peek.words ["unsafe", "extern", "fn"]) ts) ||
    (Peek.word "union" ts && second Peek.ident ts) ||
    (Peek.word "auto" ts && second (Peek.word "trait") ts) ||
    (Peek.word "default" ts && second (Peek.words ["unsafe", "impl"]) ts)

/-- Whether a run of tokens ends with a group in braces. -/
def endsWithBrace (ts : List Token) : Bool :=
  match ts.getLast? with
  | some (.group _ .brace _ _) => true
  | _ => false

/-- A declaration of local names. A block for the case that the pattern does not match may follow a
value that does not end with a brace itself. -/
def localDecl (g : Grammar) : Reader Unit := do
  word "let"
  let _ ← g.pattern
  if ← optPunct ":" then
    let _ ← g.type true
  if ← optPunct "=" then
    let start ← get
    let _ ← g.expr true
    if !endsWithBrace (consumed start (← get)) && (← optWord "else") then
      let _ ← g.block false
  punct ";"

/-- Whether an expression needs a semicolon before the next statement. -/
def needsSemicolon : Expr → Bool
  | .other _ .block | .other _ (.invocation .brace) => false
  | _ => true

/-- Whether an expression is a macro call that stands as a statement by itself. -/
def isMacroStmt (semicolon : Bool) : Expr → Bool
  | .other _ (.invocation d) => semicolon || d = .brace
  | _ => false

/-- One statement, and whether a semicolon is missing behind it. -/
def statement (g : Grammar) : Reader (Stmt × Bool) := do
  let start ← get
  let _ ← outerAttributes g
  let here ← get
  let asItem : Reader (Stmt × Bool) := do
    -- The attributes belong to the item, so it is read from before them.
    set start
    let _ ← g.item
    return (.other, false)
  match macroStmt here with
  | .item => asItem
  | .braced =>
    let _ ← plainPath
    let _ ← invocation
    let _ ← optPunct ";"
    return (.other, false)
  | .neither =>
    if Peek.word "let" here then
      localDecl g
      return (.other, false)
    if peekItem here then return ← asItem
    let e ← g.boundary
    let semicolon ← optPunct ";"
    -- A macro with a semicolon is a statement of its own and no expression.
    if isMacroStmt semicolon e then return (.other, false)
    return (.expr e, !semicolon && needsSemicolon e)

/-- The statements of a block. Only the last may lack its semicolon. -/
def statements (g : Grammar) : Reader (List Stmt) :=
  iterate (fun acc => do
    -- Empty statements are left out.
    if ← optPunct ";" then return .inl acc
    if ← sees Peek.done then return .inr acc.reverse
    let (stmt, pending) ← statement g
    let acc := stmt :: acc
    if ← sees Peek.done then return .inr acc.reverse
    if pending then failure
    return .inl acc) []

/-- The rule for blocks. -/
def blockRule (g : Grammar) (inner : Bool) : Reader (List Attribute × List Stmt) :=
  delimited .brace do
    let attributes ← if inner then innerAttributes g else pure []
    return (attributes, ← statements g)

/-! ### Functions -/

/-- The receiver of a method. -/
def receiver (g : Grammar) : Reader Unit := do
  let borrowed ← optPunct "&"
  if borrowed then
    let _ ← optional Peek.lifetime lifetime
  let _ ← optWord "mut"
  word "self"
  if !borrowed && (← optPunct ":") then
    let _ ← g.type true

/-- What a parameter list holds next: a parameter, or the dots that end it. -/
inductive ParamOrDots where
  | param (p : Param)
  | dots

/-- A parameter with its attributes. A type with angle brackets may stand without a pattern; its
first word is then taken for the pattern. -/
def functionParam (g : Grammar) : Reader ParamOrDots := do
  let start ← get
  let _ ← outerAttributes g
  let here ← get
  if Peek.punct "..." here then
    punct "..."
    return .dots
  -- A receiver is tried first; `self` could also begin a path.
  match receiver g here with
  | some ((), rest) =>
    set rest
    return .param (.receiver (← since start))
  | none =>
    if Peek.ident here && Peek.second (Peek.punct "<") here then
      let type ← g.type true
      -- As in a trait, where a parameter may have a type only.
      let pattern := Pattern.other (Token.excerptOf (here.take 1))
      return .param (.typed (← since start) pattern type)
    let pattern ← g.pattern
    punct ":"
    if ← optPunct "..." then return .dots
    let type ← g.type true
    return .param (.typed (← since start) pattern type)

def isReceiver : Param → Bool
  | .receiver _ => true
  | .typed .. => false

/-- The parameters of a function. Only the first may be a receiver; dots may come last. -/
def functionParams (g : Grammar) : Reader (List Param) :=
  iterate (fun acc => do
    if ← sees Peek.done then return .inr acc.reverse
    match ← functionParam g with
    | .dots =>
      let _ ← optPunct ","
      return .inr acc.reverse
    | .param p =>
      if isReceiver p && !acc.isEmpty then failure
      let acc := p :: acc
      if ← sees Peek.done then return .inr acc.reverse
      punct ","
      return .inl acc) []

/-- The words before `fn`. -/
def functionWords : Reader Unit := do
  let _ ← optWord "const"
  let _ ← optWord "async"
  let _ ← optWord "unsafe"
  let _ ← optional (Peek.word "extern") abi

/-- A function comes next, behind the words that may precede it. -/
def peekFunction (ts : List Token) : Bool :=
  match functionWords ts with
  | some (_, rest) => Peek.word "fn" rest
  | none => false

/-- The head of a function: its name and parameters. -/
def signature (g : Grammar) : Reader (Ident × List Param) := do
  functionWords
  word "fn"
  let name ← ident
  let _ ← generics g
  let params ← delimited .paren (functionParams g)
  returnType g true
  whereClause g
  return (name, params)

/-- A function, with its body or a semicolon in the place of it. -/
def function (g : Grammar) (attributes : List Attribute) : Reader Item := do
  let (name, params) ← signature g
  -- Without a body there is nothing to read a query from.
  if ← optPunct ";" then return .other
  let (inner, body) ← g.block true
  return .function ⟨attributes ++ inner, name, params, body⟩

/-! ### Records -/

/-- A named field. -/
def namedField (g : Grammar) : Reader Field := do
  let attributes ← outerAttributes g
  let vis ← visibility
  let unnamed ← sees (Peek.word "_")
  let name ← if unnamed then anyWord else ident
  punct ":"
  let start ← get
  let nested := Peek.word "struct" start ||
    (Peek.word "union" start && Peek.second (Peek.group .brace) start)
  if unnamed && nested then
    -- A record without a name of its own, which is kept as text.
    let _ ← anyWord
    expect (Peek.group .brace)
    let _ ← take
    return ⟨attributes, vis, name, .other (← since start)⟩
  return ⟨attributes, vis, name, ← g.type true⟩

def namedFields (g : Grammar) : Reader (List Field) := delimited .brace (terminated (namedField g))

/-- Fields in parentheses. -/
def unnamedFields (g : Grammar) : Reader Unit := do
  let _ ← delimited .paren <| terminated do
    let _ ← outerAttributes g
    let _ ← visibility
    g.type true

/-- The fields of a record and the conditions around them. -/
def recordBody (g : Grammar) : Reader Fields := do
  -- Conditions stand before braces, but behind parentheses.
  let conditioned ← sees (Peek.word "where")
  whereClause g
  if !conditioned && (← sees (Peek.group .paren)) then
    unnamedFields g
    whereClause g
    punct ";"
    return .unnamed
  if ← sees (Peek.group .brace) then return .named (← namedFields g)
  punct ";"
  return .unit

/-- A record behind its attributes and visibility. -/
def record (g : Grammar) (attributes : List Attribute) (vis : String) : Reader Struct := do
  word "struct"
  let name ← ident
  let params ← generics g
  return ⟨attributes, vis, name, params, ← recordBody g⟩

/-- One case of an enumeration. -/
def variant (g : Grammar) : Reader Unit := do
  let _ ← outerAttributes g
  let _ ← visibility
  let _ ← ident
  if ← sees (Peek.group .brace) then
    let _ ← namedFields g
  else if ← sees (Peek.group .paren) then unnamedFields g
  if ← optPunct "=" then
    let _ ← g.expr true

/-- An enumeration; its name and generic parameters. -/
def enumeration (g : Grammar) : Reader (Ident × Option Pos) := do
  word "enum"
  let name ← ident
  let params ← generics g
  whereClause g
  let _ ← delimited .brace (terminated (variant g))
  return (name, params)

/-- A union; its name and generic parameters. -/
def unionDecl (g : Grammar) : Reader (Ident × Option Pos) := do
  word "union"
  let name ← ident
  let params ← generics g
  whereClause g
  let _ ← namedFields g
  return (name, params)

/-! ### Imports -/

/-- A branch of a tree of imports; nothing if it begins with a double colon where that is
allowed. -/
def importBranch (g : Grammar) (root : Bool) : Reader (Option Unit) := do
  let rooted ← if root then optPunct "::" else pure false
  match ← g.importTree (root && !rooted) with
  | some _ => return if rooted then none else some ()
  | none => return none

/-- The rule for trees of imports; the first name of a tree that has one. -/
def importTreeRule (g : Grammar) (root : Bool) : Reader (Option (Option Ident)) := do
  if ← sees fun ts => Peek.ident ts || Peek.words ["self", "super", "crate", "try"] ts then
    let name ← anyWord
    if ← optPunct "::" then
      let _ ← g.importTree false
    else if ← optWord "as" then
      if !(← optWord "_") then
        let _ ← ident
    return some (some name)
  else if ← optPunct "*" then return some none
  else
    let branches ← delimited .brace (terminated (importBranch g root))
    -- A group imports several paths, so it has no first name.
    return if branches.all Option.isSome then some none else none

/-- An import. -/
def importDecl (g : Grammar) (start : List Token) : Reader Item := do
  word "use"
  let rooted ← optPunct "::"
  let tree ← g.importTree (!rooted)
  punct ";"
  match tree with
  | some name => return .use (← since start) name
  | none => return .other

/-! ### Statics, constants and aliases -/

/-- A static. One without a type or without a value is kept as text only. -/
def staticDecl (g : Grammar) : Reader Item := do
  word "static"
  let _ ← optWord "mut"
  let name ← ident
  if ← optPunct "=" then
    let _ ← g.expr true
    punct ";"
    return .other
  punct ":"
  let type ← g.type true
  if ← optPunct ";" then return .other
  punct "="
  let _ ← g.expr true
  punct ";"
  return .binding name type

/-- The name, parameters, type and value of a constant; whether it is a plain one with a value. -/
def constantDecl (g : Grammar) : Reader (Ident × TypeExpr × Bool) := do
  word "const"
  expect fun ts => Peek.ident ts || Peek.word "_" ts
  let name ← anyWord
  let parameterised ← sees (Peek.punct "<")
  let _ ← generics g
  punct ":"
  let type ← g.type true
  let valued ← optPunct "="
  if valued then
    let _ ← g.expr true
  let conditioned ← sees (Peek.word "where")
  whereClause g
  punct ";"
  return (name, type, valued && !parameterised && !conditioned)

/-- A type alias, an associated type, or a declaration of one. Conditions may stand before the
equals sign, and behind the type where `trailing` allows it. Bounds make it no alias. -/
def aliasDecl (g : Grammar) (trailing : Bool) : Reader (Ident × Option TypeExpr) := do
  word "type"
  let name ← ident
  let _ ← generics g
  let bounded ← optPunct ":"
  if bounded then
    let ends := fun ts => Peek.word "where" ts || Peek.puncts ["=", ";"] ts
    let _ ← joined ends (g.bound false true)
  if !trailing then whereClause g
  let type ← if ← optPunct "=" then some <$> g.type true else pure none
  if trailing then whereClause g
  punct ";"
  -- Bounds are accepted here, but then it is no alias.
  return (name, if bounded then none else type)

/-! ### Modules, traits and implementations -/

/-- A macro call as an item; the name it declares may stand between its mark and its input. -/
def macroItem : Reader Unit := do
  let _ ← plainPath
  punct "!"
  if ← sees (Peek.word "try") then
    let _ ← anyWord
  else
    let _ ← optional Peek.ident ident
  let (d, _) ← anyGroup
  -- Braces end the item.
  if d ≠ .brace then punct ";"

/-- A macro call comes next, in the place of an item. -/
def peekMacroItem (ts : List Token) : Bool :=
  Peek.ident ts || Peek.words ["self", "super", "crate"] ts || Peek.punct "::" ts

/-- Items in braces, with the attributes of what encloses them at their head. -/
def itemsIn {α : Type} (g : Grammar) (item : Reader α) : Reader Unit :=
  delimited .brace do
    let _ ← innerAttributes g
    let _ ← manyUntil Peek.done item

/-- A module, inline or in a file of its own. -/
def moduleDecl (g : Grammar) : Reader Unit := do
  let _ ← optWord "unsafe"
  word "mod"
  if ← sees (Peek.word "try") then
    let _ ← anyWord
  else
    let _ ← ident
  if !(← optPunct ";") then itemsIn g g.item

/-- An item of a block of foreign declarations. -/
def foreignItem (g : Grammar) : Reader Unit := do
  let _ ← outerAttributes g
  let vis ← visibility
  if ← sees peekFunction then
    let _ ← signature g
    if !(← optPunct ";") then
      let _ ← g.block true
  else if ← optWord "static" then
    let _ ← optWord "mut"
    let _ ← ident
    punct ":"
    let _ ← g.type true
    if ← optPunct "=" then
      let _ ← g.expr true
    punct ";"
  else if ← sees (Peek.word "type") then
    let _ ← aliasDecl g true
  else if vis == "" && (← sees peekMacroItem) then macroItem
  else failure

/-- A block of foreign declarations. -/
def foreignBlock (g : Grammar) : Reader Unit := do
  let _ ← optWord "unsafe"
  abi
  itemsIn g (foreignItem g)

/-- A use of another crate. -/
def externCrate : Reader Unit := do
  word "extern"
  word "crate"
  if ← sees (Peek.word "self") then
    let _ ← anyWord
  else
    let _ ← ident
  if ← optWord "as" then
    if !(← optWord "_") then
      let _ ← ident
  punct ";"

/-- An item of a trait or an implementation; `inTrait` says which. Only there may a function lack
its body in silence, and only in an implementation may `default` stand before a macro's mark. -/
def memberItem (g : Grammar) (inTrait : Bool) : Reader Unit := do
  let _ ← outerAttributes g
  let vis ← visibility
  let specialised ← sees fun ts =>
    Peek.word "default" ts && (inTrait || !Peek.second (Peek.punct "!") ts)
  if specialised then word "default"
  if ← sees peekFunction then
    let _ ← signature g
    if !(← optPunct ";") then
      let _ ← g.block true
  else if ← sees (Peek.word "const") then
    let _ ← constantDecl g
  else if ← sees (Peek.word "type") then
    let _ ← aliasDecl g true
  else if vis == "" && !specialised && (← sees peekMacroItem) then macroItem
  else failure

/-- Bounds with plus signs between them, until a test holds. -/
def boundsUntil (g : Grammar) (stop : List Token → Bool) : Reader Unit := do
  let _ ← separated stop "+" (g.bound false true)

/-- A trait, or another name for bounds. -/
def traitDecl (g : Grammar) : Reader Unit := do
  let isUnsafe ← optWord "unsafe"
  let auto ← optWord "auto"
  word "trait"
  let _ ← ident
  let _ ← generics g
  -- Another name for bounds cannot be unsafe or automatic.
  if !isUnsafe && !auto && (← optPunct "=") then
    boundsUntil g fun ts => Peek.word "where" ts || Peek.punct ";" ts
    whereClause g
    punct ";"
  else
    if ← optPunct ":" then boundsUntil g fun ts => Peek.word "where" ts || Peek.group .brace ts
    whereClause g
    itemsIn g (memberItem g true)

/-- Angle brackets behind `impl` hold generic parameters rather than a qualified path. -/
def peekGenerics (ts : List Token) : Bool :=
  Peek.punct "<" ts &&
    (Peek.second (Peek.puncts [">", "#"]) ts || Peek.second (Peek.word "const") ts ||
      ((Peek.second Peek.lifetime ts || Peek.second Peek.ident ts) &&
        (Peek.third (Peek.puncts [">", ",", "="]) ts || Peek.third Peek.colon ts)))

/-- An implementation. -/
def implDecl (g : Grammar) : Reader Unit := do
  let _ ← optWord "default"
  let _ ← optWord "unsafe"
  word "impl"
  if ← sees peekGenerics then
    let _ ← generics g
  if ← sees fun ts => Peek.word "const" ts ||
      (Peek.punct "?" ts && Peek.second (Peek.word "const") ts) then
    let _ ← optPunct "?"
    word "const"
  if ← sees fun ts => Peek.punct "!" ts && !Peek.second (Peek.group .brace) ts then punct "!"
  let _ ← g.type true
  if ← optWord "for" then
    let _ ← g.type true
  whereClause g
  itemsIn g (memberItem g false)

/-- A macro declared by rules of its own. -/
def macroDecl : Reader Unit := do
  word "macro"
  let _ ← ident
  if ← sees (Peek.group .paren) then
    let _ ← take
  expect (Peek.group .brace)
  let _ ← take

/-! ### Items -/

/-- The rule for items. -/
def itemRule (g : Grammar) : Reader Item := do
  let start ← get
  let attributes ← outerAttributes g
  let vis ← visibility
  let other (p : Reader Unit) : Reader Item := do
    p
    return .other
  let second := Peek.second
  if ← sees peekFunction then function g attributes
  else if ← sees fun ts => Peek.word "extern" ts && second (Peek.word "crate") ts then
    other externCrate
  else if ← sees (Peek.word "extern") then other (foreignBlock g)
  else if ← sees (Peek.word "use") then importDecl g start
  else if ← sees (Peek.word "static") then staticDecl g
  else if ← sees (Peek.word "const") then
    let (name, type, isPlain) ← constantDecl g
    return if isPlain then .binding name type else .other
  else if ← sees (Peek.word "unsafe") then
    if ← sees fun ts => second (Peek.words ["trait", "auto"]) ts then other (traitDecl g)
    else if ← sees (second (Peek.word "impl")) then other (implDecl g)
    else if ← sees (second (Peek.word "extern")) then other (foreignBlock g)
    -- What is left behind `unsafe` is a module; functions have been tried.
    else other (moduleDecl g)
  else if ← sees (Peek.word "mod") then other (moduleDecl g)
  else if ← sees (Peek.word "type") then
    match ← aliasDecl g false with
    | (name, some type) => return .alias (← since start) name type
    | (_, none) => return .other
  else if ← sees (Peek.word "struct") then return .struct (← record g attributes vis)
  else if ← sees (Peek.word "enum") then other (discard (enumeration g))
  else if ← sees fun ts => Peek.word "union" ts && second Peek.ident ts then
    other (discard (unionDecl g))
  else if ← sees fun ts => Peek.word "trait" ts ||
      (Peek.word "auto" ts && second (Peek.word "trait") ts) then
    other (traitDecl g)
  else if ← sees fun ts => Peek.word "impl" ts ||
      (Peek.word "default" ts && !second (Peek.punct "!") ts) then
    other (implDecl g)
  else if ← sees (Peek.word "macro") then other macroDecl
  else if vis == "" && (← sees peekMacroItem) then other macroItem
  else failure

end QueryCompiler.Host.Grammar
