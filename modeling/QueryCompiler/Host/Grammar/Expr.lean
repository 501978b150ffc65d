import QueryCompiler.Host.Grammar.Pattern

/-!
# Rules for expressions

Operators are read by climbing: an operand is extended by operators of falling strength. `Level`
names the strengths; comparisons do not chain, assignments group to the right.
-/

namespace QueryCompiler.Host

open Text Reader

/-! ### Operators -/

namespace Level

def weakest : Nat := 0
def assign : Nat := 1
def range : Nat := 2
def compare : Nat := 6
def cast : Nat := 13

end Level

namespace BinaryOp

/-- How tightly an operator binds. -/
def level : BinaryOp → Nat
  | .addAssign | .subAssign | .mulAssign | .divAssign | .remAssign | .bitXorAssign | .bitAndAssign
  | .bitOrAssign | .shlAssign | .shrAssign => Level.assign
  | .or => 3
  | .and => 4
  | .eq | .lt | .le | .ne | .ge | .gt => Level.compare
  | .bitOr => 7
  | .bitXor => 8
  | .bitAnd => 9
  | .shl | .shr => 10
  | .add | .sub => 11
  | .mul | .div | .rem => 12

/-- The spellings of the operators; of two that begin alike the longer comes first. -/
def spellings : List (String × BinaryOp) :=
  [("+=", .addAssign), ("-=", .subAssign), ("*=", .mulAssign), ("/=", .divAssign),
    ("%=", .remAssign), ("^=", .bitXorAssign), ("&=", .bitAndAssign), ("|=", .bitOrAssign),
    ("<<=", .shlAssign), (">>=", .shrAssign), ("&&", .and), ("||", .or), ("<<", .shl),
    (">>", .shr), ("==", .eq), ("<=", .le), ("!=", .ne), (">=", .ge), ("+", .add), ("-", .sub),
    ("*", .mul), ("/", .div), ("%", .rem), ("^", .bitXor), ("&", .bitAnd), ("|", .bitOr),
    ("<", .lt), (">", .gt)]

end BinaryOp

namespace Grammar

def peekOperator (ts : List Token) : Option (String × BinaryOp) :=
  BinaryOp.spellings.find? fun (p, _) => Peek.punct p ts

/-- An equals sign comes next that begins no arrow. -/
def peekAssign (ts : List Token) : Bool := Peek.punct "=" ts && !Peek.punct "=>" ts

/-- How tightly what comes next binds, if it extends an operand. -/
def peekLevel (ts : List Token) : Nat :=
  match peekOperator ts with
  | some (_, op) => op.level
  | none =>
    if peekAssign ts then Level.assign
    -- Three dots as well: they are refused later, where they are taken.
    else if Peek.punct ".." ts then Level.range
    else if Peek.word "as" ts then Level.cast
    else Level.weakest

def isRange : Expr → Bool
  | .other _ .range => true
  | _ => false

def isComparison : Expr → Bool
  | .binary _ op _ _ _ => op.level == Level.compare
  | _ => false

/-- Whether an expression ends with its own block, so that a statement may end there. -/
def isBlock : Expr → Bool
  | .other _ .block => true
  | _ => false

/-- The remaining expressions that begin at `start`. -/
def plain (start : List Token) : Reader Expr := do return .other (← since start) .plain

/-! ### Blocks, loops and branches -/

/-- A block with the keyword before it, which is an expression by itself. -/
def blockExpr (start : List Token) (p : Reader Unit) : Reader Expr := do
  p
  return .other (← since start) .block

/-- Branches, each behind its condition. -/
def branches (g : Grammar) : Reader Unit :=
  iterate (fun () => do
    word "if"
    -- No records in a condition: the brace behind it opens the block.
    let _ ← g.expr false
    let _ ← g.block false
    if !(← optWord "else") then return .inr ()
    if ← sees (Peek.word "if") then return .inl ()
    let _ ← g.block false
    return .inr ()) ()

/-- A loop under a condition. -/
def whileLoop (g : Grammar) : Reader Unit := do
  word "while"
  let _ ← g.expr false
  let _ ← g.block true

/-- A loop over the values of an expression. -/
def forLoop (g : Grammar) : Reader Unit := do
  word "for"
  let _ ← alternatives g
  word "in"
  let _ ← g.expr false
  let _ ← g.block true

def endlessLoop (g : Grammar) : Reader Unit := do
  word "loop"
  let _ ← g.block true

/-- A loop or block behind a label. -/
def labelled (g : Grammar) : Reader Unit := do
  label
  if ← sees (Peek.word "while") then whileLoop g
  else if ← sees (Peek.word "for") then forLoop g
  else if ← sees (Peek.word "loop") then endlessLoop g
  else
    let _ ← g.block true

def wordBlock (g : Grammar) (w : String) (inner : Bool) : Reader Unit := do
  word w
  let _ ← g.block inner

/-! ### Atoms -/

/-- An expression may come next, in the place where one may also be missing. -/
def peekExpr (ts : List Token) : Bool :=
  (Peek.anyWord ts && !Peek.word "as" ts) || Peek.group .paren ts || Peek.group .bracket ts ||
    Peek.group .brace ts || Peek.literal ts ||
    (Peek.punct "!" ts && !Peek.punct "!=" ts) ||
    (Peek.punct "-" ts && !Peek.puncts ["-=", "->"] ts) ||
    (Peek.punct "*" ts && !Peek.punct "*=" ts) ||
    (Peek.punct "|" ts && !Peek.punct "|=" ts) ||
    (Peek.punct "&" ts && !Peek.punct "&=" ts) ||
    Peek.punct ".." ts ||
    (Peek.punct "<" ts && !Peek.puncts ["<=", "<<="] ts) ||
    Peek.punct "::" ts || Peek.lifetime ts || Peek.attr ts

/-- A parameter of a closure. -/
def closureParam (g : Grammar) : Reader Unit := do
  let _ ← outerAttributes g
  let _ ← g.pattern
  if ← optPunct ":" then
    let _ ← g.type true

/-- A closure. -/
def closure (g : Grammar) (braces : Bool) : Reader Unit := do
  let _ ← optional (Peek.word "for") (boundLifetimes g)
  let _ ← optWord "const"
  let _ ← optWord "static"
  let _ ← optWord "async"
  let _ ← optWord "move"
  punct "|"
  let _ ← separated (Peek.punct "|") "," (closureParam g)
  punct "|"
  -- A closure that says what it returns needs a block.
  if ← optPunct "->" then
    let _ ← g.type true
    let _ ← g.block false
  else
    let _ ← g.expr braces

/-- A closure comes next. -/
def peekClosure (ts : List Token) : Bool :=
  Peek.punct "|" ts || Peek.word "move" ts || Peek.word "static" ts ||
    (Peek.word "for" ts && Peek.second (Peek.punct "<") ts &&
      -- As against a loop whose pattern begins with a qualified path.
      (Peek.third Peek.lifetime ts || Peek.third (Peek.punct ">") ts)) ||
    (Peek.word "const" ts && !Peek.second (Peek.group .brace) ts) ||
    (Peek.word "async" ts && (Peek.second (Peek.punct "|") ts || Peek.second (Peek.word "move") ts))

/-- A field of a record expression. -/
def fieldValue (g : Grammar) : Reader Unit := do
  let _ ← outerAttributes g
  match ← member with
  | .named _ =>
    if ← optPunct ":" then
      let _ ← g.expr true
  | .index =>
    punct ":"
    let _ ← g.expr true

/-- The fields of a record expression; two dots and an expression may come last. -/
def fieldValues (g : Grammar) : Reader Unit :=
  iterate (fun () => do
    if ← sees Peek.done then return .inr ()
    if ← optPunct ".." then
      -- Two dots alone stand for the fields that are left.
      if !(← sees Peek.done) then
        let _ ← g.expr true
      return .inr ()
    fieldValue g
    if ← sees Peek.done then return .inr ()
    punct ","
    return .inl ()) ()

/-- An atom that begins with a path: the path, a macro call, or a record. -/
def pathExpr (g : Grammar) (start : List Token) (braces : Bool) : Reader Expr := do
  let (qualified, p) ← qualifiedPath g true
  let calls := fun ts => Peek.punct "!" ts && !Peek.punct "!=" ts
  if !qualified && p.isPlain && (← sees calls) then
    let d ← invocation
    return .other (← since start) (.invocation d)
  -- Where braces are not allowed they belong to the statement around it.
  if braces && (← sees (Peek.group .brace)) then
    delimited .brace (fieldValues g)
    return ← plain start
  return .path (← since start) qualified p

/-- What parentheses enclose: the expressions, and whether a comma came last. -/
def parenthesized (g : Grammar) : Reader (List Expr × Bool) :=
  iterate (fun (acc, comma) => do
    if ← sees Peek.done then return .inr (acc.reverse, comma)
    let acc := (← g.expr true) :: acc
    if ← sees Peek.done then return .inr (acc.reverse, false)
    punct ","
    return .inl (acc, true)) ([], false)

/-- An expression in parentheses, or a tuple. -/
def parenExpr (g : Grammar) (start : List Token) : Reader Expr := do
  match ← delimited .paren (parenthesized g) with
  -- One expression and a comma is a tuple.
  | ([e], false) => return .paren (← since start) e
  | (es, _) => return .tuple (← since start) es

/-- The elements of an array, or an element and a count. -/
def arrayContent (g : Grammar) : Reader Unit := do
  if ← sees Peek.done then return
  let _ ← g.expr true
  if ← optPunct ";" then
    let _ ← g.expr true
  else if !(← sees Peek.done) then
    punct ","
    let _ ← terminated (g.expr true)

/-- A branch of a match. Only a body that ends with its own block needs no comma behind it. -/
def matchArm (g : Grammar) : Reader Unit := do
  let _ ← outerAttributes g
  let _ ← alternatives g
  if ← optWord "if" then
    let _ ← g.expr true
  punct "=>"
  let e ← g.boundary
  if isBlock e || (← sees Peek.done) then
    let _ ← optPunct ","
  else punct ","

/-- A match. -/
def matchExpr (g : Grammar) : Reader Unit := do
  word "match"
  let _ ← g.expr false
  delimited .brace do
    let _ ← innerAttributes g
    let _ ← manyUntil Peek.done (matchArm g)

/-- The right end of a range is missing here. -/
def peekRangeEnd (braces : Bool) (ts : List Token) : Bool :=
  Peek.done ts || Peek.puncts [",", ";", "?", "=>", "=", "+", "/", "%", "^", ">", "<=", "!=", "-=",
    "*=", "&=", "|=", "<<="] ts || Peek.point ts || (!braces && Peek.group .brace ts) ||
    Peek.word "as" ts

/-- The operand behind an operator of strength `level`. -/
def operandAfter (g : Grammar) (braces : Bool) (level : Nat) : Reader Expr := do
  let start ← get
  let first ← g.unary braces
  iterate (fun rhs => do
    let here ← get
    let next := peekLevel here
    if level < next || (next == level && level == Level.assign) then
      let longer ← g.climb start rhs braces next
      -- A range is not extended; then this is the end.
      if (← get).length < here.length then return .inl longer
      return .inr longer
    return .inr rhs) first

/-- The rest of a range behind its dots. -/
def rangeEnd (g : Grammar) (kind : Limits) (braces : Bool) : Reader Unit := do
  if kind = .halfOpen && (← sees (peekRangeEnd braces)) then return
  let _ ← operandAfter g braces Level.range

/-- A jump out of a loop, perhaps with a label and a value. -/
def breakExpr (g : Grammar) (braces : Bool) : Reader Unit := do
  word "break"
  if ← sees Peek.lifetime then
    lifetime
    -- A label of a loop behind `break` would have to be in parentheses.
    if ← sees (Peek.punct ":") then failure
  if ← sees fun ts => peekExpr ts && (braces || !Peek.group .brace ts) then
    let _ ← g.expr true

/-- A word with an expression behind it, where one comes. -/
def wordExpr (g : Grammar) (w : String) : Reader Unit := do
  word w
  if ← sees peekExpr then
    let _ ← g.expr true

/-- A condition that binds names. -/
def letExpr (g : Grammar) (braces : Bool) : Reader Unit := do
  word "let"
  let _ ← alternatives g
  punct "="
  let start ← get
  let e ← g.unary braces
  -- `&&` behind the value joins conditions.
  let _ ← g.climb start e braces Level.compare

/-- An atom that begins with a word other than a path. -/
def wordAtom (g : Grammar) (start : List Token) (braces : Bool) : Reader Expr := do
  let plainAfter (p : Reader Unit) : Reader Expr := do
    p
    plain start
  if ← sees (Peek.word "break") then plainAfter (breakExpr g braces)
  else if ← sees (Peek.word "continue") then plainAfter do
    word "continue"
    let _ ← optional Peek.lifetime lifetime
  else if ← sees (Peek.word "return") then plainAfter (wordExpr g "return")
  else if ← sees (Peek.word "become") then plainAfter do
    word "become"
    let _ ← g.expr true
  else if ← sees (Peek.word "let") then plainAfter (letExpr g braces)
  else if ← sees (Peek.word "if") then blockExpr start (branches g)
  else if ← sees (Peek.word "while") then blockExpr start (whileLoop g)
  else if ← sees (Peek.word "for") then blockExpr start (forLoop g)
  else if ← sees (Peek.word "loop") then blockExpr start (endlessLoop g)
  else if ← sees (Peek.word "match") then blockExpr start (matchExpr g)
  else if ← sees (Peek.word "yield") then plainAfter (wordExpr g "yield")
  else if ← sees (Peek.word "unsafe") then blockExpr start (wordBlock g "unsafe" true)
  else if ← sees (Peek.word "const") then blockExpr start (wordBlock g "const" true)
  else if ← sees (Peek.word "_") then plainAfter (word "_")
  else failure

def peekPath (ts : List Token) : Bool :=
  Peek.ident ts || Peek.puncts ["::", "<"] ts || Peek.words ["self", "Self", "super", "crate"] ts ||
    (Peek.word "try" ts && Peek.second (Peek.puncts ["!", "::"]) ts)

/-- An expression without operators and without what may follow it. -/
def atom (g : Grammar) (start : List Token) (braces : Bool) : Reader Expr := do
  if ← sees Peek.literal then
    let value ← literal
    return .lit (← since start) value
  else if ← sees fun ts => Peek.word "async" ts && (Peek.second (Peek.group .brace) ts ||
      (Peek.second (Peek.word "move") ts && Peek.third (Peek.group .brace) ts)) then
    word "async"
    let _ ← optWord "move"
    let _ ← g.block false
    plain start
  else if ← sees fun ts => Peek.word "try" ts && Peek.second (Peek.group .brace) ts then
    blockExpr start (wordBlock g "try" false)
  else if ← sees peekClosure then
    closure g braces
    plain start
  else if ← sees fun ts => Peek.word "builtin" ts && Peek.second (Peek.punct "#") ts then
    word "builtin"
    punct "#"
    let _ ← ident
    expect (Peek.group .paren)
    let _ ← take
    plain start
  else if ← sees peekPath then pathExpr g start braces
  else if ← sees (Peek.group .paren) then parenExpr g start
  else if ← sees (Peek.group .bracket) then
    delimited .bracket (arrayContent g)
    plain start
  else if ← sees (Peek.group .brace) then
    blockExpr start do
      let _ ← g.block true
  else if ← sees (Peek.punct "..") then
    rangeEnd g (← limits false) braces
    return .other (← since start) .range
  else if ← sees Peek.lifetime then blockExpr start (labelled g)
  else wordAtom g start braces

/-! ### What follows an atom -/

/-- The fields that a number with a point selects one after the other: `a.0.1`. The tokens up to the
number give the text before each of them. -/
def indexFields (e : Expr) (before : Excerpt) (gap : String) (done : String) :
    List (List Char) → Option Expr
  | [] => some e
  | part :: parts =>
    let index? := match Number.ofNumeral? false part with
      | some (.int digits "") => digits.toNat?.any (· < UInt32.size)
      | _ => false
    if index? then
      let done := done ++ String.ofList part
      let src : Excerpt := ⟨before.pos, before.text ++ gap ++ done⟩
      indexFields (.field src e .index) before gap (done ++ ".") parts
    else none

/-- A selection behind a point: a field, a method call, or a wait. -/
def selection (g : Grammar) (start : List Token) (e : Expr) : Reader Expr := do
  if ← optWord "await" then return ← plain start
  let m ← member
  match m with
  | .named method =>
    let turbofish ← optional (Peek.punct "::") do
      punct "::"
      angleArguments g
    if turbofish.isSome || (← sees (Peek.group .paren)) then
      let args ← delimited .paren (terminated (g.expr true))
      return .methodCall (← since start) e method args
    return .field (← since start) e m
  | .index => return .field (← since start) e m

/-- The parts of a number with points, without an empty part behind a last point. -/
def pointParts (text : String) : List (List Char) × Bool :=
  let parts := text.toList.splitOn '.'
  match parts.reverse with
  | [] :: before => (before.reverse, true)
  | _ => (parts, false)

/-- What may follow an atom that begins at `start`: arguments, selections, indices, question
marks. -/
def trailers (g : Grammar) (start : List Token) (e : Expr) : Reader Expr :=
  iterate (fun e => do
    if ← sees (Peek.group .paren) then
      let args ← delimited .paren (terminated (g.expr true))
      return .inl (.call (← since start) e args)
    else if !isRange e && (← sees Peek.point) then
      punct "."
      match ← get with
      | .literal lead text (.float ..) :: rest =>
        let before ← since start
        let (parts, dangling) := pointParts text
        match indexFields e before lead.gap "" parts with
        | none => failure
        | some inner =>
          set rest
          -- `a.0. b`: before a blank the point belongs to the number.
          if dangling then return .inl (← selection g start inner)
          return .inl inner
      | _ => return .inl (← selection g start e)
    else if ← sees (Peek.group .bracket) then
      let _ ← delimited .bracket (g.expr true)
      return .inl (← plain start)
    else if !isRange e && (← sees (Peek.punct "?")) then
      punct "?"
      return .inl (← plain start)
    else return .inr e) e

/-! ### Operands and operators -/

/-- A reference to an operand. -/
def reference (g : Grammar) (braces : Bool) : Reader Unit := do
  punct "&"
  let raw ← sees fun ts => Peek.word "raw" ts && Peek.second (Peek.words ["mut", "const"]) ts
  if raw then word "raw"
  let mutable ← optWord "mut"
  if raw && !mutable then word "const"
  let _ ← g.unary braces

/-- The sign before an operand. -/
def unaryOp : Reader UnaryOp := do
  if ← optPunct "*" then return .deref
  if ← optPunct "!" then return .not
  punct "-"
  return .neg

/-- The rule for operands. Attributes before an operand belong to all of it; before a range without
a left end there may be none. -/
def unaryRule (g : Grammar) (braces : Bool) : Reader Expr := do
  let start ← get
  let attributes ← outerAttributes g
  if ← sees (Peek.punct "&") then
    reference g braces
    plain start
  else if ← sees (Peek.puncts ["*", "!", "-"]) then
    let op ← unaryOp
    let operand ← g.unary braces
    return .unary (← since start) op operand
  else
    let inner ← get
    let e ← trailers g inner (← atom g inner braces)
    if attributes.isEmpty then return e
    if isRange e then failure
    return e.withSrc (← since start)

/-- Nothing may follow the type of a conversion that would select from it. -/
def peekAfterCast (ts : List Token) : Bool :=
  Peek.point ts || Peek.punct "?" ts || Peek.group .bracket ts || Peek.group .paren ts

/-- The rule that extends an operand by operators at least as strong as `base`. -/
def climbRule (g : Grammar) (start : List Token) (operand : Expr) (braces : Bool) (base : Nat) :
    Reader Expr :=
  iterate (fun lhs => do
    let here ← get
    if isRange lhs then return .inr lhs
    match peekOperator here with
    | some (spelling, op) =>
      if op.level < base then return .inr lhs
      -- `a < b < c`
      if op.level == Level.compare && isComparison lhs then failure
      punct spelling
      let opSrc ← since here
      let rhs ← operandAfter g braces op.level
      return .inl (.binary (← since start) op opSrc lhs rhs)
    | none =>
      if base ≤ Level.assign && peekAssign here then
        punct "="
        let _ ← operandAfter g braces Level.assign
        return .inl (← plain start)
      else if base ≤ Level.range && Peek.punct ".." here then
        rangeEnd g (← limits false) braces
        return .inl (.other (← since start) .range)
      else if base ≤ Level.cast && Peek.word "as" here then
        word "as"
        let _ ← g.type false
        -- `a as T.b` would select from the type.
        if ← sees peekAfterCast then failure
        return .inl (← plain start)
      else return .inr lhs) operand

/-- The rule for expressions. -/
def exprRule (g : Grammar) (braces : Bool) : Reader Expr := do
  let start ← get
  let e ← unaryRule g braces
  climbRule g start e braces Level.weakest

/-- An expression that ends with its own block comes next. -/
def peekBlock (ts : List Token) : Bool :=
  Peek.words ["if", "while", "loop", "match", "unsafe"] ts ||
    (Peek.word "for" ts && !(Peek.second (Peek.punct "<") ts &&
      (Peek.third Peek.lifetime ts || Peek.third (Peek.punct ">") ts))) ||
    (Peek.word "try" ts && Peek.second (Peek.group .brace) ts) ||
    (Peek.word "const" ts && Peek.second (Peek.group .brace) ts) ||
    Peek.group .brace ts || Peek.lifetime ts

/-- The rule for an expression that ends where a statement may end: one with its own block takes in
operators only behind a selection. -/
def boundaryRule (g : Grammar) : Reader Expr := do
  let start ← get
  let _ ← outerAttributes g
  let inner ← get
  -- One with its own block is read without what follows it: a statement may end there.
  let e ← if peekBlock inner then atom g inner true else unaryRule g true
  if !isBlock e then climbRule g start e true Level.weakest
  else if ← sees fun ts => Peek.point ts || Peek.punct "?" ts then
    climbRule g start (← trailers g inner e) true Level.weakest
  else return e

end Grammar

end QueryCompiler.Host
