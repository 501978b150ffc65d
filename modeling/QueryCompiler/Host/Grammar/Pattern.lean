import QueryCompiler.Host.Grammar.Type

/-!
# Rules for patterns
-/

namespace QueryCompiler.Host.Grammar

open Text Reader

/-- A named or numbered field. A number has no suffix and fits into 32 bits. -/
def member : Reader Member := do
  if ← sees Peek.ident then return .named (← ident)
  match ← take with
  | .literal _ _ (.int digits "") =>
    if digits.toNat?.any (· < UInt32.size) then return .index else failure
  | _ => failure

def peekBar (ts : List Token) : Bool := Peek.punct "|" ts && !Peek.puncts ["||", "|="] ts

/-- Patterns with bars between them; one bar may come first. A single pattern is kept as it is. -/
def alternatives (g : Grammar) : Reader Pattern := do
  let start ← get
  let leading ← optPunct "|"
  let first ← g.pattern
  let more ← manyUntil (fun ts => !peekBar ts) do
    punct "|"
    g.pattern
  if leading || !more.isEmpty then return .other (← since start)
  return first

/-- A range without an upper end, or with one, or one whose end has to come. -/
inductive Limits where
  | halfOpen
  | closed
deriving DecidableEq

/-- The dots of a range; three dots count as closed where `obsolete` allows them. -/
def limits (obsolete : Bool) : Reader Limits := do
  if ← optPunct "..=" then return .closed
  if ← sees (Peek.punct "...") then
    if obsolete then
      punct "..."
      return .closed
    failure
  punct ".."
  return .halfOpen

/-- The end of a range in a pattern, where there is one; says whether there is. -/
def rangeBound (g : Grammar) : Reader Bool := do
  -- What may follow a pattern.
  let absent := fun ts => Peek.done ts || Peek.puncts ["|", "=", ",", ";"] ts || Peek.colon ts ||
    Peek.word "if" ts
  if ← sees absent then return false
  if ← sees Peek.literal then
    let _ ← literal
  else if ← sees fun ts => Peek.ident ts || Peek.puncts ["::", "<"] ts ||
      Peek.words ["self", "Self", "super", "crate"] ts then
    let _ ← qualifiedPath g true
  else
    word "const"
    let _ ← g.block true
  return true

/-- The rest of a range whose start has been read. -/
def rangeAfterStart (g : Grammar) (start : List Token) : Reader Pattern := do
  let kind ← limits true
  let hasEnd ← rangeBound g
  if hasEnd then return .other (← since start)
  -- A closed range needs its end.
  if kind = .closed then failure
  return .openRange (← since start)

/-- A field of a record pattern. -/
def fieldPattern (g : Grammar) : Reader Unit := do
  let boxed ← optWord "box"
  let byRef ← optWord "ref"
  let mutable ← optWord "mut"
  -- With one of these words the field has no pattern of its own.
  if boxed || byRef || mutable then
    let _ ← ident
  else
    match ← member with
    | .named _ =>
      if ← optPunct ":" then
        let _ ← alternatives g
    | .index =>
      punct ":"
      let _ ← alternatives g

/-- The fields of a record pattern; two dots may come last. -/
def fieldPatterns (g : Grammar) : Reader Unit :=
  iterate (fun () => do
    if ← sees Peek.done then return .inr ()
    let _ ← outerAttributes g
    if ← optPunct ".." then return .inr ()
    fieldPattern g
    if ← sees Peek.done then return .inr ()
    punct ","
    return .inl ()) ()

/-- A pattern that begins with a path. -/
def pathPattern (g : Grammar) (start : List Token) : Reader Pattern := do
  let (qualified, p) ← qualifiedPath g true
  -- `a != b` compares.
  let calls := fun ts => Peek.punct "!" ts && !Peek.punct "!=" ts
  if !qualified && p.isPlain && (← sees calls) then
    let _ ← invocation
    return .other (← since start)
  if ← sees (Peek.group .brace) then
    delimited .brace (fieldPatterns g)
    return .other (← since start)
  if ← sees (Peek.group .paren) then
    let _ ← delimited .paren (terminated (alternatives g))
    return .other (← since start)
  if ← sees (Peek.punct "..") then return ← rangeAfterStart g start
  return .other (← since start)

/-- A name, perhaps taken by reference, perhaps bound beside a further pattern. -/
def namePattern (g : Grammar) (start : List Token) : Reader Pattern := do
  let byRef ← optWord "ref"
  let _ ← optWord "mut"
  let name ← if ← sees (Peek.word "self") then anyWord else ident
  let hasSub ← optPunct "@"
  if hasSub then
    let _ ← g.pattern
  return .name (← since start) name byRef hasSub

def isOpenRange : Pattern → Bool
  | .openRange _ => true
  | _ => false

/-- The patterns of a slice, none of them an open range. -/
def slicePatterns (g : Grammar) : Reader Unit := do
  let _ ← terminated do
    if isOpenRange (← alternatives g) then failure

/-- A pattern that begins with a path comes next. -/
def peekPathPattern (ts : List Token) : Bool :=
  (Peek.ident ts &&
    (Peek.second (Peek.puncts ["::", "!", ".."]) ts || Peek.second (Peek.group .brace) ts ||
      Peek.second (Peek.group .paren) ts)) ||
    (Peek.word "self" ts && Peek.second (Peek.punct "::") ts) ||
    Peek.puncts ["::", "<"] ts || Peek.words ["Self", "super", "crate"] ts

/-- The rule for a pattern without bars. -/
def patternRule (g : Grammar) : Reader Pattern := do
  let start ← get
  let other : Reader Pattern := do return .other (← since start)
  if ← sees peekPathPattern then pathPattern g start
  else if ← optWord "_" then other
  else if ← optWord "box" then
    let _ ← g.pattern
    other
  else if ← sees fun ts => Peek.punct "-" ts || Peek.literal ts || Peek.word "const" ts then
    -- The start of a range is read by the rule for its end.
    if !(← rangeBound g) then failure
    if ← sees (Peek.punct "..") then rangeAfterStart g start else other
  else if ← sees fun ts => Peek.words ["ref", "mut", "self"] ts || Peek.ident ts then
    namePattern g start
  else if ← optPunct "&" then
    let _ ← optWord "mut"
    let _ ← g.pattern
    other
  else if ← sees (Peek.group .paren) then
    let _ ← delimited .paren (terminated (alternatives g))
    other
  else if ← sees (Peek.group .bracket) then
    delimited .bracket (slicePatterns g)
    other
  else if ← sees fun ts => Peek.punct ".." ts && !Peek.punct "..." ts then
    let kind ← limits false
    if ← rangeBound g then return .openRange (← since start)
    if kind = .closed then failure
    return .rest (← since start)
  else failure

end QueryCompiler.Host.Grammar
