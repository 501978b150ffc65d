import QueryCompiler.Host.Grammar.Item

/-!
# Reading the host language

The rules of the grammar are tied together here. A rule goes to a deeper level only behind a token
it has taken, or inside a group, but for a few steps from one kind of node to the next; so four
levels for each token are more than enough.
-/

namespace QueryCompiler.Host

open Text Reader

/-- The grammar one level further out. -/
def Grammar.extend (g : Grammar) : Grammar where
  expr braces := exprRule g braces
  unary braces := unaryRule g braces
  climb start operand braces base := climbRule g start operand braces base
  boundary := boundaryRule g
  type plus := typeRule g plus
  bound captures constant := boundRule g captures constant
  pattern := patternRule g
  item := itemRule g
  block inner := blockRule g inner
  importTree root := importTreeRule g root

/-- The grammar with as many levels as given. -/
def Grammar.ofDepth : Nat → Grammar
  | 0 => .empty
  | n + 1 => (ofDepth n).extend

/-- A grammar deep enough for the tokens given. -/
def Grammar.forTokens (ts : List Token) : Grammar := .ofDepth (4 * Token.weightOf ts + 16)

/-- Reads all of a text with a rule of the grammar. -/
def parseWith {α : Type} (rule : Grammar → Reader α) (text : String) : Option α :=
  onText (fun ts => rule (.forTokens ts)) text

/-- Leaves out a byte order mark at the head of a file, and a first line that names an interpreter.
A first line that opens an attribute stays. -/
def stripFileHead (text : String) : String :=
  let cs := match text.toList with
    | '\ufeff' :: rest => rest
    | cs => cs
  match cs with
  | '#' :: '!' :: rest =>
    -- Blanks and comments may stand before the bracket of an attribute.
    if (Lexeme.splitGap rest).2.head? = some '[' then String.ofList cs
    else String.ofList (cs.dropWhile (· != '\n'))
  | _ => String.ofList cs

/-- The items of a file. -/
def parseFile? (text : String) : Option (List Item) :=
  parseWith (fun g => do
    let _ ← Grammar.innerAttributes g
    manyUntil Peek.done g.item) (stripFileHead text)

/-- The statements of a block in braces. -/
def parseBlock? (text : String) : Option (List Stmt) :=
  (parseWith (fun g => g.block false) text).map (·.2)

def parseExpr? (text : String) : Option Expr := parseWith (fun g => g.expr true) text

def parseIdent? (text : String) : Option Ident := onText (fun _ => ident) text

/-- A path as it stands in a type. -/
def parsePath? (text : String) : Option Path := parseWith (fun g => g.path false) text

def parseLiteral? (text : String) : Option Literal := onText (fun _ => literal) text

/-- What a derivation is applied to: a record, an enumeration or a union. -/
def declaration (g : Grammar) : Reader Declaration := do
  let attributes ← Grammar.outerAttributes g
  let vis ← Grammar.visibility
  if ← sees (Peek.word "struct") then return .struct (← Grammar.record g attributes vis)
  if ← sees (Peek.word "enum") then
    let (name, params) ← Grammar.enumeration g
    return .enum name params
  -- `union` is no keyword, so it comes last.
  let (name, params) ← Grammar.unionDecl g
  return .union name params

def parseDeclaration? (text : String) : Option Declaration := parseWith declaration text

end QueryCompiler.Host
