import QueryCompiler.Host.Item
import QueryCompiler.Query.Operation

/-!
# Calls in a function

A statement contributes calls if it is a call of a path or a chain of method calls; a chain
contributes one call for each method, the innermost first. Where the chain begins makes no
difference.
-/

namespace QueryCompiler.Query

open Host Text

/-- One call of a function's body. -/
structure Call where
  /-- The name in snake case. -/
  name : String
  operation : Option Operation
  args : List Host.Expr
  /-- Where the name stands. -/
  pos : Pos
deriving Inhabited

namespace Call

/-- The elements of a tuple that is the only argument. -/
def spread : List Host.Expr → List Host.Expr
  | [.tuple _ elements] => elements
  | args => args

/-- The call of that name with those arguments. -/
def of (ident : Ident) (args : List Host.Expr) : Call :=
  let name := normalName ident
  let operation := Operation.ofName? name
  { name
    operation
    -- `select((a, b))` is `select(a, b)`.
    args := if operation.any Operation.takesColumns then spread args else args
    pos := ident.pos }

end Call

def isMethodCall : Host.Expr → Bool
  | .methodCall .. => true
  | _ => false

/-- The calls of an expression in the order in which they are made. -/
def callsOf : Host.Expr → List Call
  | .call _ callee args =>
    match callee with
    | .path _ _ p =>
      match p.last? with
      | some segment => [.of segment.ident args]
      | none => []
    | _ => []
  | .methodCall _ receiver method args =>
    -- A receiver in parentheses ends the chain; what stands inside of them is not looked at.
    (if isMethodCall receiver then callsOf receiver else []) ++ [.of method args]
  | .paren _ inner | .group _ inner => callsOf inner
  | _ => []

def scanCalls (body : List Stmt) : List Call :=
  body.flatMap fun
    | .expr e => callsOf e
    | .other => []

/-- What a function does, by the first call that says so. -/
def kindOf? (calls : List Call) : Option Kind := calls.findSome? fun c => Kind.ofCallName? c.name

end QueryCompiler.Query
