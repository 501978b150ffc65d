import QueryCompiler.Host.Expr
import QueryCompiler.Query.Error
import QueryCompiler.Sql.Expr

/-!
# Names in a query, and the expressions made of them

An expression of the host language becomes one of SQL node by node: literals, parameters, fields of
bound entities, parentheses and the operators that do not assign.
-/

namespace QueryCompiler.Query

open Host Schema Text

/-- Tables under the names that they are bound to. A name is bound once. -/
abbrev Entities := List (String × Table)

/-- Binds a name, in place of what it was bound to before. -/
def Entities.bind (es : Entities) (name : String) (t : Table) : Entities :=
  es.filter (·.1 != name) ++ [(name, t)]

/-- The names that an expression may use. -/
structure Scope where
  entities : Entities
  params : List String
deriving Inhabited

/-- The name that an expression consists of. -/
def singleName? : Host.Expr → Option String
  | .path _ false p => p.single?.map (·.name)
  | .group _ inner => singleName? inner
  | _ => none

/-- The operator of SQL for one of the host language. Those that assign have none. -/
def operator? : Host.BinaryOp → Option Sql.BinaryOp
  | .eq => some .eq
  | .ne => some .notEq
  | .lt => some .lt
  | .gt => some .gt
  | .le => some .ltEq
  | .ge => some .gtEq
  | .and => some .and
  | .or => some .or
  | .add => some .plus
  | .sub => some .minus
  | .mul => some .multiply
  | .div => some .divide
  | .rem => some .modulo
  | .bitAnd => some .bitAnd
  | .bitOr => some .bitOr
  | .bitXor => some .bitXor
  | .shl => some .shiftLeft
  | .shr => some .shiftRight
  | .addAssign | .subAssign | .mulAssign | .divAssign | .remAssign | .bitXorAssign | .bitAndAssign
  | .bitOrAssign | .shlAssign | .shrAssign => none

def isNumber : Host.Expr → Bool
  | .lit _ value => value.isNumber
  | _ => false

namespace Scope

def entity? (sc : Scope) (e : Host.Expr) : Option Table := do
  sc.entities.lookup (← singleName? e)

/-- The table and column that a field access names. Faults in the entity are placed at `pos`. -/
def field (sc : Scope) (pos : Pos) (base : Host.Expr) (member : Member) :
    Except Error (Table × Sql.ColumnRef) :=
  match singleName? base with
  | none => .error (.argument pos (.notEntity base.text))
  | some name =>
    match sc.entities.lookup name with
    | none => .error (.argument pos (.notEntity name))
    | some table =>
      match member with
      -- The table is looked up before the field, so an unknown one is what is reported.
      | .index => .error (.argument pos .tupleField)
      | .named ident =>
        match table.column? ident.name with
        -- A missing field is placed at its own name.
        | none => .error (.argument ident.pos (.noField table.name ident.name))
        | some c => .ok (table, .of table.physicalName c)

/-- The table and column that an expression names. -/
def column (sc : Scope) (e : Host.Expr) : Except Error (Table × Sql.ColumnRef) :=
  let inner := match e with
    | .group _ inner => inner
    | e => e
  match inner with
  | .field _ base member => sc.field e.pos base member
  | _ => .error (.argument e.pos (.notColumn inner.text))

/-- The parameter of that name. -/
def param (sc : Scope) (pos : Pos) (name : String) : Except Error Sql.Expr :=
  -- A parameter hides an entity of the same name.
  if name ∈ sc.params then .ok (.param name)
  else if (sc.entities.lookup name).isSome then .error (.argument pos (.entityAsValue name))
  else .error (.argument pos (.unknownName name))

/-- The condition or value that an expression stands for. -/
def convert (sc : Scope) : Host.Expr → Except Error Sql.Expr
  | .lit src _ => .ok (.literal src.text)
  | .unary src op operand =>
    -- Only a number may have a sign; its text is taken without the gap behind the sign.
    if op = .neg ∧ isNumber operand then .ok (.literal ("-" ++ operand.text))
    else .error (.argument src.pos (.unsupportedExpr src.text))
  | .path src qualified p =>
    match singleName? (.path src qualified p) with
    | none => .error (.argument src.pos (.unsupportedPath src.text))
    | some name => sc.param src.pos name
  | .field src base member => do
    let (_, ref) ← sc.field src.pos base member
    return .column ref
  | .paren _ inner => do return .paren (← sc.convert inner)
  | .group _ inner => sc.convert inner
  | .binary _ op opSrc left right =>
    match operator? op with
    -- The operator is looked at before the operands.
    | none => .error (.argument opSrc.pos (.unsupportedOperator opSrc.text))
    | some op => do
      let l ← sc.convert left
      let r ← sc.convert right
      return .binary op l r
  | .call src .. | .methodCall src .. | .tuple src _ | .other src _ =>
    .error (.argument src.pos (.unsupportedExpr src.text))

/-- The value that an update assigns: a parameter or a literal. -/
def assigned (sc : Scope) (e : Host.Expr) : Except Error Sql.Expr := do
  match ← sc.convert e with
  | .param name => return .param name
  | .literal text => return .literal text
  | _ => throw (.argument e.pos .assignedValue)

end Scope

end QueryCompiler.Query
