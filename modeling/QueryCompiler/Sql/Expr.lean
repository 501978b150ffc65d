import QueryCompiler.Schema.Table
import QueryCompiler.Sql.Literal

/-!
# Expressions of SQL
-/

namespace QueryCompiler.Sql

open Schema

/-- A column of a table; both names are those of the database. -/
structure ColumnRef where
  table : String
  column : String
  /-- The column that is meant. -/
  source : Column
deriving DecidableEq, Inhabited

def ColumnRef.of (table : String) (c : Column) : ColumnRef := ⟨table, c.physicalName, c⟩

/-- An expression, whatever the dialect. -/
inductive Expr where
  /-- The source text of a literal. -/
  | literal (text : String)
  /-- A parameter of the function, bound when the statement runs. -/
  | param (name : String)
  | column (ref : ColumnRef)
  | binary (op : BinaryOp) (left right : Expr)
  | paren (inner : Expr)
deriving DecidableEq, Inhabited

namespace Expr

/-- Encloses a disjunction in parentheses. -/
def guarded : Expr → Expr
  | .binary .or l r => .paren (.binary .or l r)
  | e => e

def and (a b : Expr) : Expr := .binary .and a.guarded b.guarded

/-- The names of the parameters from left to right. -/
def parameters : Expr → List String
  | .literal _ | .column _ => []
  | .param name => [name]
  | .binary _ l r => l.parameters ++ r.parameters
  | .paren e => e.parameters

/-- Writes the expression. Statements have one table, so columns are not qualified. -/
def write (s : TokenStream) : Expr → TokenStream
  | .literal text => s.push (.ofLiteral text)
  -- The name is not written; it is bound by its place.
  | .param _ => s.nextPlaceholder
  | .column ref => s.push (.ident ref.column)
  | .binary op l r => r.write ((l.write s).pushAll [.space, .operator op, .space])
  | .paren e => (e.write (s.push .lparen)).push .rparen

def stream (e : Expr) : TokenStream := e.write .empty

end Expr

end QueryCompiler.Sql
