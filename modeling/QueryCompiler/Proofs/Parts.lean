import QueryCompiler.Sql.Statement

/-!
# Parts of expressions and statements

`Expr.parts` lists an expression with everything inside it, at any depth. What later modules say of
"every parameter" or "every column" of a statement is said of the parts of its expressions, and not
of the walk `Expr.parameters`, which is tied to them here.
-/

namespace QueryCompiler.Sql

namespace Expr

/-- The expression and everything inside it, each before what it is made of. -/
def parts : Expr → List Expr
  | .literal text => [.literal text]
  | .param name => [.param name]
  | .column ref => [.column ref]
  | .binary op l r => .binary op l r :: (l.parts ++ r.parts)
  | .paren e => .paren e :: e.parts

/-- The walk over the parameters finds the names that occur, and no others. -/
theorem mem_parameters_iff {e : Expr} {name : String} :
    name ∈ e.parameters ↔ .param name ∈ e.parts := by
  induction e with
  | literal text => simp [parameters, parts]
  | param other => simp [parameters, parts]
  | column ref => simp [parameters, parts]
  | binary op l r ihl ihr => simp [parameters, parts, ihl, ihr]
  | paren e ih => simp [parameters, parts, ih]

/-- An expression without parameters inside has none to bind. -/
theorem parameters_eq_nil {e : Expr} (h : ∀ name, .param name ∉ e.parts) : e.parameters = [] := by
  apply List.eq_nil_iff_forall_not_mem.mpr
  intro name hname
  exact h name (mem_parameters_iff.mp hname)

/-- Brackets around a disjunction hide nothing. -/
theorem parameters_guarded (e : Expr) : e.guarded.parameters = e.parameters := by
  unfold guarded
  split
  · rfl
  · rfl

@[simp] theorem parameters_and (a b : Expr) :
    (a.and b).parameters = a.parameters ++ b.parameters := by
  rw [Expr.and, parameters, parameters_guarded, parameters_guarded]

/-- The columns of an expression from left to right. -/
def columns : Expr → List ColumnRef
  | .literal _ | .param _ => []
  | .column ref => [ref]
  | .binary _ l r => l.columns ++ r.columns
  | .paren e => e.columns

/-- The columns of an expression are those among its parts. -/
theorem mem_columns_iff {e : Expr} {ref : ColumnRef} : ref ∈ e.columns ↔ .column ref ∈ e.parts := by
  induction e with
  | literal text => simp [columns, parts]
  | param name => simp [columns, parts]
  | column other => simp [columns, parts]
  | binary op l r ihl ihr => simp [columns, parts, ihl, ihr]
  | paren e ih => simp [columns, parts, ih]

/-- Parentheses add no column. -/
theorem columns_guarded (e : Expr) : e.guarded.columns = e.columns := by
  unfold guarded
  split
  · rfl
  · rfl

@[simp] theorem columns_and (a b : Expr) : (a.and b).columns = a.columns ++ b.columns := by
  rw [Expr.and, columns, columns_guarded, columns_guarded]

end Expr

namespace Statement

def selectList : Statement → List Expr
  | .select _ list _ _ _ => list
  | _ => []

def condition? : Statement → Option Expr
  | .select _ _ filter _ _ | .update _ _ filter | .delete _ filter => filter
  | .insert .. => none

def assignments : Statement → List Assignment
  | .update _ assignments _ => assignments
  | _ => []

/-- The columns that a statement reads, sorts by, assigns or fills; those of its condition are not
among them. -/
def columnRefs : Statement → List ColumnRef
  | .select _ list _ orderBy _ => list.flatMap Expr.columns ++ orderBy.map (·.column)
  | .insert _ columns _ => columns
  | .update _ assignments _ => assignments.map (·.column)
  | .delete .. => []

/-- Every expression of a statement: what it selects, what it assigns and its condition. -/
def exprs (s : Statement) : List Expr :=
  s.selectList ++ s.assignments.map (·.value) ++ s.condition?.toList

end Statement

end QueryCompiler.Sql
