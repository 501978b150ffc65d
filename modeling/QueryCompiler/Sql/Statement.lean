import QueryCompiler.Sql.Expr
import QueryCompiler.Text.Split

/-!
# Statements
-/

namespace QueryCompiler.Sql

open Text

/-- What a function hands back. -/
inductive ReturnMode where
  /-- Nothing was said, which means all rows as records. -/
  | unspecified
  | execResult
  | scalar
  | scalarSet
  | record
  | recordSet
  | recordChannel
deriving DecidableEq, Inhabited

namespace ReturnMode

def all : List ReturnMode :=
  [.unspecified, .execResult, .scalar, .scalarSet, .record, .recordSet, .recordChannel]

def name : ReturnMode → String
  | .unspecified => "Default"
  | .execResult => "ExecResult"
  | .scalar => "Scalar"
  | .scalarSet => "ScalarSet"
  | .record => "Record"
  | .recordSet => "RecordSet"
  | .recordChannel => "RecordChannel"

/-- Letters in lower case, without underscores. -/
def fold (cs : List Char) : List Char := (cs.map asciiLower).filter (· != '_')

/-- The mode of that name, in any case, with underscores anywhere and with or without `Return`
before it. -/
def ofName? (s : String) : Option ReturnMode :=
  let cs := match s.toList with
    | 'R' :: 'e' :: 't' :: 'u' :: 'r' :: 'n' :: rest => rest
    | cs => cs
  -- `Return` is taken off as it is spelled, before the folding.
  all.find? fun m => fold m.name.toList == fold cs

/-- The mode that is meant. -/
def resolve : ReturnMode → ReturnMode
  | .unspecified => .recordSet
  | m => m

def isScalar : ReturnMode → Bool
  | .scalar | .scalarSet => true
  | _ => false

end ReturnMode

/-- A column that rows are sorted by. -/
structure SortTerm where
  column : ColumnRef
  descending : Bool
deriving DecidableEq, Inhabited

/-- A column and the value that an update gives it. -/
structure Assignment where
  column : ColumnRef
  value : Expr
deriving DecidableEq, Inhabited

/-- A statement on one table. -/
inductive Statement where
  | select (table : String) (list : List Expr) (filter : Option Expr) (orderBy : List SortTerm)
    (mode : ReturnMode)
  /-- The columns that the database fills are left out if `excludesIdentity`. -/
  | insert (table : String) (columns : List ColumnRef) (excludesIdentity : Bool)
  | update (table : String) (assignments : List Assignment) (filter : Option Expr)
  | delete (table : String) (filter : Option Expr)
deriving DecidableEq, Inhabited

/-- The columns that an insert names. -/
def insertedColumns (columns : List ColumnRef) (excludesIdentity : Bool) : List ColumnRef :=
  columns.filter fun c => !(excludesIdentity && c.source.isIdentity)

def filterParameters (filter : Option Expr) : List String := (filter.map Expr.parameters).getD []

namespace Statement

def table : Statement → String
  | .select t .. | .insert t .. | .update t .. | .delete t .. => t

/-- What running the statement hands back. -/
def returnMode : Statement → ReturnMode
  | .select _ _ _ _ mode => mode.resolve
  | _ => .execResult

/-- The names of what is bound, in the order of the placeholders. An insert binds the fields of a
record. -/
def parameters : Statement → List String
  | .select _ _ filter _ _ | .delete _ filter => filterParameters filter
  | .update _ assignments filter =>
    assignments.flatMap (·.value.parameters) ++ filterParameters filter
  | .insert _ columns excludesIdentity =>
    (insertedColumns columns excludesIdentity).map (·.source.name)

end Statement

end QueryCompiler.Sql
