import QueryCompiler.Host.Expr
import QueryCompiler.Text.Snake

/-!
# The vocabulary

The calls that a query is built from. A call may be spelled in any case, with the mark of a raw
identifier and with underscores behind it: all spellings of a name have the same snake case.
-/

namespace QueryCompiler.Query

open Host Text

/-- The calls of the vocabulary. The last two belong to the initializer of a module. -/
inductive Operation where
  /-- `from` -/
  | source
  | select
  | selectAll
  /-- `where`, also called `filter` -/
  | filter
  | update
  | delete
  | insertAll
  | orderBy
  | orderByDescending
  | returnType
  | channelBuffer
  | packageName
  | runtimePath
deriving DecidableEq, Inhabited

namespace Operation

def all : List Operation :=
  [.source, .select, .selectAll, .filter, .update, .delete, .insertAll, .orderBy,
    .orderByDescending, .returnType, .channelBuffer, .packageName, .runtimePath]

def name : Operation → String
  | .source => "from"
  | .select => "select"
  | .selectAll => "select_all"
  | .filter => "where"
  | .update => "update"
  | .delete => "delete"
  | .insertAll => "insert_all"
  | .orderBy => "order_by"
  | .orderByDescending => "order_by_descending"
  | .returnType => "set_return_type"
  | .channelBuffer => "set_channel_buffer_size"
  | .packageName => "set_package_name"
  | .runtimePath => "set_runtime_path"

/-- The operation that a name in snake case stands for. -/
def ofName? (s : String) : Option Operation :=
  if s = "filter" then some .filter else all.find? (·.name == s)

/-- Whether the arguments are columns, which may also be given as one tuple. -/
def takesColumns : Operation → Bool
  | .select | .orderBy | .orderByDescending => true
  | _ => false

/-- Whether the operation belongs to the initializer of a module. -/
def isInitializer : Operation → Bool
  | .packageName | .runtimePath => true
  | _ => false

end Operation

/-- What a function does to its table. -/
inductive Kind where
  | insert
  | select
  | update
  | delete
deriving DecidableEq, Inhabited

namespace Kind

def all : List Kind := [.insert, .select, .update, .delete]

def name : Kind → String
  | .insert => "insert"
  | .select => "select"
  | .update => "update"
  | .delete => "delete"

/-- The kind whose name a call's name begins with. -/
def ofCallName? (s : String) : Option Kind :=
  -- `select_all` and even `selection` begin with `select`.
  all.find? fun k => k.name.toList.isPrefixOf s.toList

end Kind

/-- The name that a call goes by, whatever its spelling. -/
def normalName (i : Ident) : String :=
  snakeCase (String.ofList (Snake.dropEnd (· == '_') i.unraw.toList))

/-- The operations of a query in the order of the calls. -/
structure Recording where
  operations : List Operation
deriving DecidableEq, Inhabited

namespace Recording

def empty : Recording := ⟨[]⟩

def record (r : Recording) (op : Operation) : Recording := ⟨r.operations ++ [op]⟩

end Recording

end QueryCompiler.Query
