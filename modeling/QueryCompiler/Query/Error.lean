import QueryCompiler.Query.Operation
import QueryCompiler.Sql.Statement
import QueryCompiler.Text.Position

/-!
# What can be wrong with a query file

Each fault is a cause with what it is about; the wording of all of them is here.
-/

namespace QueryCompiler.Query

open Sql Text

/-- What can be wrong with a list of derived paths. -/
inductive DeriveFault where
  | noArguments
  | valueGiven
  /-- The list ends where a path has to begin. -/
  | endOfList
  | literal
  | otherToken
  | noComma
  /-- The list ends behind a double colon. -/
  | endOfPath
  | noSegment
deriving DecidableEq, Inhabited

def DeriveFault.message : DeriveFault → String
  | .noArguments => "expected attribute arguments in parentheses: #[derive(...)]"
  | .valueGiven => "expected parentheses: #[derive(...)]"
  | .endOfList => "unexpected end of input, expected nested attribute"
  | .literal => "unexpected literal in nested attribute, expected ident"
  | .otherToken => "unexpected token in nested attribute, expected ident"
  | .noComma => "expected `,`"
  | .endOfPath => "unexpected end of input, expected ident"
  | .noSegment => "expected ident"

/-- Why a declaration is no table. -/
inductive TypeFault where
  | aliasOf (type : String)
  | generic
  | tuple
  | unit
  | duplicateField (name : String)
  | tagNotString
  | malformedDerive (fault : DeriveFault)
deriving DecidableEq, Inhabited

def TypeFault.message : TypeFault → String
  | .aliasOf type => s!"alias to `{type}` is not a record; declare a struct with named fields"
  | .generic => "generic records cannot map to a table"
  | .tuple => "tuple structs cannot map to a table"
  | .unit => "unit structs cannot map to a table"
  | .duplicateField name => s!"duplicate field `{name}`"
  | .tagNotString => "`tag` must be a string literal"
  | .malformedDerive fault => "malformed derive: " ++ fault.message

/-- The name of the function that configures a module. -/
def initializerName : String := "init"

/-- What can be wrong with a call, its arguments, or the function that it stands in. -/
inductive ArgumentFault where
  -- Expressions
  | unsupportedPath (text : String)
  | entityAsValue (name : String)
  | unknownName (name : String)
  | unsupportedOperator (text : String)
  | unsupportedExpr (text : String)
  | assignedValue
  | notColumn (text : String)
  | notEntity (text : String)
  | tupleField
  | noField (table field : String)
  -- Parameters
  | receiver
  | parameterPattern (text : String)
  | reservedParameter (name : String)
  -- Calls
  | oneString (call : String)
  | notIdent (text : String)
  | notPath (text : String)
  | initializerOnly (op : Operation)
  | wrongKind (op : Operation) (kind : Kind)
  | repeated (op : Operation)
  | selectRepeated
  | noColumns (op : Operation)
  | onePredicate
  | columnAndValue
  | oneEntity (call : String)
  | mixedTables (kind : Kind) (bound other : String)
  | returnTypeRepeated
  | oneMode
  | notMode (text : String)
  | bufferRepeated
  | onePositive
  -- Functions
  | noTable (function : String)
  | resultOnly (kind : Kind) (mode : ReturnMode)
  | nothingSelected (function : String)
  | oneColumn (mode : ReturnMode) (found : Nat)
  | insertParameter (name : String)
  | nothingAssigned (function : String)
deriving DecidableEq, Inhabited

def ArgumentFault.message : ArgumentFault → String
  | .unsupportedPath text => s!"unsupported path `{text}`"
  | .entityAsValue name => s!"entity `{name}` used as a value; select one of its fields"
  | .unknownName name => s!"`{name}` is neither a parameter nor a bound entity"
  | .unsupportedOperator text => s!"operator `{text}` is not supported"
  | .unsupportedExpr text => s!"unsupported expression `{text}`"
  | .assignedValue => "an assigned value must be a parameter or a literal"
  | .notColumn text => s!"expected `entity.field`, found `{text}`"
  | .notEntity text => s!"`{text}` is not a bound entity"
  | .tupleField => "tuple fields are not columns"
  | .noField table field => s!"`{table}` has no field `{field}`"
  | .receiver => "DSL functions cannot take `self`"
  | .parameterPattern text => s!"parameter `{text}` must be a plain identifier"
  | .reservedParameter name => s!"parameter name `{name}` is reserved by generated code"
  | .oneString call => s!"`{call}` takes one string literal"
  | .notIdent text => s!"package name `{text}` is not an identifier"
  | .notPath text => s!"runtime path `{text}` is not a path"
  | .initializerOnly op => s!"`{op.name}` is only valid in `fn {initializerName}`"
  | .wrongKind op kind => s!"`{op.name}` cannot be used in {kind.name} functions"
  | .repeated op => s!"`{op.name}` appears twice"
  | .selectRepeated => "select list already set"
  | .noColumns op => s!"`{op.name}` needs at least one column"
  | .onePredicate => "`where` takes one predicate"
  | .columnAndValue => "`update` takes a column and a value"
  | .oneEntity call => s!"`{call}` takes one entity"
  | .mixedTables kind bound other => s!"`{kind.name}` mixes tables `{bound}` and `{other}`"
  | .returnTypeRepeated => "return type set twice"
  | .oneMode => "`set_return_type` takes exactly one mode"
  | .notMode text => s!"`{text}` is not a return mode"
  | .bufferRepeated => "channel buffer size set twice"
  | .onePositive => "`set_channel_buffer_size` takes one positive integer literal"
  | .noTable function => s!"`{function}` does not name a table"
  | .resultOnly kind mode => s!"{kind.name} functions return ExecResult, not {mode.name}"
  | .nothingSelected function => s!"`{function}` selects nothing"
  | .oneColumn mode found => s!"{mode.name} needs exactly one selected column, found {found}"
  | .insertParameter name =>
    s!"insert functions read values from the record; remove parameter `{name}`"
  | .nothingAssigned function => s!"`{function}` assigns no columns"

/-- Why a file of queries is refused. -/
inductive Error where
  | argument (pos : Pos) (fault : ArgumentFault)
  | typeDefinition (typeName : String) (pos : Pos) (fault : TypeFault)
  /-- A call outside the vocabulary, where those are not let pass. -/
  | unsupported (pos : Pos) (message : String)
deriving DecidableEq, Inhabited

namespace Error

def pos : Error → Pos
  | .argument pos _ | .typeDefinition _ pos _ | .unsupported pos _ => pos

def message : Error → String
  | .argument pos fault => s!"argument error at {pos.render}: {fault.message}"
  | .typeDefinition typeName pos fault =>
    s!"type definition error for `{typeName}` at {pos.render}: {fault.message}"
  | .unsupported pos message => s!"unsupported construct at {pos.render}: {message}"

end Error

end QueryCompiler.Query
