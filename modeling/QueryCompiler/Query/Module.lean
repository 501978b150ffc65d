import QueryCompiler.Host.Parse
import QueryCompiler.Query.Declared
import QueryCompiler.Query.Draft

/-!
# Modules

What a file of queries says: its tables and entities, its settings, the imports to carry over, and
one function for each function of the file that builds a statement.
-/

namespace QueryCompiler.Query

open Host Schema Sql Text

/-- A function that runs one statement. -/
structure QueryFunction where
  name : String
  docs : List String
  params : List FnParam
  statement : Statement
  /-- The record that rows are read into, or that an insert takes its values from. -/
  record : Option Table
  /-- The capacity of a channel; unlimited without one. -/
  channelBuffer : Option Nat
  /-- Where the name stands. -/
  pos : Pos
deriving Inhabited

namespace QueryFunction

def returnMode (f : QueryFunction) : ReturnMode := f.statement.returnMode

/-- The column that the values of a scalar select come from. -/
def scalarColumn? (f : QueryFunction) : Option Column :=
  match f.statement with
  | .select _ (.column ref :: _) _ _ mode => if mode.isScalar then some ref.source else none
  | _ => none

end QueryFunction

/-- What the initializer of a module sets. -/
structure ModuleConfig where
  /-- The module to wrap the generated code in. -/
  packageName : Option String
  /-- Where the generated code finds the types that it uses. -/
  runtimePath : Option String
deriving DecidableEq, Inhabited

/-- What was read from a file. -/
structure Module where
  tables : List Table
  entities : Entities
  config : ModuleConfig
  /-- The imports to carry over, as source text. -/
  imports : List String
  functions : List QueryFunction
deriving Inhabited

/-- Names that the generated code declares itself. -/
def reservedParams : List String :=
  ["db", "ctx", "o", "rows", "row", "result", "read_row", "tx", "rx", "cancel", "token", "QUERY"]

/-- The root of the imports that generated code does without. -/
def vocabularyRoot : String := "sqlgen"

/-- A parameter of a function. -/
def readParam : Param → Except Error FnParam
  | .receiver src => .error (.argument src.pos .receiver)
  -- `mut` before the name makes no difference; `ref` and a further pattern do.
  | .typed _ (.name _ ident false false) type =>
    if ident.name ∈ reservedParams then
      .error (.argument ident.pos (.reservedParameter ident.name))
    else .ok ⟨ident.name, type.text⟩
  | .typed _ pattern _ => .error (.argument pattern.src.pos (.parameterPattern pattern.src.text))

def applyCalls (sc : Scope) (d : Draft) : List Call → Report Draft
  | [] => return d
  | call :: rest =>
    match call.operation with
    | some op => do
      let d ← d.apply sc op call
      applyCalls sc d rest
    | none => do
      Report.unsupported call.pos s!"unsupported call `{call.name}`"
      applyCalls sc d rest

/-- The query that a function builds. A function without a call that says what it does builds
none. -/
def interpretFunction (fn : Function) (entities : Entities) : Report (Option QueryFunction) := do
  let calls := scanCalls fn.body
  match kindOf? calls with
  | none => return none
  | some kind =>
    let name := fn.ident.name
    -- The parameters of a function without a query are not looked at.
    let params ← fn.params.mapM (fun p => liftM (readParam p))
    let draft ← applyCalls ⟨entities, params.map (·.name)⟩ (.ofKind kind) calls
    let (statement, record, channelBuffer) ← draft.finish name fn.ident.pos params
    return some
      { name, docs := docLines fn.attributes, params, statement, record, channelBuffer
        pos := fn.ident.pos }

/-- The string that is the one argument of a call. -/
def stringArg (call : Call) : Except Error String :=
  match call.args with
  | [.lit _ (.str s)] => .ok s
  | _ => .error (.argument call.pos (.oneString call.name))

/-- The settings after a call of the initializer. -/
def configure (config : ModuleConfig) (call : Call) : Report ModuleConfig :=
  match call.operation with
  | some .packageName => do
    let name ← stringArg call
    if (parseIdent? name).isNone then throw (.argument call.pos (.notIdent name))
    -- A later call overrides an earlier one.
    return { config with packageName := some name }
  | some .runtimePath => do
    let path ← stringArg call
    if (parsePath? path).isNone then throw (.argument call.pos (.notPath path))
    return { config with runtimePath := some path }
  | _ => do
    Report.unsupported call.pos s!"`{call.name}` is not supported in `{initializerName}`"
    return config

/-- The module after a further item of its file. -/
def addItem (m : Module) : Item → Report Module
  | .use src root =>
    return if root.any (·.name == vocabularyRoot) then m
      else { m with imports := m.imports ++ [src.text] }
  | .function fn => do
    if fn.ident.name = initializerName then
      return { m with config := ← (scanCalls fn.body).foldlM configure m.config }
    else
      match ← interpretFunction fn m.entities with
      | some f => return { m with functions := m.functions ++ [f] }
      | none => return m
  | _ => return m

/-- The module of a file. -/
def interpretFile (items : List Item) : Report Module := do
  let tables ← tablesOf items
  let m : Module :=
    { tables, entities := entitiesOf tables items, config := ⟨none, none⟩, imports := []
      functions := [] }
  -- Tables and entities are complete before the first function is read.
  items.foldlM addItem m

end QueryCompiler.Query
