import QueryCompiler.Code.Accessor
import QueryCompiler.Code.Record

/-!
# Generated modules

A generated file has a header, the imports, one record for each table and one accessor for each
function.
-/

namespace QueryCompiler.Code

open Query Sql

/-- How the code of a module is written. -/
structure EmitConfig where
  indent : Indent
  /-- Where the code finds the types that it uses, unless the module says so itself. -/
  runtimePath : String
  /-- The name of the source file; it is left out of the header if empty. -/
  sourceName : String
deriving DecidableEq, Inhabited

/-- Where code finds the types that it uses if nobody says. -/
def defaultRuntimePath : String := "sqlgen::runtime"

def isSelect : Statement → Bool
  | .select .. => true
  | _ => false

/-- The names that the accessors use, in the order of the import. -/
def runtimeImports (fs : List QueryFunction) : List String :=
  let channel := fs.any (·.returnMode = .recordChannel)
  let select := fs.any fun f => isSelect f.statement
  let exec := fs.any fun f => !isSelect f.statement
  -- Decided by the statement, whatever a builder makes of its parameters.
  let args := fs.any fun f => !f.statement.parameters.isEmpty
  if fs.isEmpty then []
  else
    (if channel then ["CancellationToken"] else []) ++ ["Context", "DbError"] ++
      (if exec then ["ExecResult"] else []) ++ ["Executor"] ++
      (if select then ["Row"] else []) ++ (if args then ["Value"] else []) ++
      (if channel then ["tokio"] else [])

/-- The header of a generated file. -/
def headerLines (sourceName : String) : List Line :=
  let origin := if sourceName.isEmpty then "" else " from " ++ sourceName
  [.text s!"// Code generated by sqlgen{origin}; do not edit.",
    .text "#![allow(clippy::all, dead_code, non_snake_case, unused_imports)]",
    .blank]

/-- The import of the names that the accessors use. -/
def runtimeImportLines (path : String) (items : List String) : List Line :=
  if items.isEmpty then [] else [.text s!"use {path}::\x7b{commas items}\x7d;"]

/-- What a generated file holds below its header, outside of any package. -/
def contentLines (runtimePath : String) (m : Module) (sql : List Rendered) : List Line :=
  runtimeImportLines (m.config.runtimePath.getD runtimePath) (runtimeImports m.functions) ++
    m.imports.map .text ++ m.tables.flatMap (fun t => .blank :: recordLines t) ++
    -- A function without a rendered statement is not written.
    (m.functions.zip sql).flatMap (fun (f, s) => .blank :: accessorLines f s)

def packaged (package : Option String) (lines : List Line) : List Line :=
  match package with
  | some p => [.opening s!"pub mod {p} \x7b"] ++ lines ++ [.closing "\x7d"]
  | none => lines

/-- The code of a module. The statements stand in the order of its functions. -/
def emit (config : EmitConfig) (m : Module) (sql : List Rendered) : String :=
  let content := contentLines config.runtimePath m sql
  let lines := headerLines config.sourceName ++ packaged m.config.packageName content
  ((Writer.ofIndent config.indent).writeAll lines).text

end QueryCompiler.Code
