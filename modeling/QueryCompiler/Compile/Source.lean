import QueryCompiler.Code.Module
import QueryCompiler.Sql.Builder

/-!
# Compiling a source text
-/

namespace QueryCompiler.Compile

open Code Host Query Sql

/-- How a source is compiled. Builders other than those of the dialects are of type `σ`. -/
structure Options (σ : Type) where
  dialect : Dialect
  /-- Writes the statements in place of the dialect's own builder. -/
  builder : Option σ
  unsupported : Policy
  runtimePath : String
  indent : Indent
deriving DecidableEq, Inhabited

def Options.standard {σ : Type} : Options σ :=
  ⟨.generic, none, .warn, defaultRuntimePath, .standard⟩

/-- What became of one function. -/
structure CompiledFunction where
  name : String
  /-- The name of the table in the database. -/
  table : String
  sql : String
  params : List String
  returnMode : ReturnMode
deriving DecidableEq, Inhabited

/-- What became of one source. -/
structure Output where
  code : String
  functions : List CompiledFunction
  diagnostics : List Diagnostic
deriving DecidableEq, Inhabited

/-- Why a source text is not compiled. -/
inductive SourceError where
  /-- The text is none of the host language. -/
  | parse
  | query (error : Query.Error)
deriving DecidableEq, Inhabited

def SourceError.message : SourceError → String
  | .parse => "parse error"
  | .query error => error.message

section

variable {σ : Type} [Builder σ]

/-- Renders statements one after the other with the same builder, which goes on from the state that
the statement before has left it in. -/
def renderAll (b : σ) : List Statement → List Rendered
  | [] => []
  | s :: rest =>
    let (sql, b) := Builder.render b s
    sql :: renderAll b rest

/-- Renders statements with the builder that the options name, or else with that of the dialect. -/
def Options.renderAll (o : Options σ) (stmts : List Statement) : List Rendered :=
  match o.builder with
  | some b => Compile.renderAll b stmts
  | none => Compile.renderAll (TokenBuilder.ofDialect o.dialect) stmts

/-- What is said about a function and its statement. -/
def compiledFunction (f : QueryFunction) (sql : Rendered) : CompiledFunction where
  name := f.name
  table := f.statement.table
  sql := sql.text
  params := sql.params
  returnMode := f.returnMode

def compileSource (source fileName : String) (o : Options σ) : Except SourceError Output :=
  match parseFile? source with
  | none => .error .parse
  | some items =>
    match Report.run o.unsupported (interpretFile items) with
    | (.error e, _) => .error (.query e)
    | (.ok m, diagnostics) =>
      -- Rendered once, for the code and for the report.
      let sql := o.renderAll (m.functions.map (·.statement))
      .ok
        { code := emit ⟨o.indent, o.runtimePath, fileName⟩ m sql
          functions := m.functions.zipWith compiledFunction sql
          diagnostics }

end

end QueryCompiler.Compile
