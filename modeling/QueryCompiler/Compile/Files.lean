import QueryCompiler.Compile.Source
import QueryCompiler.Files.Path
import QueryCompiler.Files.Store

/-!
# Compiling files

One source file becomes one file of code. If that fails no file is left where the code would be, be
it half written or from an earlier run.
-/

namespace QueryCompiler.Compile

open Files FileStore Sql

/-- Why a file is not compiled. -/
inductive Error where
  | source (error : SourceError)
  | io (path : String) (fault : Fault)
  | notDirectory (path : String)
deriving DecidableEq, Inhabited

def Error.message : Error → String
  | .source error => error.message
  | .io path fault => s!"I/O error on {path}: {fault.message}"
  | .notDirectory path => s!"not a directory: {path}"

variable {m : Type → Type} [Monad m] [FileStore m] {σ : Type} [Builder σ]

/-- Writes code to a file, and makes the directories above it. -/
def writeCode (output code : String) : m (Except Error Unit) := do
  let parent := (Path.parent? output).getD ""
  match ← makeEnclosed (Path.ancestors parent) with
  | .error e => return .error (.io parent e)
  | .ok () => return (← writeText output code).mapError (.io output)

/-- Compiles a file, without clearing up. -/
def compileTo (input output : String) (o : Options σ) : m (Except Error Output) := do
  match ← readText input with
  | .error e => return .error (.io input e)
  | .ok source =>
    match compileSource source ((Path.fileName? input).getD "") o with
    | .error e => return .error (.source e)
    | .ok compiled => return (← writeCode output compiled.code).map fun () => compiled

def compileFile (input output : String) (o : Options σ) : m (Except Error Output) := do
  match ← compileTo input output o with
  | .ok compiled => return .ok compiled
  | .error e =>
    -- That removing fails is not reported: the first fault counts.
    if ← pathExists output then
      let _ ← removeFile output
    return .error e

/-- Keeps the names of the source files in a directory. -/
def sourceNames (dir : String) : List String → m (List String)
  | [] => return []
  | name :: rest => do
    let isSource := Path.extension? name = some "rs" && (← isFile (Path.join dir name))
    let others ← sourceNames dir rest
    return if isSource then name :: others else others

/-- Compiles the files of those names from one directory to another, up to the first that fails. -/
def compileNames (inputDir outputDir : String) (o : Options σ) :
    List String → m (Except Error (List (String × Output)))
  | [] => return .ok []
  | name :: rest => do
    let output := Path.join outputDir name
    match ← compileFile (Path.join inputDir name) output o with
    | .error e => return .error e
    | .ok compiled =>
      return (← compileNames inputDir outputDir o rest).map ((output, compiled) :: ·)

/-- Compiles all source files directly in a directory, in the order of their names. -/
def compileDir (inputDir outputDir : String) (o : Options σ) :
    m (Except Error (List (String × Output))) := do
  if ← isDirectory inputDir then
    match ← names inputDir with
    | .error e => return .error (.io inputDir e)
    | .ok found =>
      let sources ← sourceNames inputDir found
      -- The store lists names in any order.
      compileNames inputDir outputDir o (sources.mergeSort fun a b => decide (a ≤ b))
  else return .error (.notDirectory inputDir)

end QueryCompiler.Compile
