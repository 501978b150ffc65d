import QueryCompiler.Command.Help
import QueryCompiler.Command.Line
import QueryCompiler.Compile.Files
import QueryCompiler.Config.Settings

/-!
# Running a command

A command reads its settings, does its work and says what it did. What it has to say is collected
and handed back with the exit code.
-/

namespace QueryCompiler.Command

open Compile Config Files FileStore Query Sql Text

/-- What a run has said, and the code that it ends with. -/
structure Outcome where
  exitCode : Nat
  out : List String
  err : List String
deriving DecidableEq, Inhabited

namespace Outcome

def success (out err : List String) : Outcome := ⟨0, out, err⟩

def failure (message : String) : Outcome := ⟨1, [], [message]⟩

end Outcome

def unlines (lines : List String) : String := String.join (lines.map (· ++ "\n"))

/-- The lines of a text. A line break may have a carriage return before it, and one may end the
text. -/
def linesOf (s : String) : List String :=
  let pieces := splitWhen (· == '\n') s.toList
  let ended := pieces.dropLast.map fun line =>
    match line.reverse with
    | '\r' :: rest => rest.reverse
    | _ => line
  -- What stands behind the last break is a line only if it is not empty.
  let last := match pieces.getLast? with
    | some (c :: line) => [c :: line]
    | _ => []
  (ended ++ last).map String.ofList

def defaultOutputDir : String := "gen"

def configFailure (e : Config.Error) : Outcome := .failure s!"Configuration error: {e.message}"

/-- What is reported about a file. -/
def reports (path : String) (ds : List Diagnostic) : List String :=
  ds.map fun d => s!"{path}: {d.render}"

variable {σ : Type} [Builder σ]

/-- Options with what the command line says in the place of what the settings say. -/
def override (o : Options σ) (dialect : Option Dialect) (strict : Bool) : Options σ :=
  { o with
    dialect := dialect.getD o.dialect
    unsupported := if strict then .error else o.unsupported }

variable {m : Type → Type} [Monad m] [FileStore m]

/-- The directory that the code of an input goes to. -/
def outputDir (s : Settings) (input : String) (output : Option String) : m String := do
  match output <|> s.outputDir with
  | some dir => return dir
  | none =>
    -- Beside a file, but inside of a directory.
    let base := if ← isDirectory input then input else (Path.parent? input).getD ""
    return Path.join base defaultOutputDir

/-- What is said about compiled files. -/
def compileOutcome : Except Compile.Error (List (String × Output)) → Outcome
  | .error e => .failure s!"Compilation error: {e.message}"
  | .ok outputs =>
    .success (outputs.map fun (path, o) => s!"{path} ({o.functions.length} functions)")
      (outputs.flatMap fun (path, o) => reports path o.diagnostics)

def runCompile (o : Options σ) (dir input : String) : m Outcome := do
  if ← isDirectory input then return compileOutcome (← compileDir input dir o)
  else
    match Path.fileName? input with
    | none => return .failure s!"Not a file: {input}"
    | some name =>
      let target := Path.join dir name
      let result ← compileFile input target o
      return compileOutcome (result.map fun compiled => [(target, compiled)])

/-- Compiles a file without writing the code; fails with what to say. -/
def compileOnly (o : Options σ) (file : String) : m (Except String Output) := do
  match ← readText file with
  | .error e => return .error s!"Error reading file '{file}': {e.message}"
  | .ok source =>
    let result := compileSource source ((Path.fileName? file).getD "") o
    return result.mapError fun e => s!"{file}: {e.message}"

/-- What is said about a function. -/
def functionLines (f : CompiledFunction) : List String :=
  ["", s!"{f.name} -> {f.returnMode.resolve.name}", s!"  table: {f.table}"] ++
    (if f.params.isEmpty then [] else ["  params: " ++ String.intercalate ", " f.params]) ++
    (linesOf f.sql).map ("  " ++ ·)

/-- Shows the functions of a file. -/
def runList (o : Options σ) (file : String) : m Outcome := do
  match ← compileOnly o file with
  | .error message => return .failure message
  | .ok compiled =>
    let head := [s!"File: {file}", s!"Dialect: {o.dialect.title}"]
    let body := if compiled.functions.isEmpty then ["", "(no functions)"]
      else compiled.functions.flatMap functionLines
    return .success (head ++ body) (reports file compiled.diagnostics)

def runCheck (o : Options σ) (file : String) : m Outcome := do
  match ← compileOnly o file with
  | .error message => return .failure message
  | .ok compiled =>
    let functions := compiled.functions.length
    let warnings := compiled.diagnostics.length
    return .success [s!"OK: {file} is valid ({functions} functions, {warnings} warnings)"]
      (reports file compiled.diagnostics)

variable [Variables m]

/-- Runs a request under the settings in force. -/
def runRequest (s : Settings) (request : Request) : m Outcome := do
  match ← s.optionsHere with
  | .error e => return configFailure e
  | .ok o =>
    match request with
    | .compile input output dialect strict =>
      runCompile (override o dialect strict) (← outputDir s input output) input
    | .list file dialect => runList (override o dialect false) file
    | .check file strict => runCheck (override o none strict) file

def versionText : String := "sqlgen 0.1.0"

/-- Runs the program with the arguments given. -/
def run (args : List String) : m Outcome := do
  match parse args with
  -- The code of a wrong call differs from that of a failed run.
  | .error .usage => return ⟨2, [], Level.main.help⟩
  | .error (.help level) => return .success level.help []
  | .error .version => return .success [versionText] []
  | .ok invocation =>
    let settings ← match invocation.config with
      | some path => Settings.ofFile path
      | none => Settings.load
    match settings with
    | .error e => return configFailure e
    | .ok s => runRequest s invocation.request

end QueryCompiler.Command
