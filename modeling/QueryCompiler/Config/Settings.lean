import QueryCompiler.Compile.Source
import QueryCompiler.Config.Document
import QueryCompiler.Config.Template
import QueryCompiler.Files.Path
import QueryCompiler.Files.Store

/-!
# Settings

Settings come from a configuration file. Whatever it does not set has a standard value, and keys
that mean nothing are passed over.
-/

namespace QueryCompiler.Config

open Code Compile Files FileStore Host Query Sql Variables

/-- How code is generated. -/
structure Settings where
  dialect : Dialect
  /-- The runtime path; it may hold variables. -/
  runtimePath : String
  indentWidth : Nat
  useTabs : Bool
  unsupported : Policy
  /-- Where code goes if the command line does not say. -/
  outputDir : Option String
deriving DecidableEq, Inhabited

/-- Why there are no settings. -/
inductive Error where
  | fileNotFound (path : String)
  | read (fault : Fault)
  /-- The text is no configuration, or one that does not fit. -/
  | parse
  | missingVariable (name : String)
  | notPath (text : String)
deriving DecidableEq, Inhabited

def Error.message : Error → String
  | .fileNotFound path => "Config file not found: " ++ path
  | .read fault => "Failed to read config file: " ++ fault.message
  | .parse => "Failed to parse config file"
  | .missingVariable name => "Missing environment variable: " ++ name
  | .notPath text => s!"Invalid configuration: runtime_path `{text}` is not a Rust path"

namespace Value

def string? : Value → Option String
  | .string s => some s
  | _ => none

def bool? : Value → Option Bool
  | .boolean b => some b
  | _ => none

/-- A number that fits a machine word. -/
def word? : Value → Option Nat
  | .integer v => if 0 ≤ v ∧ v < UInt64.size then some v.toNat else none
  | _ => none

/-- Whether a value is an array or a table without content. -/
def isVoid : Value → Bool
  | .array [] | .tables [] | .table _ [] => true
  | _ => false

/-- One of several names: a string, or a table with nothing under the name. -/
def choice? {α : Type} (ofName? : String → Option α) : Value → Option α
  | .string s => ofName? s
  | .table _ [(name, v)] => if v.isVoid then ofName? name else none
  | _ => none

end Value

namespace Settings

def standard : Settings := ⟨.generic, defaultRuntimePath, 4, false, .warn, none⟩

def keys : List String :=
  ["dialect", "runtime_path", "indent_width", "use_tabs", "unsupported", "output_dir"]

/-- A setting read from the values at hand, or its standard value. -/
def field? {α : Type} (es : Entries) (key : String) (read : Value → Option α) (default : α) :
    Option α :=
  match es.lookup key with
  | some v => read v
  | none => some default

/-- The settings that a table holds. -/
def ofGenerator? (es : Entries) : Option Settings := do
  return {
    dialect := ← field? es "dialect" (Value.choice? Dialect.ofName?) standard.dialect
    runtimePath := ← field? es "runtime_path" Value.string? standard.runtimePath
    indentWidth := ← field? es "indent_width" Value.word? standard.indentWidth
    useTabs := ← field? es "use_tabs" Value.bool? standard.useTabs
    unsupported := ← field? es "unsupported" (Value.choice? Policy.ofName?) standard.unsupported
    outputDir := ← field? es "output_dir" (fun v => v.string?.map some) standard.outputDir }

/-- The settings of a configuration. An array gives them in the order of the keys. -/
def ofEntries? (es : Entries) : Option Settings :=
  match es.lookup "generator" with
  | none => some standard
  | some (.table _ inner) => ofGenerator? inner
  -- A short array leaves the last keys out.
  | some (.array items) | some (.tables items) => ofGenerator? (keys.zip items)
  | some _ => none

/-- The settings that the text of a configuration file holds. -/
def parse (text : String) : Except Error Settings :=
  match (parse? text).bind ofEntries? with
  | some s => .ok s
  | none => .error .parse

def indent (s : Settings) : Indent := if s.useTabs then .tabs else .spaces s.indentWidth

/-- The runtime path with its variables replaced, which then has to be a path. -/
def resolvedRuntimePath (s : Settings) (env : String → Option String) : Except Error String :=
  match expand env s.runtimePath with
  | .error name => .error (.missingVariable name)
  | .ok path => if (parsePath? path).isSome then .ok path else .error (.notPath path)

/-- The options that the settings describe. -/
def options (s : Settings) (env : String → Option String) :
    Except Error (Options TokenBuilder) := do
  let runtimePath ← s.resolvedRuntimePath env
  return { Options.standard with
    dialect := s.dialect, unsupported := s.unsupported, runtimePath, indent := s.indent }

variable {m : Type → Type} [Monad m] [Variables m]

def lookupAll : List String → m (List (String × Option String))
  | [] => return []
  | name :: rest => do return (name, ← value? name) :: (← lookupAll rest)

/-- The options that the settings describe in the environment at hand. -/
def optionsHere (s : Settings) : m (Except Error (Options TokenBuilder)) := do
  -- The variables are read first, so that replacing them is a function of their values.
  let known ← lookupAll (variablesOf s.runtimePath)
  return s.options fun name => (known.lookup name).join

/-- The directory of the user's configuration files. -/
def userDirectory? : m (Option String) := do
  match ← value? "XDG_CONFIG_HOME" with
  -- A relative directory is treated as if the variable were not set.
  | some dir => if Path.isAbsolute dir then return some dir else home?
  | none => home?
where
  home? : m (Option String) := do
    match ← value? "HOME" with
    | some dir => return if dir.isEmpty then none else some (Path.join dir ".config")
    | none => return none

variable [FileStore m]

/-- The settings of a configuration file. -/
def ofFile (path : String) : m (Except Error Settings) := do
  if ← pathExists path then
    match ← readText path with
    | .ok text => return parse text
    | .error e => return .error (.read e)
  else return .error (.fileNotFound path)

/-- The settings of the user's own configuration file, if there is one. -/
def ofUser : m (Except Error Settings) := do
  match ← userDirectory? with
  | some dir =>
    let path := Path.join (Path.join dir "sqlgen") "config.toml"
    -- Only the user's own file may be missing.
    if ← pathExists path then ofFile path else return .ok standard
  | none => return .ok standard

/-- The settings in force: those of the file that a variable names, of the file in the working
directory, or of the user's own file, in this order. -/
def load : m (Except Error Settings) := do
  match ← value? "SQLGEN_CONFIG" with
  | some path => ofFile path
  | none => if ← pathExists "sqlgen.toml" then ofFile "sqlgen.toml" else ofUser

end Settings

end QueryCompiler.Config
