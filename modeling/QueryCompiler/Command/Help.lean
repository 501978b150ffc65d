import QueryCompiler.Command.Line

/-!
# Help

Help describes the program or one of its commands: what it is for, how it is called, and in two
columns what may be given. The second column starts two blanks behind the longest entry of the
first.
-/

namespace QueryCompiler.Command

open Sql

/-- One line of help in two columns. -/
structure Entry where
  spec : String
  about : String
deriving DecidableEq, Inhabited

namespace Entry

/-- Entries below each other, indented and aligned. -/
def column (es : List Entry) : List String :=
  -- In characters, as all texts here are ASCII.
  let width := es.foldl (fun n e => max n e.spec.length) 0
  es.map fun e => "  " ++ e.spec.pushn ' ' (width - e.spec.length) ++ "  " ++ e.about

/-- Entries under their title, with a blank line before it. Without entries there is no title. -/
def block (title : String) (es : List Entry) : List String :=
  if es.isEmpty then [] else ["", title ++ ":"] ++ column es

end Entry

def Setting.entry : Setting → Entry
  | .config => ⟨"-c, --config <CONFIG>", "Path to a sqlgen.toml config file"⟩
  | .output =>
    ⟨"-o, --output <OUTPUT>", "Output directory (defaults to `gen` next to the input)"⟩
  | .dialect =>
    ⟨"-d, --dialect <DIALECT>", "SQL dialect to generate [possible values: " ++
      String.intercalate ", " (Dialect.all.map Dialect.name) ++ "]"⟩

def Switch.entry : Switch → Entry
  | .verbose => ⟨"-v, --verbose", "Log debug output to stderr"⟩
  | .strict => ⟨"    --strict", "Fail on calls outside the builder vocabulary"⟩
  | .help => ⟨"-h, --help", "Print help"⟩
  | .version => ⟨"-V, --version", "Print version"⟩

namespace Level

def about : Level → String
  | .main => "sqlgen - Compile a builder-call DSL into SQL and async accessors"
  | .compile => "Compile a DSL file, or every .rs file in a directory"
  | .list => "List the functions of a DSL file with their SQL"
  | .check => "Validate a DSL file without writing output"

def usage : Level → String
  | .main => "Usage: sqlgen [OPTIONS] <COMMAND>"
  | .compile => "Usage: sqlgen compile [OPTIONS] <INPUT>"
  | .list => "Usage: sqlgen list [OPTIONS] <FILE>"
  | .check => "Usage: sqlgen check [OPTIONS] <FILE>"

/-- The commands that may follow. -/
def commandEntries : Level → List Entry
  | .main => commands.map (fun l => ⟨l.name, l.about⟩) ++
      [⟨"help", "Print this message or the help of the given subcommand(s)"⟩]
  | _ => []

def argumentEntries : Level → List Entry
  | .main => []
  | .compile => [⟨"<INPUT>", "Path to the DSL file or directory"⟩]
  | .list | .check => [⟨"<FILE>", "Path to the DSL file"⟩]

def optionEntries : Level → List Entry
  | .main => [Setting.config.entry, Switch.verbose.entry, Switch.help.entry, Switch.version.entry]
  | .compile => [Setting.config.entry, Setting.output.entry, Setting.dialect.entry,
      Switch.verbose.entry, Switch.strict.entry, Switch.help.entry]
  | .list =>
    [Setting.config.entry, Setting.dialect.entry, Switch.verbose.entry, Switch.help.entry]
  | .check =>
    [Setting.config.entry, Switch.strict.entry, Switch.verbose.entry, Switch.help.entry]

def help (level : Level) : List String :=
  [level.about, "", level.usage] ++ Entry.block "Commands" level.commandEntries ++
    Entry.block "Arguments" level.argumentEntries ++ Entry.block "Options" level.optionEntries

end Level

end QueryCompiler.Command
