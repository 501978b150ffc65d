import QueryCompiler.Sql.Dialect

/-!
# The command line

`compile INPUT`, `list FILE` and `check FILE`, each with its options. The path of a configuration
file and the switch for more output may stand before the command or behind it.
-/

namespace QueryCompiler.Command

open Sql

/-- Options that take a value. -/
inductive Setting where
  | config
  | output
  | dialect
deriving DecidableEq, Inhabited

/-- Options that take none. -/
inductive Switch where
  | verbose
  | strict
  | help
  | version
deriving DecidableEq, Inhabited

namespace Setting

def all : List Setting := [.config, .output, .dialect]

def long : Setting → String
  | .config => "config"
  | .output => "output"
  | .dialect => "dialect"

def short : Setting → Char
  | .config => 'c'
  | .output => 'o'
  | .dialect => 'd'

end Setting

namespace Switch

def all : List Switch := [.verbose, .strict, .help, .version]

def long : Switch → String
  | .verbose => "verbose"
  | .strict => "strict"
  | .help => "help"
  | .version => "version"

def short? : Switch → Option Char
  | .verbose => some 'v'
  | .strict => none
  | .help => some 'h'
  | .version => some 'V'

end Switch

/-- The parts of a command line: before the command, and behind each of the commands. -/
inductive Level where
  | main
  | compile
  | list
  | check
deriving DecidableEq, Inhabited

namespace Level

def commands : List Level := [.compile, .list, .check]

def name : Level → String
  | .main => ""
  | .compile => "compile"
  | .list => "list"
  | .check => "check"

def settings : Level → List Setting
  | .main | .check => [.config]
  | .compile => [.config, .output, .dialect]
  | .list => [.config, .dialect]

def switches : Level → List Switch
  | .main => [.verbose, .help, .version]
  | .compile | .check => [.verbose, .strict, .help]
  | .list => [.verbose, .help]

end Level

/-- What has been given at one level. -/
structure Given where
  config : Option String
  output : Option String
  dialect : Option Dialect
  verbose : Bool
  strict : Bool
  /-- The argument that is no option. -/
  path : Option String
deriving DecidableEq, Inhabited

def Given.nothing : Given := ⟨none, none, none, false, false, none⟩

/-- Why a command line asks for nothing to be done. -/
inductive Stop where
  /-- It is not understood. -/
  | usage
  | help (level : Level)
  | version
deriving DecidableEq, Inhabited

namespace Given

/-- Sets a text once; it may not be empty. -/
def once (old : Option String) (s : String) : Except Stop (Option String) :=
  if old.isSome ∨ s.isEmpty then .error .usage else .ok (some s)

/-- Notes the value of an option. Each option may be given once. -/
def set (g : Given) (o : Setting) (s : String) : Except Stop Given :=
  match o with
  | .config => (once g.config s).map fun config => { g with config }
  | .output => (once g.output s).map fun output => { g with output }
  | .dialect =>
    match g.dialect, Dialect.ofName? s with
    | none, some d => .ok { g with dialect := some d }
    | _, _ => .error .usage

/-- Notes a switch. Help and version end the command line. -/
def turnOn (g : Given) (level : Level) : Switch → Except Stop Given
  | .verbose => if g.verbose then .error .usage else .ok { g with verbose := true }
  | .strict => if g.strict then .error .usage else .ok { g with strict := true }
  | .help => .error (.help level)
  | .version => .error .version

def setPath (g : Given) (s : String) : Except Stop Given :=
  (once g.path s).map fun path => { g with path }

end Given

/-- An option with the text that goes with it, if the same argument holds it. -/
inductive OptionArg where
  | setting (o : Setting) (value : Option String)
  | switch (s : Switch)

/-- The option of a long name. -/
def longOption? (level : Level) (body : List Char) : Option OptionArg :=
  let name := String.ofList (body.takeWhile (· != '='))
  let value := match body.dropWhile (· != '=') with
    | _ :: value => some (String.ofList value)
    | [] => none
  match level.settings.find? (·.long == name), level.switches.find? (·.long == name) with
  | some o, _ => some (.setting o value)
  -- A switch takes no value.
  | none, some s => if value.isNone then some (.switch s) else none
  | none, none => none

/-- The options of one argument with short names. The first that takes a value takes all that
follows it, without an equals sign before it. -/
def shortOptions? (level : Level) : List Char → Option (List OptionArg)
  | [] => some []
  | c :: rest =>
    match level.settings.find? (·.short == c), level.switches.find? (·.short? == some c) with
    | some o, _ =>
      let value := match rest with
        | [] => none
        -- One equals sign is left out: `-o=dir` and `-odir` are the same.
        | '=' :: value => some (String.ofList value)
        | value => some (String.ofList value)
      some [.setting o value]
    | none, some s => (shortOptions? level rest).map (.switch s :: ·)
    | none, none => none

/-- Notes all options of an argument. The last may be left waiting for its value. -/
def note (level : Level) (g : Given) : List OptionArg → Except Stop (Given × Option Setting)
  | [] => .ok (g, none)
  | .switch s :: rest => do note level (← g.turnOn level s) rest
  | .setting o (some value) :: rest => do note level (← g.set o value) rest
  -- Nothing follows: a setting takes the rest of its argument.
  | .setting o none :: _ => .ok (g, some o)

/-- What an argument is. -/
inductive Argument where
  | options (os : List OptionArg)
  /-- Two dashes: no options follow. -/
  | divider
  | plain
  | unknown

/-- Tells what an argument is. A single dash is no option. -/
def classify (level : Level) (arg : String) : Argument :=
  match arg.toList with
  | ['-', '-'] => .divider
  | '-' :: '-' :: body =>
    match longOption? level body with
    | some o => .options [o]
    | none => .unknown
  | '-' :: c :: body =>
    match shortOptions? level (c :: body) with
    | some os => .options os
    | none => .unknown
  | _ => .plain

/-- Whether an argument can be the value of an option before it. -/
def isValue (arg : String) : Bool :=
  match arg.toList with
  | '-' :: _ :: _ => false
  | _ => true

/-- Reads the arguments behind a command; `raw` if no options follow. -/
def readLevel (level : Level) (raw : Bool) (g : Given) : List String → Except Stop Given
  | [] => .ok g
  | arg :: rest =>
    -- Behind two dashes everything is a path.
    if raw then do readLevel level raw (← g.setPath arg) rest
    else
      match classify level arg with
      | .plain => do readLevel level raw (← g.setPath arg) rest
      | .divider => readLevel level true g rest
      | .unknown => .error .usage
      | .options os => do
        match ← note level g os, rest with
        | (g, none), rest => readLevel level raw g rest
        | (g, some o), value :: rest =>
          if isValue value then readLevel level raw (← g.set o value) rest else throw .usage
        | (_, some _), [] => throw .usage

/-- What the program is asked to do. -/
inductive Request where
  | compile (input : String) (output : Option String) (dialect : Option Dialect) (strict : Bool)
  | list (file : String) (dialect : Option Dialect)
  | check (file : String) (strict : Bool)
deriving DecidableEq, Inhabited

/-- What the program is asked to do, and under which configuration. -/
structure Invocation where
  config : Option String
  verbose : Bool
  request : Request
deriving DecidableEq, Inhabited

/-- The request of a command. All commands need a path. -/
def requestOf (level : Level) (g : Given) : Except Stop Request :=
  match level, g.path with
  | .compile, some path => .ok (.compile path g.output g.dialect g.strict)
  | .list, some path => .ok (.list path g.dialect)
  | .check, some path => .ok (.check path g.strict)
  | _, _ => .error .usage

/-- What the word `help` with the words behind it asks for. -/
def helpStop : List String → Stop
  | [] => .help .main
  | [name] => ((Level.commands.find? (·.name == name)).map Stop.help).getD .usage
  | _ => .usage

/-- Reads the arguments up to the command and behind it. Of an option that is given on both sides
the one behind the command counts. -/
def readMain (outer : Given) : List String → Except Stop Invocation
  | [] => .error .usage
  | arg :: rest =>
    match classify .main arg with
    | .plain =>
      match Level.commands.find? (·.name == arg) with
      | some level => do
        let inner ← readLevel level false .nothing rest
        let request ← requestOf level inner
        -- Each level allows an option once, so on both sides it is no repetition.
        return ⟨inner.config <|> outer.config, inner.verbose || outer.verbose, request⟩
      | none => .error (if arg = "help" then helpStop rest else .usage)
    | .divider | .unknown => .error .usage
    | .options os => do
      match ← note .main outer os, rest with
      | (outer, none), rest => readMain outer rest
      | (outer, some o), value :: rest =>
        if isValue value then readMain (← outer.set o value) rest else throw .usage
      | (_, some _), [] => throw .usage

def parse (args : List String) : Except Stop Invocation := readMain .nothing args

end QueryCompiler.Command
