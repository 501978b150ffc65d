import QueryCompiler.Query.Error

/-!
# Reporting

What is reported while a file is read, in order. What was reported before an error is kept with it.
-/

namespace QueryCompiler.Query

open Text

inductive Severity where
  | error
  | warning
deriving DecidableEq, Inhabited

/-- A message about a place in the source. -/
structure Diagnostic where
  pos : Pos
  severity : Severity
  message : String
deriving DecidableEq, Inhabited

namespace Diagnostic

def warning (pos : Pos) (message : String) : Diagnostic := ⟨pos, .warning, message⟩

def ofError (e : Error) : Diagnostic := ⟨e.pos, .error, e.message⟩

def render (d : Diagnostic) : String :=
  let level := match d.severity with
    | .error => "error"
    | .warning => "warning"
  s!"{level}: {d.message} (at {d.pos.render})"

end Diagnostic

/-- What to do about a call outside the vocabulary. -/
inductive Policy where
  /-- Report it and go on without it. -/
  | warn
  | error
deriving DecidableEq, Inhabited

namespace Policy

def name : Policy → String
  | .warn => "warn"
  | .error => "error"

def ofName? (s : String) : Option Policy := [Policy.warn, .error].find? (·.name == s)

end Policy

/-- The policy in force and what has been reported under it. -/
structure Reporter where
  policy : Policy
  diagnostics : List Diagnostic
deriving DecidableEq, Inhabited

def Reporter.ofPolicy (p : Policy) : Reporter := ⟨p, []⟩

/-- A computation that reports and may fail. -/
abbrev Report := ExceptT Error (StateM Reporter)

namespace Report

def warn (pos : Pos) (message : String) : Report Unit :=
  modify fun r => { r with diagnostics := r.diagnostics ++ [.warning pos message] }

/-- Reports a call outside the vocabulary, as the policy has it. -/
def unsupported (pos : Pos) (message : String) : Report Unit := do
  match (← get).policy with
  | .warn => warn pos message
  | .error => throw (.unsupported pos message)

def run {α : Type} (p : Policy) (x : Report α) : Except Error α × List Diagnostic :=
  let (result, reporter) := (ExceptT.run x).run (.ofPolicy p)
  (result, reporter.diagnostics)

end Report

end QueryCompiler.Query
