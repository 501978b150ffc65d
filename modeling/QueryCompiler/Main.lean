import QueryCompiler.Command.Run

/-!
# The program

The command line on real files.
-/

namespace QueryCompiler.Files

/-- The fault that an error of the operating system stands for. -/
def Fault.ofError (e : IO.Error) : Fault :=
  match e with
  | .noFileOrDirectory .. => .notFound
  | .alreadyExists .. => .alreadyExists
  | .inappropriateType _ code _ => if code = 20 then .notDirectory else .isDirectory
  | e => .other e.toString

def attempt {α : Type} (x : IO α) : IO (Except Fault α) := do
  try return .ok (← x) catch e => return .error (.ofError e)

/-- The text of a file. -/
def readFileText (path : String) : IO (Except Fault String) := do
  match ← attempt (IO.FS.readBinFile path) with
  | .error e => return .error e
  | .ok bytes =>
    match String.fromUTF8? bytes with
    | some text => return .ok text
    | none => return .error .invalidText

/-- What is at a path. -/
def probe (path : String) : IO (Option Kind) := do
  let entry : IO.FS.DirEntry := ⟨path, ""⟩
  match ← attempt entry.root.metadata with
  | .ok data =>
    match data.type with
    | .dir => return some .directory
    | _ => return some .file
  | .error _ => return none

def listing (path : String) : IO (List String) := do
  let entry : IO.FS.DirEntry := ⟨path, ""⟩
  return (← entry.root.readDir).toList.map (·.fileName)

instance : FileStore IO where
  kind? := probe
  readText := readFileText
  writeText path content := attempt (IO.FS.writeFile path content)
  removeFile path := attempt (IO.FS.removeFile path)
  makeDirectory path := attempt (IO.FS.createDir path)
  names path := attempt (listing path)

instance : Variables IO where
  value? name := IO.getEnv name

end QueryCompiler.Files

open QueryCompiler Command

def main (args : List String) : IO UInt32 := do
  let outcome : Outcome ← run args
  IO.eprint (unlines outcome.err)
  IO.print (unlines outcome.out)
  return .ofNat outcome.exitCode
