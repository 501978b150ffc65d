/-!
# Access to files

What a computation may ask of the file system and of the environment. Everything that works on files
is written against these two classes, so it runs on real files and on a pure tree of them alike.
-/

namespace QueryCompiler.Files

/-- Why an operation on a file fails. -/
inductive Fault where
  | notFound
  | alreadyExists
  | notDirectory
  | isDirectory
  | invalidText
  | other (message : String)
deriving DecidableEq, Inhabited

def Fault.message : Fault → String
  | .notFound => "No such file or directory (os error 2)"
  | .alreadyExists => "File exists (os error 17)"
  | .notDirectory => "Not a directory (os error 20)"
  | .isDirectory => "Is a directory (os error 21)"
  | .invalidText => "stream did not contain valid UTF-8"
  | .other message => message

/-- What a path leads to. -/
inductive Kind where
  | file
  | directory
deriving DecidableEq, Inhabited

/-- Operations on files. -/
class FileStore (m : Type → Type) where
  /-- What a path leads to, if anything. -/
  kind? : String → m (Option Kind)
  readText : String → m (Except Fault String)
  /-- Makes a file, or replaces what it holds. -/
  writeText : String → String → m (Except Fault Unit)
  removeFile : String → m (Except Fault Unit)
  makeDirectory : String → m (Except Fault Unit)
  /-- The names in a directory, in any order. -/
  names : String → m (Except Fault (List String))

/-- Access to environment variables. -/
class Variables (m : Type → Type) where
  value? : String → m (Option String)

namespace FileStore

variable {m : Type → Type} [Monad m] [FileStore m]

def pathExists (path : String) : m Bool := return (← kind? path).isSome

def isDirectory (path : String) : m Bool := return (← kind? path) = some .directory

def isFile (path : String) : m Bool := return (← kind? path) = some .file

/-- Makes the first directory of a list, the others being those that enclose it. -/
def makeEnclosed : List String → m (Except Fault Unit)
  | [] => return .error (.other "failed to create whole tree")
  | path :: outer => do
    -- The empty path is the working directory.
    if path.isEmpty then return .ok ()
    match ← makeDirectory path with
    | .ok () => return .ok ()
    -- Something above is missing; it is made first.
    | .error .notFound =>
      match ← makeEnclosed outer with
      | .error e => return .error e
      | .ok () => settle path (← makeDirectory path)
    | .error e => settle path (.error e)
where
  /-- A directory that is there need not be made. -/
  settle (path : String) : Except Fault Unit → m (Except Fault Unit)
    | .ok () => return .ok ()
    | .error e => do
      if ← isDirectory path then return .ok () else return .error e

end FileStore

end QueryCompiler.Files
