import QueryCompiler.Text.Split

/-!
# Paths

A path is a text; its parts stand between slashes. A point stands for the directory itself, and
makes no difference but at the start.
-/

namespace QueryCompiler.Files.Path

open Text

/-- The parts between the slashes, as they are written. -/
def parts (path : String) : List String :=
  (splitWhen (· == '/') path.toList).map String.ofList

def ofParts : List String → String
  | [""] => "/"
  | ps => String.intercalate "/" ps

/-- Whether a part makes no difference. -/
def isVoid (part : String) : Bool := part == "" || part == "."

/-- Whether a directory can hold something of that name. -/
def IsName (name : String) : Prop := isVoid name = false ∧ name ≠ ".." ∧ '/' ∉ name.toList

instance (name : String) : Decidable (IsName name) :=
  inferInstanceAs (Decidable (isVoid name = false ∧ name ≠ ".." ∧ '/' ∉ name.toList))

/-- Parts are what the slashes leave. -/
theorem slash_notMem_of_mem_parts {path part : String} (h : part ∈ parts path) :
    '/' ∉ part.toList := by
  obtain ⟨piece, hpiece, rfl⟩ := List.mem_map.mp h
  rw [String.toList_ofList]
  exact fun hslash => absurd (separator_of_mem_splitWhen hpiece '/' hslash) (by decide)

/-- The parts without those at the end that make no difference. The first part stays. -/
def trimmed : List String → List String
  | [] => []
  | first :: rest => first :: (rest.reverse.dropWhile isVoid).reverse

def isAbsolute (path : String) : Bool := path.toList.head? == some '/'

/-- The name of what a path leads to, if it ends with one. -/
def fileName? (path : String) : Option String :=
  match (trimmed (parts path)).getLast? with
  | some name => if isVoid name || name == ".." then none else some name
  | none => none

/-- The path of the enclosing directory. It is empty for a single name. -/
def parent? (path : String) : Option String :=
  match trimmed (parts path) with
  -- The empty path and the root.
  | [] | [""] => none
  | [_] => some ""
  | ps => some (ofParts (trimmed ps.dropLast))

/-- All enclosing directories, the nearest first, and before them the path itself. -/
def ancestors (path : String) : List String := go path.length path
where
  /-- Each path is shorter than the one before. -/
  go : Nat → String → List String
    | 0, path => [path]
    | n + 1, path =>
      match parent? path with
      | some up => path :: go n up
      | none => [path]

/-- A path taken from a directory. -/
def join (dir path : String) : String :=
  -- An absolute path replaces the directory.
  if isAbsolute path || dir.isEmpty then path
  else if dir.toList.getLast? = some '/' then dir ++ path
  else dir ++ "/" ++ path

/-- What stands behind the last point of a name. A point at its start does not count. -/
def extension? (name : String) : Option String :=
  let cs := name.toList.reverse
  let ext := cs.takeWhile (· != '.')
  if ext.length + 1 < cs.length ∧ name ≠ ".." then some (String.ofList ext.reverse) else none

end QueryCompiler.Files.Path
