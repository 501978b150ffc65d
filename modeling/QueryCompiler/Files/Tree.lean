import QueryCompiler.Files.Path
import QueryCompiler.Files.Store

/-!
# Trees of files

A tree maps places to files and directories. A place is the list of names from the root; the root
itself is always a directory. That no place is held twice, and that places are made of proper names,
is part of a tree: `put` and `erase` keep it.
-/

namespace QueryCompiler.Files

/-- The names from the root to a file or directory. -/
abbrev Place := List String

/-- Whether a place is made of names that directories can hold. -/
def Place.IsNamed (p : Place) : Prop := ∀ name ∈ p, Path.IsName name

instance (p : Place) : Decidable p.IsNamed :=
  inferInstanceAs (Decidable (∀ name ∈ p, Path.IsName name))

/-- What a tree holds at a place. -/
inductive Entry where
  | directory
  | text (content : String)
  /-- A file whose bytes are no text. -/
  | binary (bytes : List UInt8)
deriving DecidableEq, Inhabited

/-- Files and directories, and the directory that paths start from. -/
structure Tree where
  entries : List (Place × Entry)
  workingDir : Place
  /-- No place has two entries. -/
  distinct : (entries.map (·.1)).Nodup := by decide
  named : ∀ entry ∈ entries, entry.1.IsNamed := by decide
  workingDir_named : workingDir.IsNamed := by decide
deriving DecidableEq

namespace Tree

/-- A tree with nothing but the root. -/
instance : Inhabited Tree := ⟨{ entries := [], workingDir := [] }⟩

def get? (t : Tree) (p : Place) : Option Entry :=
  if p.isEmpty then some .directory else t.entries.lookup p

def erase (t : Tree) (p : Place) : Tree where
  entries := t.entries.filter (·.1 != p)
  workingDir := t.workingDir
  distinct := t.distinct.sublist (List.filter_sublist.map _)
  named entry hentry := t.named entry (List.mem_filter.mp hentry).1
  workingDir_named := t.workingDir_named

/-- What is taken out is not there any more. -/
theorem notMem_erase (t : Tree) (p : Place) : p ∉ (t.erase p).entries.map (·.1) := by
  simp [erase]

/-- Puts an entry in the place of another, or adds it. -/
def put (t : Tree) (p : Place) (e : Entry) (hp : p.IsNamed) : Tree where
  entries := (t.erase p).entries ++ [(p, e)]
  workingDir := t.workingDir
  distinct := by
    rw [List.map_append, List.nodup_append]
    refine ⟨(t.erase p).distinct, List.pairwise_singleton _ _, fun q hq r hr heq => ?_⟩
    rw [heq, List.mem_singleton.mp hr] at hq
    exact t.notMem_erase p hq
  named := List.forall_mem_append.mpr ⟨(t.erase p).named, List.forall_mem_singleton.mpr hp⟩
  workingDir_named := t.workingDir_named

/-- Fails unless there is a directory. -/
def enter (t : Tree) (p : Place) : Except Fault Unit :=
  match t.get? p with
  | some .directory => .ok ()
  | some _ => .error .notDirectory
  | none => .error .notFound

/-- Where one part of a path leads to. -/
def step (p : Place) (part : String) : Place :=
  if Path.isVoid part then p else if part = ".." then p.dropLast else p ++ [part]

/-- Where a path leads by its parts alone. -/
def target (t : Tree) (path : String) : Place :=
  (Path.parts path).foldl step (if Path.isAbsolute path then [] else t.workingDir)

/-- A step to a proper part keeps the names of a place proper. -/
theorem isNamed_step {p : Place} (hp : p.IsNamed) {part : String} (h : '/' ∉ part.toList) :
    (step p part).IsNamed := by
  unfold step
  split
  · exact hp
  · next hvoid =>
    split
    · exact fun name hname => hp name (List.dropLast_subset _ hname)
    · next hup =>
      have hpart : Path.IsName part := ⟨Bool.eq_false_iff.mpr hvoid, hup, h⟩
      exact List.forall_mem_append.mpr ⟨hp, List.forall_mem_singleton.mpr hpart⟩

/-- A path leads to a place made of names. Induction along its parts, none of which has a slash. -/
theorem isNamed_target (t : Tree) (path : String) : (t.target path).IsNamed := by
  have hfold : ∀ (parts : List String) (p : Place), p.IsNamed →
      (∀ part ∈ parts, '/' ∉ part.toList) → Place.IsNamed (parts.foldl step p) := by
    intro parts
    induction parts with
    | nil => exact fun p hp _ => hp
    | cons part rest ih =>
      intro p hp hparts
      obtain ⟨hpart, hrest⟩ := List.forall_mem_cons.mp hparts
      exact ih _ (isNamed_step hp hpart) hrest
  refine hfold _ _ ?_ fun part => Path.slash_notMem_of_mem_parts
  split
  · exact List.forall_mem_nil _
  · exact t.workingDir_named

/-- Follows the parts of a path. All but the last have to lead to directories. -/
def follow (t : Tree) (p : Place) : List String → Except Fault Place
  | [] => .ok p
  | part :: rest => do
    -- Checked before the step, so that `..` too has to start in a directory.
    t.enter p
    t.follow (step p part) rest

/-- The place that a path means, whether anything is there or not: its target, if the way there goes
through directories. -/
def resolve (t : Tree) (path : String) : Except Fault Place :=
  if path.isEmpty then .error .notFound
  else t.follow (if Path.isAbsolute path then [] else t.workingDir) (Path.parts path)

/-- What a path leads to. -/
def lookup (t : Tree) (path : String) : Except Fault (Place × Entry) := do
  let p ← t.resolve path
  match t.get? p with
  | some e => return (p, e)
  | none => throw .notFound

def kind? (t : Tree) (path : String) : Option Kind :=
  match t.lookup path with
  | .ok (_, .directory) => some .directory
  | .ok _ => some .file
  | .error _ => none

def readText (t : Tree) (path : String) : Except Fault String := do
  match (← t.lookup path).2 with
  | .text content => return content
  | .binary _ => throw .invalidText
  | .directory => throw .isDirectory

def writeText (t : Tree) (path content : String) : Except Fault Tree := do
  match t.get? (← t.resolve path) with
  | some .directory => throw .isDirectory
  | _ =>
    -- Behind a point or `..` at the end, this is not where the last step began.
    t.enter (t.target path).dropLast
    return t.put (t.target path) (.text content) (t.isNamed_target path)

def removeFile (t : Tree) (path : String) : Except Fault Tree := do
  match ← t.lookup path with
  | (_, .directory) => throw .isDirectory
  | (p, _) => return t.erase p

def makeDirectory (t : Tree) (path : String) : Except Fault Tree := do
  match t.get? (← t.resolve path) with
  | some _ => throw .alreadyExists
  | none =>
    t.enter (t.target path).dropLast
    return t.put (t.target path) .directory (t.isNamed_target path)

def children (t : Tree) (p : Place) : List String :=
  t.entries.filterMap fun (q, _) => if q.dropLast = p then q.getLast? else none

def names (t : Tree) (path : String) : Except Fault (List String) := do
  match ← t.lookup path with
  | (p, .directory) => return t.children p
  | _ => throw .notDirectory

end Tree

/-- A tree of files together with environment variables. -/
structure Machine where
  tree : Tree
  env : List (String × String)
deriving Inhabited

/-- Changes the tree, unless that fails. -/
def Machine.change (f : Tree → Except Fault Tree) : StateM Machine (Except Fault Unit) := fun s =>
  match f s.tree with
  | .ok tree => (.ok (), { s with tree })
  | .error e => (.error e, s)

instance : FileStore (StateM Machine) where
  kind? path := return (← get).tree.kind? path
  readText path := return (← get).tree.readText path
  writeText path content := Machine.change (·.writeText path content)
  removeFile path := Machine.change (·.removeFile path)
  makeDirectory path := Machine.change (·.makeDirectory path)
  names path := return (← get).tree.names path

instance : Variables (StateM Machine) where
  value? name := return (← get).env.lookup name

end QueryCompiler.Files
