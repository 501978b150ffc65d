import QueryCompiler.Text.Class

/-!
# Texts with variables

A variable is written as `$name`, or between braces behind the dollar sign. A dollar sign that names
no variable stands for itself. Values are not searched for variables again.
-/

namespace QueryCompiler.Config

open Text

/-- A piece of such a text. -/
inductive Part where
  | char (c : Char)
  | reference (name : String)
deriving DecidableEq, Inhabited

/-- The characters of a name without braces. -/
def isNameChar (c : Char) : Bool := isAlphanumeric c || c == '_'

/-- The pieces of a text. A brace that is not closed reaches to the end. -/
def partsOf (cs : List Char) : List Part :=
  match cs with
  | [] => []
  | '$' :: '{' :: body =>
    .reference (String.ofList (body.takeWhile (· != '}'))) ::
      -- The closing brace goes with the name.
      partsOf ((body.dropWhile (· != '}')).drop 1)
  | '$' :: rest =>
    if (rest.takeWhile isNameChar).isEmpty then .char '$' :: partsOf rest
    else
      .reference (String.ofList (rest.takeWhile isNameChar)) :: partsOf (rest.dropWhile isNameChar)
  | c :: rest => .char c :: partsOf rest
termination_by cs.length
decreasing_by
  · have := (List.dropWhile_sublist (fun c => c != '}') (l := body)).length_le
    simp only [List.length_drop, List.length_cons]
    omega
  · simp
  · have := (List.dropWhile_sublist isNameChar (l := rest)).length_le
    simp only [List.length_cons]
    omega
  · simp

def variablesOf (s : String) : List String :=
  (partsOf s.toList).filterMap fun
    | .reference name => some name
    | .char _ => none

/-- A piece with its variable replaced; fails with the name of a variable that has no value. -/
def expandPart (env : String → Option String) : Part → Except String (List Char)
  | .char c => .ok [c]
  | .reference name =>
    match env name with
    | some value => .ok value.toList
    | none => .error name

/-- A text with its variables replaced; fails with the name of the first that has no value. -/
def expand (env : String → Option String) (s : String) : Except String String := do
  let pieces ← (partsOf s.toList).mapM (expandPart env)
  return String.ofList pieces.flatten

end QueryCompiler.Config
