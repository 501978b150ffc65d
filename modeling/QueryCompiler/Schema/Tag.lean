import QueryCompiler.Text.Split

/-!
# Tags

A tag is a text of words such as `name:"user_id"`. A word holds a pair where a run of word
characters stands before a colon and a quote, and a further quote closes a value that is not empty.
Other words say nothing.
-/

namespace QueryCompiler.Schema

open Text

/-- The pairs of a tag in their order. -/
structure Tag where
  pairs : List (String × String)
deriving DecidableEq, Inhabited

namespace Tag

/-- What stands before the last quote, unless it is nothing. -/
def beforeLastQuote? (cs : List Char) : Option (List Char) :=
  match cs.reverse.dropWhile (· != '"') with
  | _ :: c :: rest => some (c :: rest).reverse
  | _ => none

/-- The pair in a word. `run` holds the word characters right before `cs`, in reverse. -/
def pairFrom? (run : List Char) : List Char → Option (String × String)
  | [] => none
  | c :: rest =>
    if c = ':' ∧ rest.head? = some '"' ∧ run ≠ [] then
      match beforeLastQuote? (rest.drop 1) with
      | some value => some (String.ofList run.reverse, String.ofList value)
      -- The colon ends the run; the quote behind it cannot begin one.
      | none => pairFrom? [] rest
    else if isWord c then pairFrom? (c :: run) rest
    else pairFrom? [] rest

def pair? (word : List Char) : Option (String × String) := pairFrom? [] word

def parse (text : String) : Tag := ⟨(words text.toList).filterMap pair?⟩

def get? (t : Tag) (key : String) : Option String := t.pairs.lookup key

def name? (t : Tag) : Option String := t.get? "name"

def isIdentity (t : Tag) : Bool := t.get? "identity" == some "true"

def tableName? (t : Tag) : Option String := t.get? "tableName"

end Tag

end QueryCompiler.Schema
