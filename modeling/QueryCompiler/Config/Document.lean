import QueryCompiler.Config.Quoted
import QueryCompiler.Config.Scalar

/-!
# Configuration files

A file is a sequence of lines: headers that open a table, and keys with their values. Values may
themselves extend over several lines.
-/

namespace QueryCompiler.Config

open Quoted

namespace Document

/-- Leaves out the blanks that come next. -/
def spaces (cs : List Char) : List Char := cs.dropWhile isSpace

/-- Leaves out a comment, up to the end of the line. -/
def comment? : List Char → Option (List Char)
  | '#' :: rest =>
    let rest := rest.dropWhile isPlain
    -- A control character in a comment is an error.
    if rest.isEmpty ∨ 0 < breakSize rest then some rest else none
  | cs => some cs

/-- Takes the rest of a line: blanks and a comment, up to the line break or the end. -/
def lineEnd? (cs : List Char) : Option (List Char) := do
  let rest ← comment? (spaces cs)
  if rest.isEmpty then return []
  else if 0 < breakSize rest then return rest.drop (breakSize rest)
  else none

/-- Leaves out blanks, line breaks and comments, as they may stand between the items of an array. -/
def gap? (cs : List Char) : Option (List Char) :=
  let rest := cs.drop (gapSize cs)
  if rest.head? = some '#' then
    match comment? rest with
    | none => none
    | some after => if after.length < cs.length then gap? after else none
  else some rest
termination_by cs.length

def isBare (c : Char) : Bool := c.isAlphanum || c == '_' || c == '-'

/-- One part of a key. -/
def keyPart? (cs : List Char) : Option (String × List Char) :=
  match cs with
  | '"' :: _ | '\'' :: _ => scanLine? cs
  | cs =>
    let bare := cs.takeWhile isBare
    if bare.isEmpty then none else some (String.ofList bare, cs.dropWhile isBare)

/-- A key: parts with points between them. -/
def key? (cs : List Char) : Option (List String × List Char) :=
  match keyPart? cs with
  | none => none
  | some (part, rest) =>
    match spaces rest with
    | '.' :: more =>
      if (spaces more).length < cs.length then do
        let (parts, rest) ← key? (spaces more)
        return (part :: parts, rest)
      else none
    | rest => some ([part], rest)
termination_by cs.length

/-- The items of an array behind its opening bracket or behind a comma. -/
def items? (item : List Char → Option (Value × List Char)) (cs : List Char) :
    Option (List Value × List Char) :=
  match gap? cs with
  | none => none
  -- Also behind a comma, which may come last.
  | some (']' :: rest) => some ([], rest)
  | some body =>
    match item body with
    | none => none
    | some (v, rest) =>
      match gap? rest with
      | some (',' :: more) =>
        if more.length < cs.length then do
          let (vs, rest) ← items? item more
          return (v :: vs, rest)
        else none
      | some (']' :: rest) => some ([v], rest)
      | _ => none
termination_by cs.length

/-- A key and its value, as they stand in a table. -/
def pair? (value : List Char → Option (Value × List Char)) (cs : List Char) :
    Option (List String × Value × List Char) := do
  let (key, rest) ← key? cs
  match rest with
  | '=' :: rest =>
    let (v, rest) ← value (spaces rest)
    return (key, v, rest)
  | _ => none

/-- Adds a value under a key of one or more parts. -/
def assign? (es : Entries) (key : List String) (v : Value) : Option Entries := do
  es.assign? (← key.getLast?) v key.dropLast

/-- The pairs of a table in braces, behind the opening one or behind a comma. -/
def pairs? (value : List Char → Option (Value × List Char)) (es : Entries) (cs : List Char) :
    Option (Entries × List Char) :=
  match pair? value (spaces cs) with
  | none => none
  | some (key, v, rest) =>
    match assign? es key v with
    | none => none
    | some es =>
      match spaces rest with
      | ',' :: more => if more.length < cs.length then pairs? value es more else none
      | '}' :: rest => some (es, rest)
      | _ => none
termination_by cs.length

/-- A value. Arrays and tables may be nested as deep as given. -/
def value? : Nat → List Char → Option (Value × List Char)
  | 0, _ => none
  | depth + 1, cs =>
    match cs with
    | '"' :: _ | '\'' :: _ => do
      let (s, rest) ← scan? cs
      return (.string s, rest)
    | '[' :: rest => do
      let (vs, rest) ← items? (value? depth) rest
      return (.array vs, rest)
    | '{' :: rest =>
      match spaces rest with
      -- Behind a comma there has to be a pair, so only an empty table is closed here.
      | '}' :: rest => some (.table .inline [], rest)
      | rest => do
        let (es, rest) ← pairs? (value? depth) [] rest
        return (.table .inline es, rest)
    | cs => Scalar.scan? cs

def maxDepth : Nat := 80

/-- What has been read: all tables, and the key of the one that is open. -/
structure State where
  root : Entries
  path : List String
deriving Inhabited

/-- Reads a header, behind its opening bracket. -/
def header? (st : State) (cs : List Char) : Option (State × List Char) := do
  match cs with
  | '[' :: rest =>
    let (path, rest) ← key? (spaces rest)
    match rest with
    | ']' :: ']' :: rest =>
      let root ← st.root.within? (Entries.openItem? (← path.getLast?)) path.dropLast
      return (⟨root, path⟩, rest)
    | _ => none
  | cs =>
    let (path, rest) ← key? (spaces cs)
    match rest with
    | ']' :: rest =>
      let root ← st.root.within? (Entries.openTable? (← path.getLast?)) path.dropLast
      return (⟨root, path⟩, rest)
    | _ => none

/-- Reads what a line holds besides a comment. -/
def line? (st : State) (cs : List Char) : Option (State × List Char) :=
  match cs with
  | [] => some (st, [])
  | '[' :: rest => header? st rest
  -- What is left of the line is for `lineEnd?`.
  | '#' :: _ | '\n' :: _ | '\r' :: _ => some (st, cs)
  | cs => do
    let (key, v, rest) ← pair? (value? maxDepth) cs
    let root ← st.root.within? (fun es => assign? es key v) st.path
    return (⟨root, st.path⟩, rest)

def lines? (st : State) (cs : List Char) : Option State :=
  if cs.isEmpty then some st
  else
    match line? st (spaces cs) with
    | none => none
    | some (st, rest) =>
      match lineEnd? rest with
      | none => none
      | some rest => if rest.length < cs.length then lines? st rest else none
termination_by cs.length

end Document

/-- The table that a configuration file holds. -/
def parse? (text : String) : Option Entries :=
  let cs := match text.toList with
    | '\ufeff' :: rest => rest
    | cs => cs
  (Document.lines? ⟨[], []⟩ cs).map (·.root)

end QueryCompiler.Config
