/-!
# Values of a configuration

A configuration is a table of values. How a table came about decides who may add to it: a header may
fill in a table that was only implied by another header, and dotted keys may only add to tables that
dotted keys made.
-/

namespace QueryCompiler.Config

/-- How a table came about. -/
inductive TableKind where
  /-- Written out under a header. -/
  | header
  /-- Named on the way to another header. -/
  | implied
  /-- Made by a dotted key. -/
  | dotted
  /-- Written in braces, and complete. -/
  | inline
deriving DecidableEq, Inhabited

/-- A value. What nothing asks for is not kept. -/
inductive Value where
  | string (s : String)
  | integer (v : Int)
  | float
  | boolean (b : Bool)
  | datetime
  | array (items : List Value)
  /-- The tables under a header in double brackets. -/
  | tables (items : List Value)
  | table (kind : TableKind) (entries : List (String × Value))
deriving Inhabited

abbrev Entries := List (String × Value)

namespace Entries

/-- Puts a value in the place of the one under the same key, or behind all others. -/
def put (es : Entries) (key : String) (v : Value) : Entries :=
  match es with
  | [] => [(key, v)]
  | (k, old) :: rest => if k = key then (k, v) :: rest else (k, old) :: put rest key v

/-- Adds a value under a new key. -/
def add? (es : Entries) (key : String) (v : Value) : Option Entries :=
  if (es.lookup key).isSome then none else some (es.put key v)

/-- Adds a value under a dotted key: `path` leads to the table, `key` is the last part. The table
has to be one that dotted keys made. -/
def assign? (es : Entries) (key : String) (v : Value) : List String → Option Entries
  | [] => es.add? key v
  | part :: path =>
    match es.lookup part with
    | none => do return es.put part (.table .dotted (← assign? [] key v path))
    | some (.table .dotted inner) => do
      return es.put part (.table .dotted (← assign? inner key v path))
    | some (.table .implied inner) =>
      -- A dotted key may pass through an implied table but not add to it.
      if path.isEmpty then none
      else do return es.put part (.table .implied (← assign? inner key v path))
    | _ => none

/-- Changes the table that a header leads to. Tables on the way are implied where they are missing;
of tables in double brackets the last one is meant. -/
def within? (f : Entries → Option Entries) (es : Entries) : List String → Option Entries
  | [] => f es
  | part :: path =>
    match es.lookup part with
    | none => do return es.put part (.table .implied (← within? f [] path))
    | some (.table kind inner) =>
      -- A table in braces is complete.
      if kind = .inline then none
      else do return es.put part (.table kind (← within? f inner path))
    | some (.tables items) =>
      match items.getLast? with
      | some (.table kind inner) => do
        return es.put part (.tables (items.dropLast ++ [.table kind (← within? f inner path)]))
      | _ => none
    | _ => none

/-- Opens the table of a header: a new one, or one that was only implied so far. -/
def openTable? (key : String) (es : Entries) : Option Entries :=
  match es.lookup key with
  | none => some (es.put key (.table .header []))
  | some (.table .implied inner) => some (es.put key (.table .header inner))
  | _ => none

/-- Opens one more table under a header in double brackets. -/
def openItem? (key : String) (es : Entries) : Option Entries :=
  match es.lookup key with
  | none => some (es.put key (.tables [.table .header []]))
  | some (.tables items) => some (es.put key (.tables (items ++ [.table .header []])))
  | _ => none

end Entries

end QueryCompiler.Config
