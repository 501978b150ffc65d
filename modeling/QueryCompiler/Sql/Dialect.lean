import QueryCompiler.Text.Class

/-!
# Dialects of SQL

What differs between databases is how names and strings are quoted, how truth values are spelled,
how the places of bound values are marked, and whether a delete needs `FROM`.
-/

namespace QueryCompiler.Sql

open Text

/-- Writes every occurrence of one character twice. -/
def doubled (q : Char) : List Char → List Char
  | [] => []
  | c :: rest => if c = q then q :: q :: doubled q rest else c :: doubled q rest

/-- Puts a text between two delimiters; the closing one is written twice inside. -/
def enclose (opening closing : Char) (s : String) : String :=
  String.ofList (opening :: doubled closing s.toList ++ [closing])

/-- The databases that statements can be written for. -/
inductive Dialect where
  | generic
  | postgres
  | mysql
  | tsql
  | sqlite
deriving DecidableEq, Inhabited

namespace Dialect

def all : List Dialect := [.generic, .postgres, .mysql, .tsql, .sqlite]

/-- The name that settings and the command line use. -/
def name : Dialect → String
  | .generic => "generic"
  | .postgres => "postgres"
  | .mysql => "mysql"
  | .tsql => "tsql"
  | .sqlite => "sqlite"

/-- The name as a title. -/
def title : Dialect → String
  | .generic => "Generic"
  | .postgres => "Postgres"
  | .mysql => "MySql"
  | .tsql => "TSql"
  | .sqlite => "Sqlite"

def ofName? (s : String) : Option Dialect := all.find? (·.name == s)

/-- The dialect of that name in any case. -/
def ofAnyCase? (s : String) : Option Dialect :=
  ofName? (String.ofList (s.toList.map asciiLower))

def unknownMessage (s : String) : String := "unknown SQL dialect: " ++ s

/-- A name of a table or column. The generic dialect quotes none. -/
def quoteIdent : Dialect → String → String
  | .generic, s => s
  | .postgres, s | .sqlite, s => enclose '"' '"' s
  -- U+0060, the grave accent.
  | .mysql, s => enclose '\x60' '\x60' s
  | .tsql, s => enclose '[' ']' s

/-- A string. Beyond ASCII, T-SQL wants the mark of a national string. -/
def quoteString (d : Dialect) (s : String) : String :=
  let quoted := enclose '\'' '\'' s
  if d = .tsql ∧ !s.toList.all isAscii then "N" ++ quoted else quoted

/-- A truth value; three of the databases have numbers only. -/
def boolText : Dialect → Bool → String
  | .generic, b | .postgres, b => if b then "true" else "false"
  | .mysql, b | .tsql, b | .sqlite, b => if b then "1" else "0"

/-- The mark for the bound value of that number, counted from one. -/
def placeholder : Dialect → Nat → String
  | .generic, _ | .mysql, _ | .sqlite, _ => "?"
  | .postgres, n => s!"${n}"
  | .tsql, n => s!"@p{n}"

/-- Whether `FROM` stands between `DELETE` and the table. -/
def deleteNeedsFrom : Dialect → Bool
  | .generic | .tsql => false
  | .postgres | .mysql | .sqlite => true

end Dialect

end QueryCompiler.Sql
