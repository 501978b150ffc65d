import QueryCompiler.Sql.Dialect

/-!
# Tokens of SQL

A statement is written as a stream of tokens first and as text second, so only the last step depends
on the dialect. The stream counts the placeholders that it numbers.
-/

namespace QueryCompiler.Sql

/-- Words that give a statement its shape. -/
inductive Keyword where
  | select
  /-- `FROM` -/
  | source
  /-- `WHERE` -/
  | filter
  | orderBy
  | descending
  | insert
  | into
  | values
  | update
  /-- `SET` -/
  | assign
  | delete
deriving DecidableEq, Inhabited

namespace Keyword

def text : Keyword → String
  | .select => "SELECT"
  | .source => "FROM"
  | .filter => "WHERE"
  | .orderBy => "ORDER BY"
  | .descending => "DESC"
  | .insert => "INSERT"
  | .into => "INTO"
  | .values => "VALUES"
  | .update => "UPDATE"
  | .assign => "SET"
  | .delete => "DELETE"

end Keyword

/-- Operators between two operands. -/
inductive BinaryOp where
  | eq | notEq | lt | gt | ltEq | gtEq
  | and | or
  | plus | minus | multiply | divide | modulo
  | bitAnd | bitOr | bitXor | shiftLeft | shiftRight
deriving DecidableEq, Inhabited

namespace BinaryOp

def text : BinaryOp → String
  | .eq => "="
  | .notEq => "<>"
  | .lt => "<"
  | .gt => ">"
  | .ltEq => "<="
  | .gtEq => ">="
  | .and => "AND"
  | .or => "OR"
  | .plus => "+"
  | .minus => "-"
  | .multiply => "*"
  | .divide => "/"
  | .modulo => "%"
  | .bitAnd => "&"
  | .bitOr => "|"
  | .bitXor => "^"
  | .shiftLeft => "<<"
  | .shiftRight => ">>"

end BinaryOp

/-- One piece of a statement. -/
inductive Token where
  | keyword (word : Keyword)
  | operator (op : BinaryOp)
  | comma
  | lparen
  | rparen
  | space
  | newline
  /-- The name of a table or column. -/
  | ident (name : String)
  | string (value : String)
  | bool (value : Bool)
  /-- The place of the bound value with that number, counted from one. -/
  | placeholder (number : Nat)
  /-- Text that is written as it is. -/
  | raw (text : String)
deriving DecidableEq, Inhabited

namespace Token

def text (d : Dialect) : Token → String
  | .keyword word => word.text
  | .operator op => op.text
  | .comma => ","
  | .lparen => "("
  | .rparen => ")"
  | .space => " "
  | .newline => "\n"
  | .ident name => d.quoteIdent name
  | .string value => d.quoteString value
  | .bool value => d.boolText value
  | .placeholder number => d.placeholder number
  | .raw text => text

end Token

/-- Tokens in the order of writing, with the number of the last placeholder. -/
structure TokenStream where
  tokens : List Token
  placeholders : Nat
deriving DecidableEq, Inhabited

namespace TokenStream

def empty : TokenStream := ⟨[], 0⟩

/-- Writes a token. Placeholders that are written so are not counted. -/
def push (s : TokenStream) (t : Token) : TokenStream := { s with tokens := s.tokens ++ [t] }

/-- Writes several tokens, as `push` does. -/
def pushAll (s : TokenStream) (ts : List Token) : TokenStream :=
  { s with tokens := s.tokens ++ ts }

def nextPlaceholder (s : TokenStream) : TokenStream where
  tokens := s.tokens ++ [.placeholder (s.placeholders + 1)]
  placeholders := s.placeholders + 1

def isEmpty (s : TokenStream) : Bool := s.tokens.isEmpty

def text (s : TokenStream) (d : Dialect) : String := String.join (s.tokens.map (Token.text d))

/-- Writes the elements of a list, with the tokens `sep` between them. -/
def writeList {α : Type} (sep : List Token) (write : TokenStream → α → TokenStream)
    (s : TokenStream) : List α → TokenStream
  | [] => s
  -- The separator belongs to the element behind it.
  | a :: rest => rest.foldl (fun s b => write (s.pushAll sep) b) (write s a)

end TokenStream

end QueryCompiler.Sql
