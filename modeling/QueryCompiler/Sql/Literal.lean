import QueryCompiler.Host.Parse
import QueryCompiler.Sql.Token
import QueryCompiler.Text.Split

/-!
# Literals in SQL

A literal of the host language is written anew for the dialect where it is a string, a character or
a truth value. Numbers lose their type suffix. Any other text is passed on.
-/

namespace QueryCompiler.Sql

open Host Text

/-- The token for a literal, given the sign before it and the text of the whole. A sign has no
meaning before anything but a number. -/
def Token.ofValue (negative : Bool) (text : String) : Option Literal → Token
  | some (.int digits _) | some (.float digits _) =>
    .raw (if negative then "-" ++ digits else digits)
  | some (.str value) => if negative then .raw text else .string value
  | some (.char value) => if negative then .raw text else .string value.toString
  | some (.bool value) => if negative then .raw text else .bool value
  | some .other | none => .raw text

/-- The token for the source text of a literal, with or without a minus sign. -/
def Token.ofLiteral (text : String) : Token :=
  match text.toList with
  | '-' :: rest => .ofValue true text (parseLiteral? (String.ofList (trimStart rest)))
  | _ => .ofValue false text (parseLiteral? text)

end QueryCompiler.Sql
