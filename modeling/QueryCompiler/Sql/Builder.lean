import QueryCompiler.Sql.Statement

/-!
# Writing statements

Every clause ends with a line feed, but for the values of an insert:

* `SELECT a, b`, `FROM t`, `WHERE ..`, `ORDER BY a,b DESC`
* `INSERT INTO t(a,b)`, `VALUES(?,?)`
* `UPDATE t`, `SET a = ?,b = ?`, `WHERE ..`
* `DELETE t`, `WHERE ..`
-/

namespace QueryCompiler.Sql

namespace TokenStream

def writeFilter (s : TokenStream) : Option Expr → TokenStream
  | none => s
  | some e => (e.write (s.pushAll [.keyword .filter, .space])).push .newline

def writeSortTerm (s : TokenStream) (o : SortTerm) : TokenStream :=
  let s := s.push (.ident o.column.column)
  if o.descending then s.pushAll [.space, .keyword .descending] else s

/-- Writes the columns to sort by, if there are any. -/
def writeOrderBy (s : TokenStream) (terms : List SortTerm) : TokenStream :=
  if terms.isEmpty then s
  else
    (writeList [.comma] writeSortTerm (s.pushAll [.keyword .orderBy, .space]) terms).push .newline

def writeAssignment (s : TokenStream) (a : Assignment) : TokenStream :=
  a.value.write (s.pushAll [.ident a.column.column, .space, .operator .eq, .space])

/-- Writes a statement behind what has been written. -/
def writeStatement (d : Dialect) (s : TokenStream) : Statement → TokenStream
  | .select table list filter orderBy _ =>
    let s := writeList [.comma, .space] Expr.write (s.pushAll [.keyword .select, .space]) list
    let s := s.pushAll [.newline, .keyword .source, .space, .ident table, .newline]
    (s.writeFilter filter).writeOrderBy orderBy
  | .insert table columns excludesIdentity =>
    -- Names and values are both written from the columns that are left, so their numbers agree.
    let columns := insertedColumns columns excludesIdentity
    let s := s.pushAll [.keyword .insert, .space, .keyword .into, .space, .ident table, .lparen]
    let s := writeList [.comma] (fun s c => s.push (.ident c.column)) s columns
    let s := s.pushAll [.rparen, .newline, .keyword .values, .lparen]
    -- The one statement that ends without a line feed.
    (writeList [.comma] (fun s _ => s.nextPlaceholder) s columns).push .rparen
  | .update table assignments filter =>
    let s := s.pushAll [.keyword .update, .space, .ident table, .newline, .keyword .assign, .space]
    ((writeList [.comma] writeAssignment s assignments).push .newline).writeFilter filter
  | .delete table filter =>
    let s := s.pushAll [.keyword .delete, .space]
    let s := if d.deleteNeedsFrom then s.pushAll [.keyword .source, .space] else s
    (s.pushAll [.ident table, .newline]).writeFilter filter

end TokenStream

/-- The text of a statement and the names of what is bound to its placeholders. -/
structure Rendered where
  text : String
  params : List String
deriving DecidableEq, Inhabited

/-- What a builder of statements can do, whatever its state `σ` is. -/
class Builder (σ : Type) where
  /-- Forgets what has been written. -/
  reset : σ → σ
  /-- Writes a statement behind what has been written. -/
  write : σ → Statement → σ
  /-- The text of what has been written. -/
  sqlText : σ → String
  /-- Has the last word on the names to bind, which come in the order of the placeholders. -/
  bind : σ → List String → List String

/-- The text and the bound names of one statement. The builder is reset before it, so that one
serves for any number of statements; what it keeps over a reset is its own affair. -/
def Builder.render {σ : Type} [Builder σ] (b : σ) (s : Statement) : Rendered × σ :=
  let b := write (reset b) s
  (⟨sqlText b, bind b s.parameters⟩, b)

/-- Writes the tokens of a dialect. -/
structure TokenBuilder where
  dialect : Dialect
  stream : TokenStream
deriving DecidableEq, Inhabited

namespace TokenBuilder

/-- The builder of a dialect, which has written nothing yet. -/
def ofDialect (d : Dialect) : TokenBuilder := ⟨d, .empty⟩

def reset (b : TokenBuilder) : TokenBuilder := { b with stream := .empty }

def write (b : TokenBuilder) (s : Statement) : TokenBuilder :=
  { b with stream := b.stream.writeStatement b.dialect s }

def sqlText (b : TokenBuilder) : String := b.stream.text b.dialect

instance : Builder TokenBuilder where
  reset := reset
  write := write
  sqlText := sqlText
  bind _ names := names

end TokenBuilder

end QueryCompiler.Sql
