import QueryCompiler.Code.Quoted
import QueryCompiler.Code.Writer
import QueryCompiler.Query.Module
import QueryCompiler.Sql.Builder

/-!
# Accessors

An accessor is an asynchronous function that runs one statement. It takes the executor and the
context first and hands back what the return mode says, or a database error. Values are bound in the
order of the placeholders; columns are read by their position in the select list.
-/

namespace QueryCompiler.Code

open Query Schema Sql

/-- The argument that an insert takes its values from. -/
def recordArg : String := "o"

def isInsert : Statement → Bool
  | .insert .. => true
  | _ => false

/-- What a row is read into: the type of the one column, or the record. -/
def itemType (f : QueryFunction) : String :=
  match f.scalarColumn? with
  | some c => c.type
  | none => (f.record.map (·.name)).getD "()"

/-- What an accessor hands back if nothing fails. -/
def returnType (f : QueryFunction) : String :=
  let item := itemType f
  match f.returnMode with
  | .record | .scalar => s!"Option<{item}>"
  | .unspecified | .recordSet | .scalarSet => s!"Vec<{item}>"
  | .execResult => "ExecResult"
  | .recordChannel =>
    let receiver := if f.channelBuffer.isSome then "Receiver" else "UnboundedReceiver"
    s!"(tokio::sync::mpsc::{receiver}<Result<{item}, DbError>>, CancellationToken)"

/-- The arguments of an accessor with their types. -/
def arguments (f : QueryFunction) : List FnParam :=
  -- Only an insert takes its values from a record; the others take what was declared.
  let record := if isInsert f.statement then f.record.toList else []
  [⟨"db", "&dyn Executor"⟩, ⟨"ctx", "&Context"⟩] ++
    record.map (fun t => ⟨recordArg, "&" ++ t.name⟩) ++ f.params

def signature (f : QueryFunction) : String :=
  let args := commas ((arguments f).map fun p => s!"{p.name}: {p.type}")
  s!"pub async fn {f.name}({args}) -> Result<{returnType f}, DbError> \x7b"

/-- The value bound for a name. -/
def boundValue (insert : Bool) (name : String) : String :=
  if insert then s!"Value::from({recordArg}.{name}.clone())" else s!"Value::from({name}.clone())"

def boundArgs (f : QueryFunction) (params : List String) : String :=
  "&[" ++ commas (params.map (boundValue (isInsert f.statement))) ++ "]"

/-- The fields that a row fills, each with the number of its column. -/
def rowFields (list : List Sql.Expr) : List (String × Nat) :=
  list.zipIdx.filterMap fun
    | (.column ref, i) => some (ref.source.name, i)
    | _ => none

/-- The function that reads a row. -/
def readRowLines (f : QueryFunction) (list : List Sql.Expr) : List Line :=
  let item := itemType f
  let body :=
    -- The one column is converted by the type that is returned, so nothing names it here.
    if f.scalarColumn?.isSome then [.text "row.get(0)"]
    else
      [.opening s!"Ok({item} \x7b"] ++
        (rowFields list).map (fun (name, i) => .text s!"{name}: row.get({i})?,") ++
        -- Fields that were not selected keep their defaults.
        [.text s!"..{item}::default()", .closing "\x7d)"]
  [.opening s!"fn read_row(row: &Row) -> Result<{item}, DbError> \x7b"] ++ body ++ [.closing "\x7d"]

/-- Hands over one row, if there is any. -/
def firstRowLines : List Line :=
  [.opening "match rows.next().await? \x7b",
    .text "Some(row) => Ok(Some(read_row(&row)?)),",
    .text "None => Ok(None),",
    .closing "\x7d"]

/-- Hands over all rows. -/
def allRowsLines : List Line :=
  [.text "let mut result = Vec::new();",
    .opening "while let Some(row) = rows.next().await? \x7b",
    .text "result.push(read_row(&row)?);",
    .closing "\x7d",
    .text "Ok(result)"]

/-- Delivers an item and ends the loop after a failure. A bounded channel may have to wait, so there
delivery too is given up when the caller cancels. -/
def deliveryLines (bounded : Bool) : List Line :=
  if bounded then
    [.opening "let sent = tokio::select! \x7b",
      .text "biased;",
      .text "_ = token.cancelled() => break,",
      .text "sent = tx.send(item) => sent,",
      .closing "\x7d;",
      .opening "if sent.is_err() || failed \x7b",
      .text "break;",
      .closing "\x7d"]
  else
    [.opening "if token.is_cancelled() || tx.send(item).is_err() || failed \x7b",
      .text "break;",
      .closing "\x7d"]

def channelText : Option Nat → String
  | some size => s!"let (tx, rx) = tokio::sync::mpsc::channel({size});"
  | none => "let (tx, rx) = tokio::sync::mpsc::unbounded_channel();"

/-- Hands over a channel. A task of its own reads the rows and sends them until there are none left,
one fails, or the caller cancels. -/
def channelLines (buffer : Option Nat) : List Line :=
  [.text "let cancel = ctx.child_token();",
    .text "let token = cancel.clone();",
    .text (channelText buffer),
    .opening "tokio::spawn(async move \x7b",
    .opening "loop \x7b",
    .opening "let next = tokio::select! \x7b",
    .text "biased;",
    .text "_ = token.cancelled() => break,",
    .text "next = rows.next() => next,",
    .closing "\x7d;",
    .opening "let item = match next \x7b",
    .text "Ok(Some(row)) => read_row(&row),",
    .text "Ok(None) => break,",
    .text "Err(err) => Err(err),",
    .closing "\x7d;",
    .text "let failed = item.is_err();"] ++
    deliveryLines buffer.isSome ++
    [.closing "\x7d",
      -- The rows are let go before the channel is closed.
      .text "drop(rows);",
      .text "drop(tx);",
      .closing "\x7d);",
      .text "Ok((rx, cancel))"]

/-- What happens to the rows of a select. -/
def rowsLines (f : QueryFunction) : List Line :=
  match f.returnMode with
  | .record | .scalar => firstRowLines
  | .recordChannel => channelLines f.channelBuffer
  | _ => allRowsLines

/-- The line that holds the text of the statement. -/
def queryLine (sql : Rendered) : Line := .text s!"const QUERY: &str = {quote sql.text};"

/-- The body of an accessor. -/
def bodyLines (f : QueryFunction) (sql : Rendered) : List Line :=
  let args := boundArgs f sql.params
  match f.statement with
  | .select _ list _ _ _ =>
    readRowLines f list ++
      [.blank, .text s!"let mut rows = db.query(ctx, QUERY, {args}).await?;"] ++ rowsLines f
  | _ => [.text s!"db.exec(ctx, QUERY, {args}).await"]

def accessorLines (f : QueryFunction) (sql : Rendered) : List Line :=
  docs f.docs ++ [.opening (signature f), queryLine sql, .blank] ++ bodyLines f sql ++
    [.closing "\x7d"]

end QueryCompiler.Code
