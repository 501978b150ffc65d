import QueryCompiler.Query.Call
import QueryCompiler.Query.Report
import QueryCompiler.Query.Scope
import QueryCompiler.Text.Decimal

/-!
# Drafts of statements

The calls of a function fill a draft, in any order; when all have been made the draft is checked and
becomes a statement. All calls have to mean the same table.
-/

namespace QueryCompiler.Query

open Schema Sql Text

/-- A parameter of a function. -/
structure FnParam where
  name : String
  /-- The type as source text. -/
  type : String
deriving DecidableEq, Inhabited

/-- A setting and the place where it was made. -/
structure Placed (α : Type) where
  value : α
  pos : Pos
deriving DecidableEq, Inhabited

/-- What the calls made so far have said. -/
structure Draft where
  kind : Kind
  table : Option Table
  selection : Option (List ColumnRef)
  filter : Option Sql.Expr
  orderBy : List SortTerm
  assignments : List Assignment
  /-- Whether the table to insert into or delete from has been named. -/
  hasTarget : Bool
  /-- Whether the table has been named by `from`. -/
  hasSource : Bool
  mode : Option (Placed ReturnMode)
  buffer : Option (Placed Nat)
deriving Inhabited

/-- The table that is the one argument of a call. -/
def entityArg (call : Call) (sc : Scope) : Except Error Table :=
  match call.args with
  | [arg] =>
    match sc.entity? arg with
    | some table => .ok table
    | none => .error (.argument arg.pos (.notEntity arg.text))
  | _ => .error (.argument call.pos (.oneEntity call.name))

/-- The mode that is the one argument of a call. -/
def modeArg (call : Call) : Except Error ReturnMode :=
  match call.args with
  | [arg] =>
    let mode := match arg with
      | .path _ _ p => p.last?.bind fun s => ReturnMode.ofName? s.ident.name
      | _ => none
    match mode with
    | some mode => .ok mode
    | none => .error (.argument arg.pos (.notMode arg.text))
  | _ => .error (.argument call.pos .oneMode)

/-- The size that is the one argument of a call: a positive number that fits a machine word. -/
def sizeArg (call : Call) : Except Error Nat :=
  let size := match call.args with
    -- A suffix is passed over, and a sign is no digit.
    | [.lit _ (.int digits _)] => natOfDigits? digits.toList
    | _ => none
  match size with
  | some n => if 0 < n ∧ n < UInt64.size then .ok n else .error (.argument call.pos .onePositive)
  | none => .error (.argument call.pos .onePositive)

/-- Whether a function of that kind may make the call. -/
def Operation.allowedIn (op : Operation) (kind : Kind) : Bool :=
  match op with
  | .source | .returnType | .channelBuffer => true
  | .select | .selectAll | .orderBy | .orderByDescending => kind = .select
  | .filter => kind ≠ .insert
  | .update => kind = .update
  | .delete => kind = .delete
  | .insertAll => kind = .insert
  | .packageName | .runtimePath => false

namespace Draft

def ofKind (kind : Kind) : Draft :=
  { kind, table := none, selection := none, filter := none, orderBy := [], assignments := []
    hasTarget := false, hasSource := false, mode := none, buffer := none }

/-- Notes the table, on which all calls have to agree. -/
def bindTable (d : Draft) (table : Table) (pos : Pos) : Except Error Draft :=
  match d.table with
  | none => .ok { d with table := some table }
  | some bound =>
    -- Tables are compared by the names of their records.
    if bound.name = table.name then .ok d
    else .error (.argument pos (.mixedTables d.kind bound.name table.name))

/-- Resolves columns and notes their table. -/
def columns (d : Draft) (sc : Scope) : List Host.Expr → Except Error (Draft × List ColumnRef)
  | [] => .ok (d, [])
  | arg :: rest => do
    let (table, ref) ← sc.column arg
    -- Each column is checked against those before it, so the first that does not fit is reported.
    let d ← d.bindTable table arg.pos
    let (d, refs) ← d.columns sc rest
    return (d, ref :: refs)

def allColumns (table : Table) : List ColumnRef := table.columns.map (.of table.physicalName)

/-- Checks that a function of this kind may make the call. -/
def checkKind (d : Draft) (op : Operation) (call : Call) : Except Error Unit :=
  if op.isInitializer then .error (.argument call.pos (.initializerOnly op))
  else if op.allowedIn d.kind then .ok ()
  else .error (.argument call.pos (.wrongKind op d.kind))

/-- The draft after a further call. -/
def apply (d : Draft) (sc : Scope) (op : Operation) (call : Call) : Except Error Draft := do
  let fault := fun {α : Type} f => (Except.error (.argument call.pos f) : Except Error α)
  d.checkKind op call
  match op with
  | .source =>
    if d.hasSource then fault (.repeated op)
    let table ← entityArg call sc
    { d with hasSource := true }.bindTable table call.pos
  | .select =>
    if d.selection.isSome then fault .selectRepeated
    if call.args.isEmpty then fault (.noColumns op)
    let (d, refs) ← d.columns sc call.args
    return { d with selection := some refs }
  | .selectAll =>
    if d.selection.isSome then fault .selectRepeated
    let table ← entityArg call sc
    let d ← d.bindTable table call.pos
    return { d with selection := some (allColumns table) }
  | .filter =>
    match call.args with
    | [arg] =>
      let condition ← sc.convert arg
      -- Further conditions narrow the earlier ones down.
      let filter := match d.filter with
        | some earlier => earlier.and condition
        | none => condition
      return { d with filter := some filter }
    | _ => fault .onePredicate
  | .update =>
    match call.args with
    | [target, value] =>
      let (table, column) ← sc.column target
      -- The table is checked before the value.
      let d ← d.bindTable table target.pos
      let value ← sc.assigned value
      return { d with assignments := d.assignments ++ [⟨column, value⟩] }
    | _ => fault .columnAndValue
  | .delete | .insertAll =>
    if d.hasTarget then fault (.repeated op)
    let table ← entityArg call sc
    { d with hasTarget := true }.bindTable table call.pos
  | .orderBy | .orderByDescending =>
    if call.args.isEmpty then fault (.noColumns op)
    let (d, refs) ← d.columns sc call.args
    let terms := refs.map fun ref => ⟨ref, decide (op = .orderByDescending)⟩
    return { d with orderBy := d.orderBy ++ terms }
  | .returnType =>
    if d.mode.isSome then fault .returnTypeRepeated
    let mode ← modeArg call
    return { d with mode := some ⟨mode, call.pos⟩ }
  | .channelBuffer =>
    if d.buffer.isSome then fault .bufferRepeated
    let size ← sizeArg call
    return { d with buffer := some ⟨size, call.pos⟩ }
  -- Not reached: `checkKind` has refused these.
  | .packageName | .runtimePath => return d

def returnMode (d : Draft) : ReturnMode := (d.mode.map (·.value)).getD .unspecified

/-- Checks that a statement which is no select is not asked for rows. -/
def checkMode (d : Draft) : Except Error Unit :=
  match d.mode with
  | some ⟨mode, pos⟩ =>
    if d.kind ≠ .select ∧ mode ≠ .unspecified ∧ mode ≠ .execResult then
      .error (.argument pos (.resultOnly d.kind mode))
    else .ok ()
  | none => .ok ()

/-- The capacity of the channel, if rows go through one. -/
def channelBuffer (d : Draft) (name : String) : Report (Option Nat) :=
  match d.buffer with
  | none => return none
  | some ⟨size, pos⟩ =>
    if d.kind = .select ∧ d.returnMode = .recordChannel then return some size
    else do
      Report.warn pos s!"channel buffer size ignored: `{name}` does not return RecordChannel"
      return none

/-- The statement on a table, and the record that it reads or fills. -/
def statement (d : Draft) (table : Table) (name : String) (pos : Pos) (params : List FnParam) :
    Except Error (Statement × Option Table) :=
  let fault := fun f => Except.error (.argument pos f)
  match d.kind with
  | .select =>
    let columns := d.selection.getD []
    let mode := d.returnMode
    if columns.isEmpty then fault (.nothingSelected name)
    else if mode.isScalar ∧ columns.length ≠ 1 then fault (.oneColumn mode columns.length)
    else
      .ok (.select table.physicalName (columns.map .column) d.filter d.orderBy mode,
        if mode.isScalar then none else some table)
  -- Values come from the record, so there is nothing that a parameter could be for.
  | .insert =>
    match params with
    | param :: _ => fault (.insertParameter param.name)
    | [] => .ok (.insert table.physicalName (allColumns table) true, some table)
  | .update =>
    if d.assignments.isEmpty then fault (.nothingAssigned name)
    else .ok (.update table.physicalName d.assignments d.filter, none)
  | .delete => .ok (.delete table.physicalName d.filter, none)

/-- The statement of a finished draft, its record and the capacity of its channel. -/
def finish (d : Draft) (name : String) (pos : Pos) (params : List FnParam) :
    Report (Statement × Option Table × Option Nat) := do
  match d.table with
  | none => throw (.argument pos (.noTable name))
  | some table =>
    -- The order of the checks decides which of several faults is reported.
    d.checkMode
    let buffer ← d.channelBuffer name
    let (statement, record) ← d.statement table name pos params
    return (statement, record, buffer)

end Draft

end QueryCompiler.Query
