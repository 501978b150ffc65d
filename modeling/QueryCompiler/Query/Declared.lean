import QueryCompiler.Host.Reader
import QueryCompiler.Query.Scope
import QueryCompiler.Schema.Tag
import QueryCompiler.Text.Split

/-!
# Declared tables and entities

Every record of a file is a table. Statics and constants whose type is such a record bind its table
to a name, wherever in the file the record stands.
-/

namespace QueryCompiler.Query

open Host Schema Text

/-- The lines of a documentation text: a blank at their start and blanks at their end go. -/
def docText (s : String) : List String :=
  (splitWhen (· == '\n') s.toList).map fun line =>
    let body := match line with
      -- One blank only: the rest is indentation of the text.
      | ' ' :: rest => rest
      | line => line
    String.ofList (trimEnd body)

/-- The text that an attribute is set to by an equals sign. -/
def valueText? (a : Attribute) : Option String :=
  match a.args with
  | .value (.lit _ (.str s)) => some s
  | _ => none

/-- The lines of the documentation among the attributes. -/
def docLines (attributes : List Attribute) : List String :=
  (attributes.filter (·.path.isName "doc")).flatMap fun a =>
    match valueText? a with
    | some s => docText s
    | none => []

/-- The text of a tag, given by an equals sign or in brackets. -/
def tagText? (a : Attribute) : Option String :=
  match a.args with
  | .list [.literal _ _ (.str s)] => some s
  | _ => valueText? a

/-- The tag of a field: its first attribute of that name. -/
def fieldTag (typeName : String) (attributes : List Attribute) : Except Error (Option String) :=
  match attributes.find? (·.path.isName "tag") with
  | none => .ok none
  | some a =>
    match tagText? a with
    | some s => .ok (some s)
    | none => .error (.typeDefinition typeName a.src.pos .tagNotString)

namespace DerivePaths

/-- Takes the names behind the double colons of a path. -/
def segments : List Token → Except DeriveFault (List Token)
  | .punct _ ':' true :: .punct _ ':' _ :: .ident .. :: rest => segments rest
  -- The end of the list has a message of its own.
  | [.punct _ ':' true, .punct _ ':' _] => .error .endOfPath
  | .punct _ ':' true :: .punct _ ':' _ :: _ => .error .noSegment
  | ts => .ok ts

/-- Takes a path off the front of a list. -/
def path (ts : List Token) : Except DeriveFault (List Token) :=
  let body := if Peek.punct "::" ts then ts.drop 2 else ts
  match body with
  | [] => .error .endOfList
  | .ident .. :: rest => segments rest
  | body => .error (if Peek.literal body then .literal else .otherToken)

/-- The texts of the paths of a list. Each path takes a token at least. -/
def all (ts : List Token) : Except DeriveFault (List String) :=
  if ts.isEmpty then .ok []
  else
    match path ts with
    | .error e => .error e
    | .ok rest =>
      let text := (Token.excerptOf (Reader.consumed ts rest)).text
      match rest with
      | [] => .ok [text]
      | .punct _ ',' _ :: more =>
        -- `path` takes a token at least, so this always holds; the test is for the recursion.
        if more.length < ts.length then (all more).map (text :: ·) else .ok [text]
      | _ => .error .noComma
termination_by ts.length

end DerivePaths

/-- The paths that an attribute derives. -/
def derivePaths (typeName : String) (a : Attribute) : Except Error (List String) :=
  let paths : Except DeriveFault (List String) := match a.args with
    | .none => .error .noArguments
    | .value _ => .error .valueGiven
    | .list content => DerivePaths.all content
  paths.mapError fun fault => .typeDefinition typeName a.src.pos (.malformedDerive fault)

/-- Whether a field of that type names the table by its tag. -/
def isTableNameMarker (t : TypeExpr) : Bool :=
  t.lastSegment?.any fun s => "TableName".toList.isSuffixOf s.ident.name.toList

def isOptional (t : TypeExpr) : Bool := t.lastSegment?.any (·.ident.name == "Option")

/-- The source texts of the attributes that do not have one of the names given. -/
def otherAttributes (names : List String) (attributes : List Attribute) : List String :=
  (attributes.filter fun a => !names.any a.path.isName).map (·.src.text)

/-- The column of a field, given the text of its tag. -/
def columnOf (f : Field) (tag : Option String) : Column :=
  let pairs := (tag.map Tag.parse).getD ⟨[]⟩
  { name := f.ident.name
    -- The mark of a raw name is not part of the column's name.
    physicalName := pairs.name?.getD f.ident.unraw
    type := f.type.text
    nullable := isOptional f.type
    isIdentity := pairs.isIdentity
    tag
    docs := docLines f.attributes
    attributes := otherAttributes ["doc", "tag"] f.attributes
    visibility := f.visibility }

/-- Adds a field to a table: as a column, or as the name of the table. -/
def addField (table : Table) (f : Field) : Except Error Table := do
  let tag ← fieldTag table.name f.attributes
  let marker :=
    if isTableNameMarker f.type then tag.bind fun s => (Tag.parse s).tableName? else none
  -- A field of such a type without a name in its tag is a column like any other.
  match marker with
  | some physicalName => return { table with physicalName }
  | none =>
    if (table.column? f.ident.name).isSome then
      throw (.typeDefinition table.name f.ident.pos (.duplicateField f.ident.name))
    return { table with columns := table.columns ++ [columnOf f tag] }

/-- The paths that a record derives. The one that makes it a table is left out. -/
def derivesOf (typeName : String) (attributes : List Attribute) : Except Error (List String) := do
  let paths ← (attributes.filter (·.path.isName "derive")).mapM (derivePaths typeName)
  return paths.flatten.filter fun p => lastSegment p != "Table"

/-- The fields of a record that can be a table. -/
def namedFields (s : Struct) : Except Error (List Field) :=
  let fault := fun f => Except.error (.typeDefinition s.ident.name s.ident.pos f)
  if s.generics.isSome then fault .generic
  else
    match s.fields with
    | .named fields => .ok fields
    | .unnamed => fault .tuple
    | .unit => fault .unit

/-- The table of a record. -/
def tableOf (s : Struct) : Except Error Table := do
  let fields ← namedFields s
  let derives ← derivesOf s.ident.name s.attributes
  let table : Table :=
    { Table.ofName s.ident.name with
      docs := docLines s.attributes
      derives
      attributes := otherAttributes ["doc", "derive"] s.attributes
      visibility := s.visibility }
  fields.foldlM addField table

def tablesOf : List Item → Except Error (List Table)
  | [] => .ok []
  | .struct s :: rest => do
    let table ← tableOf s
    return table :: (← tablesOf rest)
  -- An alias ends the reading, even if nothing refers to it.
  | .alias src ident type :: _ => .error (.typeDefinition ident.name src.pos (.aliasOf type.text))
  | _ :: rest => tablesOf rest

/-- The name of a type that is a path without generic arguments. -/
def plainTypeName? : TypeExpr → Option String
  | .path _ false p =>
    match p.last? with
    | some segment => if segment.arguments.isEmpty then some segment.ident.name else none
    | none => none
  | .paren _ inner | .group _ inner => plainTypeName? inner
  | _ => none

/-- The table that a static or constant of that type is bound to. -/
def boundTable? (tables : List Table) (type : TypeExpr) : Option Table := do
  let name ← plainTypeName? type
  tables.find? (·.name == name)

def entitiesOf (tables : List Table) (items : List Item) : Entities :=
  items.foldl (fun es item =>
    match item with
    | .binding ident type =>
      match boundTable? tables type with
      -- The later of two bindings counts.
      | some table => es.bind ident.name table
      | none => es
    | _ => es) []

end QueryCompiler.Query
