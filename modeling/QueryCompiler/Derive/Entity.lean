import QueryCompiler.Derive.Spacing
import QueryCompiler.Query.Declared

/-!
# The entity of a record

A record that derives the table trait gets an implementation of it, whose constant is an empty
record: each field is the empty value of its type.
-/

namespace QueryCompiler.Derive

open Host Query Text

/-- Why a declaration has no entity. -/
inductive Fault where
  | generic
  | noRecord
  | noNamedFields
  | tagNotString
deriving DecidableEq, Inhabited

def Fault.message : Fault → String
  | .generic => "generic records cannot map to a table"
  | .noRecord => "only structs can map to a table"
  | .noNamedFields => "only structs with named fields can map to a table"
  | .tagNotString => "`tag` must be a string literal"

/-- A fault and where it is. -/
structure Error where
  pos : Pos
  fault : Fault
deriving DecidableEq, Inhabited

/-- A record's name and its fields, each with its type as source text. -/
structure Entity where
  name : String
  fields : List (String × String)
deriving DecidableEq, Inhabited

/-- Checks that every tag of a field is a string. -/
def checkTags (f : Field) : Except Error Unit :=
  -- All tags are checked, though only the first of a field is ever used.
  match f.attributes.find? fun a => a.path.isName "tag" && (tagText? a).isNone with
  | some a => .error ⟨a.src.pos, .tagNotString⟩
  | none => .ok ()

def ofStruct (s : Struct) : Except Error Entity := do
  match s.generics with
  -- Generic parameters are refused before the fields are looked at.
  | some pos => throw ⟨pos, .generic⟩
  | none =>
    match s.fields with
    | .named fields =>
      let inits ← fields.mapM fun f => do
        checkTags f
        return (f.ident.name, f.type.text)
      return ⟨s.ident.name, inits⟩
    | .unnamed | .unit => throw ⟨s.ident.pos, .noNamedFields⟩

/-- The entity of a declaration. Only records have one. -/
def ofDeclaration : Declaration → Except Error Entity
  | .struct s => ofStruct s
  | .enum ident generics | .union ident generics =>
    match generics with
    | some pos => .error ⟨pos, .generic⟩
    | none => .error ⟨ident.pos, .noRecord⟩

/-- A field with the empty value of its type. -/
def initializer (field : String × String) : String :=
  s!"{field.1} : < {spacedType field.2} as :: sqlgen :: dsl :: Column > :: EMPTY"

/-- The implementation of the table trait. -/
def Entity.text (e : Entity) : String :=
  let inits := String.intercalate " , " (e.fields.map initializer)
  let body := if e.fields.isEmpty then "" else inits ++ " "
  let head := s!"impl :: sqlgen :: dsl :: Table for {e.name} \x7b const ENTITY : Self = Self \x7b "
  s!"{head}{body}\x7d ; \x7d"

end QueryCompiler.Derive
