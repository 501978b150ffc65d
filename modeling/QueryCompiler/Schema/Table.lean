/-!
# Tables and their columns
-/

namespace QueryCompiler.Schema

/-- One field of a record, as a column of its table. -/
structure Column where
  /-- The name of the field. -/
  name : String
  /-- The name of the column in the database. -/
  physicalName : String
  /-- The type of the field as source text. -/
  type : String
  nullable : Bool
  /-- The database fills the column, so inserts leave it out. -/
  isIdentity : Bool
  /-- The tag of the field, unchanged. -/
  tag : Option String
  /-- The lines of the documentation. -/
  docs : List String
  /-- The attributes other than documentation and tag, as source text. -/
  attributes : List String
  /-- The visibility as source text; empty if private. -/
  visibility : String
deriving DecidableEq, Inhabited

/-- A record type that stands for a table. -/
structure Table where
  /-- The name of the record type. -/
  name : String
  /-- The name of the table in the database. -/
  physicalName : String
  /-- The columns in the order of declaration. -/
  columns : List Column
  docs : List String
  /-- The paths that the declaration derives. -/
  derives : List String
  attributes : List String
  visibility : String
deriving DecidableEq, Inhabited

namespace Column

/-- A column that is named like its field. -/
def ofField (name type : String) : Column where
  name := name
  physicalName := name
  type := type
  nullable := type.startsWith "Option<"
  isIdentity := false
  tag := none
  docs := []
  attributes := []
  visibility := ""

end Column

namespace Table

/-- A table without columns that is named like its record type. -/
def ofName (name : String) : Table where
  name := name
  physicalName := name
  columns := []
  docs := []
  derives := []
  attributes := []
  visibility := ""

def column? (t : Table) (name : String) : Option Column := t.columns.find? (·.name == name)

def insertable (t : Table) : List Column := t.columns.filter (!·.isIdentity)

end Table

end QueryCompiler.Schema
