/-!
# Table schemas

The table that a `create table` statement declares: its name and its
columns, in order, as the statement spells them.
-/

namespace TableStruct

/-- A column of a table. -/
structure Column where
  /-- The name, as written. -/
  name : String
  /-- The type keyword, without size or attributes. -/
  rawType : String
  /-- The comment, if there is one. An empty comment is not no comment. -/
  comment : Option String
  deriving DecidableEq, Repr

namespace Column

/-- Both the name and the type are known. -/
def isComplete (c : Column) : Bool :=
  c.name != "" && c.rawType != ""

end Column

/-- A table and its columns, in the order of declaration. -/
structure Schema where
  /-- The table name, as written. -/
  tableName : String
  /-- The columns, in order. -/
  fields : List Column
  deriving DecidableEq, Repr

namespace Schema

/-- The first column of a name. -/
def field? (s : Schema) (name : String) : Option Column :=
  s.fields.find? fun c => c.name == name

end Schema

end TableStruct
