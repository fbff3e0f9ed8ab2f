import TableStruct.GoType
import TableStruct.GoStruct.Tag
import TableStruct.Schema
import TableStruct.Settings

/-!
# Go structs

The struct that a table becomes: one field for each column, with a name, a
type and a tag block.
-/

namespace TableStruct

/-- A field of a struct. -/
structure GoField where
  /-- The field name. -/
  name : String
  /-- The field type. -/
  goType : GoType
  /-- The tag block, empty if there is none. -/
  tagBlock : String
  deriving DecidableEq, Repr

/-- A struct, its fields in order. -/
structure GoStruct where
  /-- The type name. -/
  name : String
  /-- The fields, in column order. -/
  fields : List GoField
  deriving DecidableEq, Repr

namespace GoField

/-- The field for a column. -/
def ofColumn (s : Settings) (c : Column) : GoField where
  name := s.casing.identifier s.abbreviations s.fieldAffix c.name
  goType := s.types.resolve c.rawType
  tagBlock := Tag.block s.tags s.commentTag (s.fieldAffix.strip c.name) c.comment

end GoField

namespace GoStruct

/-- The struct for a table. -/
def ofSchema (s : Settings) (t : Schema) : GoStruct where
  name := s.casing.identifier s.abbreviations s.tableAffix t.tableName
  fields := t.fields.map (GoField.ofColumn s)

end GoStruct

end TableStruct
