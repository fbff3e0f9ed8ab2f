import TableStruct.Json.Read
import TableStruct.Json.Write
import TableStruct.GoType
import TableStruct.Schema

/-!
# Schemas as JSON

A schema is an object with the members `table_name` and `fields`, and a
column one with `name`, `raw_type` and, if there is a comment, `comment`.
Reading asks for the members that are needed, takes each once at most, and
passes over those it does not know; an array of the member values in order
is taken too. A type is the string of its label, or an object with the
label as its one member and null as the value.
-/

namespace TableStruct

namespace Column

/-- The column as JSON. -/
def toJson (c : Column) : Json :=
  .object <|
    [(some "name", .text c.name), (some "raw_type", .text c.rawType)] ++
      match c.comment with
      | none => []
      | some text => [(some "comment", .text text)]

/-- The comment that a JSON value stands for; null stands for none. -/
def commentOfJson? : Json → Option (Option String)
  | .null => some none
  | j => j.text?.map some

/-- The column with the given member values. -/
def ofValues? (name rawType : Json) (comment : List Json) : Option Column := do
  let name ← name.text?
  let rawType ← rawType.text?
  match comment with
  | [] => pure ⟨name, rawType, none⟩
  | [j] => do
    let comment ← commentOfJson? j
    pure ⟨name, rawType, comment⟩
  | _ => none

/-- The column that a JSON value stands for. -/
def ofJson? : Json → Option Column
  | .object ms =>
    if ms.all fun m => m.1.isSome then
      match Json.valuesOf "name" ms, Json.valuesOf "raw_type" ms with
      | [name], [rawType] => ofValues? name rawType (Json.valuesOf "comment" ms)
      | _, _ => none
    else none
  | .array (name :: rawType :: comment) => ofValues? name rawType comment
  | _ => none

end Column

namespace Schema

/-- The schema as JSON. -/
def toJson (s : Schema) : Json :=
  .object [
    (some "table_name", .text s.tableName),
    (some "fields", .array (s.fields.map Column.toJson))]

/-- The schema with the given member values. -/
def ofValues? (tableName fields : Json) : Option Schema := do
  let tableName ← tableName.text?
  match fields with
  | .array items => do
    let fields ← items.mapM Column.ofJson?
    pure ⟨tableName, fields⟩
  | _ => none

/-- The schema that a JSON value stands for. -/
def ofJson? : Json → Option Schema
  | .object ms =>
    if ms.all fun m => m.1.isSome then
      match Json.valuesOf "table_name" ms, Json.valuesOf "fields" ms with
      | [tableName], [fields] => ofValues? tableName fields
      | _, _ => none
    else none
  | .array [tableName, fields] => ofValues? tableName fields
  | _ => none

/-- The schemas that a JSON value stands for. -/
def listOfJson? : Json → Option (List Schema)
  | .array items => items.mapM ofJson?
  | _ => none

/-- The text of a schema. -/
def render (style : Json.Style) (s : Schema) : String :=
  s.toJson.render style

/-- The text of several schemas. -/
def renderList (style : Json.Style) (schemas : List Schema) : String :=
  (Json.array (schemas.map toJson)).render style

/-- Reads a schema. -/
def parse? (text : String) : Option Schema :=
  (Json.parse? text).bind ofJson?

/-- Reads several schemas. -/
def parseList? (text : String) : Option (List Schema) :=
  (Json.parse? text).bind listOfJson?

end Schema

namespace GoType

/-- The type as JSON. -/
def toJson (t : GoType) : Json :=
  .text t.label

/-- The type that a JSON value stands for. -/
def ofJson? : Json → Option GoType
  | .string t => t.bind ofLabel?
  | .object [(some label, .null)] => ofLabel? label
  | _ => none

/-- Reads a type. -/
def parse? (text : String) : Option GoType :=
  (Json.parse? text).bind ofJson?

end GoType

end TableStruct
