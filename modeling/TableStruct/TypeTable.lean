import TableStruct.GoType
import TableStruct.Text.Ascii
import TableStruct.Text.Blank
import TableStruct.Text.Ordered

/-!
# Type keywords

Which Go type a column's type keyword stands for. Keywords are matched in
any ASCII case; a keyword that the table does not hold stands for the
dynamic type.
-/

namespace TableStruct

/-- A table from type keywords to Go types. -/
structure TypeTable where
  /-- The keywords in upper case, in increasing order, with their types. -/
  entries : List (String × GoType)
  deriving DecidableEq, Repr

namespace TypeTable

/-- The table without keywords. -/
def empty : TypeTable :=
  ⟨[]⟩

/-- The form in which a keyword is kept. -/
def normalize (keyword : String) : String :=
  Text.asciiUpper (Text.trimmed keyword)

/-- Points a keyword at a type, away from any other. -/
def insertKeyword (goType : GoType) (t : TypeTable) (keyword : String) : TypeTable :=
  ⟨Text.insertEntry (normalize keyword) goType t.entries⟩

/-- Points several keywords at a type. -/
def insert (t : TypeTable) (goType : GoType) (keywords : List String) : TypeTable :=
  keywords.foldl (insertKeyword goType) t

/-- The type that a keyword stands for. -/
def resolve (t : TypeTable) (raw : String) : GoType :=
  (t.entries.lookup (Text.asciiUpper raw)).getD .dynamic

/-- The keywords of a type, in increasing order. -/
def keywordsFor (t : TypeTable) (goType : GoType) : List String :=
  (t.entries.filter fun e => e.2 == goType).map Prod.fst

/-- The keywords of MySQL, by type. -/
def mysqlKeywords : List (GoType × List String) := [
  (.string, ["CHAR", "VARCHAR", "BINARY", "VARBINARY", "TINYBLOB", "TINYTEXT", "TEXT", "BLOB",
    "MEDIUMTEXT", "LONGTEXT", "LONGBLOB", "ENUM", "SET"]),
  (.int64, ["BIGINT", "TIMESTAMP"]),
  (.int32, ["INT", "INTEGER"]),
  (.int, ["BIT", "BOOL", "BOOLEAN", "SMALLINT", "MEDIUMINT"]),
  (.float64, ["DOUBLE", "DECIMAL", "DEC"]),
  (.float32, ["FLOAT"]),
  (.time, ["DATE", "DATETIME", "TIME", "YEAR"])]

/-- The table of MySQL. -/
def mysql : TypeTable :=
  mysqlKeywords.foldl (fun t e => t.insert e.1 e.2) empty

end TypeTable

end TableStruct
