import TableStruct.Name.Abbreviations
import TableStruct.Name.Affix
import TableStruct.Text.Upper

/-!
# Casing of names

A database name is a row of segments between underscores. In Pascal case
the segments are joined: an abbreviation in capitals, any other segment
with its first character in upper case and the rest as it was.
-/

namespace TableStruct

namespace Abbreviations

/-- One segment of a name in Pascal case. -/
def pascalSegment (a : Abbreviations) (segment : List Char) : List Char :=
  if a.contains (String.ofList segment) then Text.upper segment
  else
    match segment with
    | [] => []
    | c :: cs => Text.upperChar c ++ cs

/-- A name in Pascal case. Empty segments add nothing. -/
def pascalCase (a : Abbreviations) (raw : String) : String :=
  String.ofList ((raw.toList.splitOn '_').flatMap a.pascalSegment)

end Abbreviations

/-- How a name is cased once its affixes are off: a function of the
abbreviations and the name. -/
structure Casing where
  /-- Cases a name. -/
  apply : Abbreviations → String → String

namespace Casing

/-- Pascal case. -/
def pascal : Casing :=
  ⟨Abbreviations.pascalCase⟩

/-- Names as they are. -/
def keep : Casing :=
  ⟨fun _ raw => raw⟩

/-- The identifier made from a database name. -/
def identifier (casing : Casing) (a : Abbreviations) (affix : Affix) (raw : String) : String :=
  casing.apply a (affix.strip raw)

end Casing

/-- The identifier made from a database name with the standard
abbreviations, in Pascal case. -/
def identifier (affix : Affix) (raw : String) : String :=
  Casing.pascal.identifier .standard affix raw

end TableStruct
