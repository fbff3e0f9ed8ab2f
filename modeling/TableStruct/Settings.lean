import TableStruct.Name.Casing
import TableStruct.Problem
import TableStruct.Text.Alphabetic
import TableStruct.Text.Numeric
import TableStruct.TypeTable

/-!
# Settings

What a conversion needs besides the statements, and which settings it can
use. A tag name must have a character and no blank, double quote, backquote
or colon; a package name must be an identifier.
-/

namespace TableStruct

/-- The settings of a conversion. -/
structure Settings where
  /-- The tags that repeat the column name, in order. -/
  tags : List String := ["json", "db"]
  /-- The tag that holds the column comment. -/
  commentTag : String := "comment"
  /-- What is taken off table names. -/
  tableAffix : Affix := {}
  /-- What is taken off column names. -/
  fieldAffix : Affix := {}
  /-- The segments written in capitals. -/
  abbreviations : Abbreviations := .standard
  /-- The types of columns. -/
  types : TypeTable := .mysql
  /-- How names are cased. -/
  casing : Casing := .pascal
  /-- Report columns without a type and open quotes. -/
  strict : Bool := false
  /-- Take statements as they are written instead of lower-casing them. -/
  preserveCase : Bool := false
  /-- The package name of the generated file. -/
  package : String := "main"

namespace Settings

/-- A character that would break a tag name out of its place. -/
def breaksTag (c : Char) : Bool :=
  Text.isBlank c || c == '\x22' || c == '\x60' || c == ':'

/-- What is wrong with a tag name. -/
def tagMisfit? (use : TagUse) (tag : String) : Option Misfit :=
  if Text.trim tag.toList = [] then some (.blankTag use)
  else if tag.toList.any breaksTag then some (.brokenTag use tag)
  else none

/-- A character that may begin an identifier. -/
def opensIdentifier (c : Char) : Bool :=
  Text.isAlphabetic c || c == '_'

/-- A character that may stand in an identifier. -/
def inIdentifier (c : Char) : Bool :=
  Text.isAlphabetic c || Text.isNumeric c || c == '_'

/-- The text is an identifier. -/
def isIdentifier (text : String) : Bool :=
  text.toList.head?.any opensIdentifier && text.toList.all inIdentifier

/-- The first setting that cannot be used: a tag, the comment tag, and then
the package name. -/
def misfit? (s : Settings) : Option Misfit :=
  (s.tags.findSome? (tagMisfit? .column)).or <|
    (tagMisfit? .comment s.commentTag).or <|
      if isIdentifier s.package then none else some (.package s.package)

theorem tagMisfit?_eq_none {use : TagUse} {tag : String} :
    tagMisfit? use tag = none ↔
      Text.trim tag.toList ≠ [] ∧ ∀ c ∈ tag.toList, breaksTag c = false := by
  unfold tagMisfit?
  split
  · next h => simp [h]
  · next h => simp [h]

/-- **Settings without a misfit**: every tag name and the package name can
be used. -/
theorem misfit?_eq_none {s : Settings} :
    s.misfit? = none ↔ (∀ tag ∈ s.tags, tagMisfit? .column tag = none) ∧
      tagMisfit? .comment s.commentTag = none ∧ isIdentifier s.package := by
  rw [misfit?, Option.or_eq_none_iff, Option.or_eq_none_iff, List.findSome?_eq_none_iff]
  simp

end Settings

end TableStruct
