import TableStruct.Token

/-!
# What can go wrong

Every way in which a conversion fails, by cause, and the text that reports
it.
-/

namespace TableStruct

/-- What a tag name is used for. -/
inductive TagUse where
  /-- The tag repeats the column name. -/
  | column
  /-- The tag holds the column comment. -/
  | comment
  deriving DecidableEq, Repr

namespace TagUse

/-- The name used in messages. -/
def name : TagUse → String
  | column => "tag"
  | comment => "comment tag"

end TagUse

/-- A setting that cannot be used. -/
inductive Misfit where
  /-- A write mode that is none of the known ones. -/
  | writeMode (given : String)
  /-- A tag name without a character other than blanks. -/
  | blankTag (use : TagUse)
  /-- A tag name with a blank, a double quote, a backquote or a colon. -/
  | brokenTag (use : TagUse) (tag : String)
  /-- A package name that is no identifier. -/
  | package (name : String)
  deriving DecidableEq, Repr

namespace Misfit

/-- What is wrong with the setting. -/
def message : Misfit → String
  | writeMode given => s!"write mode should be one of [APPEND, OVERWRITE], got '{given}'"
  | blankTag use => s!"empty {use.name}"
  | brokenTag use tag => s!"invalid {use.name} '{tag}'"
  | package name => s!"invalid package name '{name}'"

end Misfit

/-- Why a conversion fails. -/
inductive Problem where
  /-- A setting cannot be used. -/
  | invalidConfiguration (misfit : Misfit)
  /-- There is no statement to convert. -/
  | noStatements
  /-- A statement names no table. -/
  | noTableName
  /-- A column is never given a type. -/
  | untypedField (table field : String)
  /-- A quote is open at the end of a statement. -/
  | unterminatedQuote (grouping : Grouping) (position : Nat)
  deriving DecidableEq, Repr

namespace Problem

/-- The report of a failure. -/
def message : Problem → String
  | invalidConfiguration misfit => s!"Invalid configuration: {misfit.message}"
  | noStatements => "Empty input: no statements supplied"
  | noTableName => "Empty input: statement has no backquoted table name"
  | untypedField table field => s!"Field '{field}' of table '{table}' has no type"
  | unterminatedQuote grouping position =>
    s!"Unterminated {grouping.name} token starting at position {position}"

end Problem

end TableStruct
