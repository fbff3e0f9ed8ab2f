import TableStruct.Text.Blank
import TableStruct.Text.Lower
import TableStruct.Text.Ordered

/-!
# Abbreviations

The words that a generated name writes in capitals throughout, such as
`id`. They are kept trimmed, in lower case, in order and once each; blank
words are never kept.
-/

namespace TableStruct

/-- A set of abbreviations. -/
structure Abbreviations where
  /-- The words, in increasing order. -/
  words : List String
  deriving DecidableEq, Repr

namespace Abbreviations

/-- No abbreviation at all. -/
def empty : Abbreviations :=
  ⟨[]⟩

/-- The form in which a word is kept. -/
def normalize (word : String) : String :=
  Text.lowerCase (Text.trimmed word)

/-- Adds a word, unless it is blank. -/
def insert (a : Abbreviations) (word : String) : Abbreviations :=
  let word := normalize word
  if word = "" then a else ⟨Text.insertWord word a.words⟩

/-- Adds several words. -/
def insertAll (a : Abbreviations) (words : List String) : Abbreviations :=
  words.foldl insert a

/-- The set a conversion starts from. -/
def standard : Abbreviations :=
  empty.insert "id"

/-- The segment is an abbreviation, in any case. -/
def contains (a : Abbreviations) (segment : String) : Bool :=
  a.words.contains (Text.lowerCase segment)

end Abbreviations

end TableStruct
