/-!
# ASCII letters

Keywords are matched over the ASCII letters alone: a small letter and its
capital are the same letter, and every other character only equals itself.
-/

namespace TableStruct

namespace Text

/-- Upper-cases the ASCII letters of a text. -/
def asciiUpper (s : String) : String :=
  String.ofList (s.toList.map Char.toUpper)

/-- Two texts are equal up to the case of ASCII letters. -/
def sameLetters (a b : List Char) : Bool :=
  a.map Char.toLower == b.map Char.toLower

theorem sameLetters_iff {a b : List Char} :
    sameLetters a b ↔ a.map Char.toLower = b.map Char.toLower := by
  simp [sameLetters]

end Text

end TableStruct
