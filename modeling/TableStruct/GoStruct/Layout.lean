import TableStruct.GoStruct
import TableStruct.Text.Blank
import TableStruct.Text.Ordered

/-!
# Layout of Go source

A struct is laid out with its names, types and tag blocks in columns, each
as wide as its widest entry, and no line ends in a blank. A file is the
package line, the imports its types need, and the structs, with a blank
line before each part.

A column can be of any width here. A formatter that keeps widths in 16 bits
fails on names and types of more than 65535 characters; that failure is
outside of the model.
-/

namespace TableStruct

namespace GoField

/-- The spelling of the field's type. -/
def typeText (f : GoField) : List Char :=
  f.goType.spelling.toList

end GoField

namespace Layout

/-- Fills a text up with spaces to a width. -/
def pad (width : Nat) (cs : List Char) : List Char :=
  cs ++ List.replicate (width - cs.length) ' '

/-- The width of the widest text. -/
def width (texts : List (List Char)) : Nat :=
  (texts.map List.length).foldr max 0

/-- The line of a field, the name and type columns of the given widths. -/
def fieldLine (nameWidth typeWidth : Nat) (f : GoField) : List Char :=
  Text.trimEnd ('\t' :: (pad nameWidth f.name.toList ++
    ' ' :: (pad typeWidth f.typeText ++ ' ' :: f.tagBlock.toList)))

/-- A struct definition, without a line feed at its end. -/
def structLines (s : GoStruct) : List Char :=
  let nameWidth := width (s.fields.map fun f => f.name.toList)
  let typeWidth := width (s.fields.map GoField.typeText)
  s!"type {s.name} struct \x7b\n".toList ++
    (s.fields.flatMap fun f => fieldLine nameWidth typeWidth f ++ ['\n']) ++ ['\x7d']

/-- The packages that the structs need, in increasing order and each once.
Dates and times are all that is not built in, so there is one at most. -/
def imports (structs : List GoStruct) : List String :=
  ((structs.flatMap GoStruct.fields).filterMap fun f => f.goType.package?).foldr Text.insertWord []

/-- The import lines, after a blank line if there are any. Several imports
are grouped. -/
def importLines : List String → List Char
  | [] => []
  | [path] => s!"\nimport \"{path}\"\n".toList
  | paths => "\nimport (\n".toList ++
      (paths.flatMap fun path => s!"\t\"{path}\"\n".toList) ++ ")\n".toList

end Layout

namespace GoStruct

/-- The source text of a struct. -/
def source (s : GoStruct) : String :=
  String.ofList (Layout.structLines s)

end GoStruct

/-- A file of structs in a package. -/
structure GoFile where
  /-- The package name. -/
  package : String
  /-- The structs, in order. -/
  structs : List GoStruct
  deriving DecidableEq, Repr

namespace GoFile

/-- The characters of the file. -/
def lines (f : GoFile) : List Char :=
  s!"package {f.package}\n".toList ++ Layout.importLines (Layout.imports f.structs) ++
    f.structs.flatMap fun s => '\n' :: (Layout.structLines s ++ ['\n'])

/-- The source text of the file. -/
def source (f : GoFile) : String :=
  String.ofList f.lines

end GoFile

end TableStruct
