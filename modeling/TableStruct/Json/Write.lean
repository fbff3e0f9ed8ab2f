import TableStruct.Json
import TableStruct.Json.Literal

/-!
# Writing JSON

A value is written on one line without blanks, or with each item on a line
of its own, two spaces deeper than what holds it. An array or object
without items is written the same in both styles.
-/

namespace TableStruct

namespace Json

/-- How a value is laid out. -/
inductive Style where
  /-- On one line. -/
  | compact
  /-- With a line for each item. -/
  | pretty
  deriving DecidableEq, Repr

namespace Style

/-- What stands before an item, or a closing bracket, at a depth. -/
def lineBreak (s : Style) (depth : Nat) : List Char :=
  match s with
  | compact => []
  | pretty => '\n' :: List.replicate (2 * depth) ' '

/-- What stands between a name and its value. -/
def colon : Style → List Char
  | compact => [':']
  | pretty => [':', ' ']

end Style

/-- The literal of a string. -/
def literal : Option String → List Char
  | some s => quote s.toList
  | none => "\"\\ud800\"".toList

mutual

/-- Writes a value that stands at a depth. -/
def write (s : Style) (depth : Nat) : Json → List Char
  | .null => "null".toList
  | .bool true => "true".toList
  | .bool false => "false".toList
  | .number l => l.toList
  | .string t => literal t
  | .array [] => ['[', ']']
  | .array (j :: js) =>
    '[' :: (s.lineBreak (depth + 1) ++ write s (depth + 1) j ++ writeItems s (depth + 1) js ++
      s.lineBreak depth ++ [']'])
  | .object [] => ['\x7b', '\x7d']
  | .object (m :: ms) =>
    '\x7b' :: (s.lineBreak (depth + 1) ++ writeMember s (depth + 1) m ++
      writeMembers s (depth + 1) ms ++ s.lineBreak depth ++ ['\x7d'])

/-- Writes the items after the first. -/
def writeItems (s : Style) (depth : Nat) : List Json → List Char
  | [] => []
  | j :: js => ',' :: (s.lineBreak depth ++ write s depth j ++ writeItems s depth js)

/-- Writes a member of an object. -/
def writeMember (s : Style) (depth : Nat) : Option String × Json → List Char
  | (name, j) => literal name ++ s.colon ++ write s depth j

/-- Writes the members after the first. -/
def writeMembers (s : Style) (depth : Nat) : List (Option String × Json) → List Char
  | [] => []
  | m :: ms => ',' :: (s.lineBreak depth ++ writeMember s depth m ++ writeMembers s depth ms)

end

/-- The text of a value. -/
def render (s : Style) (j : Json) : String :=
  String.ofList (write s 0 j)

end Json

end TableStruct
