import TableStruct.Problem
import TableStruct.Text.Ascii
import TableStruct.Text.Blank

/-!
# Write modes

What happens to an output file that exists already.
-/

namespace TableStruct

/-- How an output file is written. -/
inductive WriteMode where
  /-- After what it holds. -/
  | append
  /-- In place of what it holds. -/
  | overwrite
  deriving DecidableEq, Repr

namespace WriteMode

/-- The canonical name. -/
def name : WriteMode → String
  | append => "APPEND"
  | overwrite => "OVERWRITE"

/-- Reads a mode, in any ASCII case and with blanks around it. -/
def parse (text : String) : Except Misfit WriteMode :=
  let wanted := Text.asciiUpper (Text.trimmed text)
  if wanted = append.name then .ok append
  else if wanted = overwrite.name then .ok overwrite
  else .error (.writeMode text)

end WriteMode

end TableStruct
