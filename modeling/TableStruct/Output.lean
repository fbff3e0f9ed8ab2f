import TableStruct.Path
import TableStruct.WriteMode

/-!
# Output files

Where the generated text goes and how it is written there.
-/

namespace TableStruct

/-- An output file. -/
structure Output where
  /-- The path of the file. -/
  path : String
  /-- How the file is written. -/
  mode : WriteMode
  deriving DecidableEq, Repr

namespace Output

/-- The output of a source file: in the target directory if there is one,
and next to the source otherwise. -/
def resolve (source : String) (target : Option String) (fileName : String) (mode : WriteMode) :
    Output where
  path := Path.join (target.getD ((Path.parent? source).getD "")) fileName
  mode := mode

end Output

end TableStruct
