import TableStruct.Output
import TableStruct.Settings

/-!
# Options of a run

What the command line asks for, and the settings and the output that
follow from it.
-/

namespace TableStruct

/-- What a run emits. -/
inductive Format where
  /-- Go source with a struct for each table. -/
  | go
  /-- The schemas as JSON. -/
  | json
  deriving DecidableEq, Repr

namespace Format

/-- The name on the command line. -/
def name : Format → String
  | go => "go"
  | json => "json"

end Format

/-- The options of a run. -/
structure Options where
  /-- The source file. -/
  path : String
  /-- The tags that repeat the column name. -/
  tags : List String
  /-- The tag that holds the column comment. -/
  commentTag : String
  /-- Taken off the start of table names. -/
  tableLead : Option String
  /-- Taken off the end of table names. -/
  tableTrail : Option String
  /-- Taken off the start of column names. -/
  fieldLead : Option String
  /-- Taken off the end of column names. -/
  fieldTrail : Option String
  /-- The output directory. -/
  target : Option String
  /-- The output file name. -/
  fileName : String
  /-- How the output file is written. -/
  mode : WriteMode
  /-- Abbreviations besides the standard ones. -/
  abbreviations : List String
  /-- The package name of the generated file. -/
  package : String
  /-- Report columns without a type and open quotes. -/
  strict : Bool
  /-- Take statements as they are written. -/
  preserveCase : Bool
  /-- What is emitted. -/
  format : Format
  /-- Print instead of writing the output file. -/
  dryRun : Bool
  /-- Log every step. -/
  verbose : Bool
  deriving DecidableEq, Repr

namespace Options

/-- The settings that the options ask for. -/
def settings (o : Options) : Settings where
  tags := o.tags.map Text.trimmed
  commentTag := Text.trimmed o.commentTag
  tableAffix := ⟨o.tableLead.getD "", o.tableTrail.getD ""⟩
  fieldAffix := ⟨o.fieldLead.getD "", o.fieldTrail.getD ""⟩
  abbreviations := Abbreviations.standard.insertAll o.abbreviations
  strict := o.strict
  preserveCase := o.preserveCase
  package := Text.trimmed o.package

/-- The output that the options ask for. -/
def output (o : Options) : Output :=
  .resolve o.path o.target o.fileName o.mode

end Options

end TableStruct
