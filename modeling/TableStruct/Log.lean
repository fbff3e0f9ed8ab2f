import TableStruct.Converter
import TableStruct.WriteMode

/-!
# The log of a run

A run tells what it does in lines of a level, a message and named values.
The lines of the finer level are left out unless they are asked for.
-/

namespace TableStruct

/-- How important a line is. -/
inductive Level where
  /-- Every step. -/
  | debug
  /-- The results. -/
  | info
  deriving DecidableEq, Repr

namespace Level

/-- The name, in a column of five characters. -/
def name : Level → String
  | debug => "DEBUG"
  | info => " INFO"

end Level

/-- Something that a run does. -/
inductive Event where
  /-- The source has been read and cut into statements. -/
  | sourceRead (path : String) (statements : Nat)
  /-- The statement at an index is being read. -/
  | extracting (index : Nat)
  /-- A column is passed over. -/
  | dropping (field : String)
  /-- A table has been read. -/
  | extracted (table : String) (fields : Nat)
  /-- The structs are laid out. -/
  | generated (structs : Nat)
  /-- The output will be printed. -/
  | dryRun
  /-- The output file is being opened. -/
  | opening (path : String) (mode : WriteMode)
  /-- The output file is written. -/
  | written (path : String)
  deriving DecidableEq, Repr

namespace Event

/-- How important the event is. -/
def level : Event → Level
  | generated _ | dryRun | written _ => .info
  | sourceRead .. | extracting _ | dropping _ | extracted .. | opening .. => .debug

/-- One character of a message. Characters that a terminal would obey are
spelt out. -/
def spellChar (c : Char) : List Char :=
  let n := c.toNat
  if n = 0x1B || n = 0x07 || n = 0x08 || n = 0x0C || n = 0x7F then
    '\\' :: 'x' :: [Nat.digitChar (n / 16), Nat.digitChar (n % 16)]
  else if 0x80 ≤ n && n ≤ 0x9F then
    '\\' :: 'u' :: '\x7b' :: [Nat.digitChar (n / 16), Nat.digitChar (n % 16), '\x7d']
  else [c]

/-- The message of an event. -/
def message : Event → String
  | sourceRead .. => "read SQL file"
  | extracting _ => "extracting statement"
  | dropping _ => "dropping field without type"
  | extracted .. => "extracted table"
  | generated _ => "generated structs"
  | dryRun => "Dry run mode - output will be printed but not written."
  | opening .. => "opening output"
  | written path => String.ofList (s!"Output: {path}".toList.flatMap spellChar)

/-- The named values of an event. -/
def values : Event → List (String × String)
  | sourceRead path statements => [("path", path), ("statements", toString statements)]
  | extracting index => [("index", toString index)]
  | dropping field => [("field", field)]
  | extracted table fields => [("table", table), ("fields", toString fields)]
  | generated structs => [("structs", toString structs)]
  | dryRun => []
  | opening path mode => [("path", path), ("mode", mode.name)]
  | written _ => []

/-- The line of an event. -/
def line (e : Event) : String :=
  s!"{e.level.name} {e.message}" ++ String.join (e.values.map fun v => s!" {v.1}={v.2}")

/-- The event is logged. -/
def isLogged (verbose : Bool) (e : Event) : Bool :=
  verbose || e.level == .info

end Event

namespace Converter

/-- What the extraction of statements does, the first of them at an index.
It ends with the first statement that has no schema. -/
def events (c : Converter) (index : Nat) : List String → List Event
  | [] => []
  | s :: ss =>
    let x := c.read s
    .extracting index :: (x.dropped.map .dropping ++
      match x.schema with
      | .ok t => .extracted t.tableName t.fields.length :: c.events (index + 1) ss
      | .error _ => [])

end Converter

end TableStruct
