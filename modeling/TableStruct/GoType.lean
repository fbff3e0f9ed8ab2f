/-!
# Go types

The types that struct fields are given, their spelling and what they need
imported.
-/

namespace TableStruct

/-- The type of a struct field. -/
inductive GoType where
  /-- Text and binary data. -/
  | string
  /-- Wide integers and timestamps. -/
  | int64
  /-- Plain integers. -/
  | int32
  /-- Small integers and flags. -/
  | int
  /-- Decimals and double-precision numbers. -/
  | float64
  /-- Single-precision numbers. -/
  | float32
  /-- Dates and times. -/
  | time
  /-- Whatever no keyword stands for. -/
  | dynamic
  deriving DecidableEq, Repr

namespace GoType

/-- All types. -/
def all : List GoType :=
  [string, int64, int32, int, float64, float32, time, dynamic]

/-- How Go source spells the type. -/
def spelling : GoType → String
  | string => "string"
  | int64 => "int64"
  | int32 => "int32"
  | int => "int"
  | float64 => "float64"
  | float32 => "float32"
  | time => "time.Time"
  | dynamic => "interface\x7b\x7d"

/-- The package the type comes from, if it is not built in. -/
def package? : GoType → Option String
  | time => some "time"
  | _ => none

/-- The name under which the type is stored. -/
def label : GoType → String
  | string => "String"
  | int64 => "Int64"
  | int32 => "Int32"
  | int => "Int"
  | float64 => "Float64"
  | float32 => "Float32"
  | time => "Time"
  | dynamic => "Dynamic"

/-- The type stored under a name. -/
def ofLabel? (name : String) : Option GoType :=
  all.find? fun t => t.label == name

end GoType

end TableStruct
