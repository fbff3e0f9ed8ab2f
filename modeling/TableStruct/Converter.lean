import TableStruct.GoStruct.Layout
import TableStruct.Schema.Extract

/-!
# Conversion of statements

A converter holds settings that can be used, and turns statements into
schemas, structs and source text. A list of statements is converted in
order, and the first failure is the failure of the whole.
-/

namespace TableStruct

/-- Settings that can be used. -/
structure Converter where
  /-- The settings. -/
  settings : Settings
  /-- No setting is amiss. -/
  usable : settings.misfit? = none

namespace Converter

/-- The converter with the given settings, or what is wrong with them. -/
def ofSettings (s : Settings) : Except Problem Converter :=
  match h : s.misfit? with
  | none => .ok ⟨s, h⟩
  | some misfit => .error (.invalidConfiguration misfit)

/-- The form in which a statement is read. -/
def prepare (c : Converter) (statement : String) : String :=
  if c.settings.preserveCase then statement else Text.lowerCase statement

/-- Reads one statement. -/
def read (c : Converter) (statement : String) : Extraction :=
  Extraction.ofStatement c.settings.strict (c.prepare statement)

/-- The schema of one statement. -/
def schema (c : Converter) (statement : String) : Except Problem Schema :=
  (c.read statement).schema

/-- The schemas of all statements, of which there must be one. -/
def schemas (c : Converter) (statements : List String) : Except Problem (List Schema) :=
  if statements = [] then .error .noStatements else statements.mapM c.schema

/-- The struct for a schema. -/
def goStruct (c : Converter) (s : Schema) : GoStruct :=
  GoStruct.ofSchema c.settings s

/-- The structs for all statements. -/
def goStructs (c : Converter) (statements : List String) : Except Problem (List GoStruct) :=
  (c.schemas statements).map fun schemas => schemas.map c.goStruct

/-- The source text of each struct. -/
def definitions (c : Converter) (statements : List String) : Except Problem (List String) :=
  (c.goStructs statements).map fun structs => structs.map GoStruct.source

/-- The source text of a file with all structs. -/
def file (c : Converter) (statements : List String) : Except Problem String :=
  (c.goStructs statements).map fun structs => (GoFile.mk c.settings.package structs).source

end Converter

end TableStruct
