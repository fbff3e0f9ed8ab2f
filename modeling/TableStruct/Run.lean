import TableStruct.FileSystem
import TableStruct.Log
import TableStruct.Options
import TableStruct.Schema.Json
import TableStruct.Statement

/-!
# Runs

A run reads the source file, converts its statements and prints the result
or writes it to the output file. What it does follows from the options and
the source alone; only then is anything printed or written, and never both.
-/

namespace TableStruct

/-- Why a run fails. -/
inductive Failure where
  /-- The source is no file. -/
  | sourceNotFound (path : String)
  /-- A file cannot be read or written. -/
  | io (fault : Fault)
  /-- The statements cannot be converted. -/
  | conversion (problem : Problem)
  deriving DecidableEq, Repr

namespace Failure

/-- The report of a failure. -/
def message : Failure → String
  | sourceNotFound path => s!"SQL file not found or not a regular file: {path}"
  | io fault => s!"IO error: {fault.message}"
  | conversion problem => problem.message

/-- The text that ends a failed run, with the cause of a fault on lines of
its own. -/
def report (f : Failure) : String :=
  s!"Error: {f.message}\n" ++
    match f with
    | io fault => s!"\nCaused by:\n    {fault.message}\n"
    | _ => ""

end Failure

/-- What a path to a source leads to. -/
inductive Source where
  /-- No file. -/
  | absent
  /-- A file that cannot be read. -/
  | broken (fault : Fault)
  /-- A file with a text. -/
  | text (content : String)
  deriving DecidableEq, Repr

namespace Source

/-- The source that the bytes of a file are, if there is a file. -/
def ofBytes : Option ByteArray → Source
  | none => .absent
  | some bytes =>
    match String.fromUTF8? bytes with
    | none => .broken .notText
    | some s => .text s

end Source

/-- What a run does with its result. -/
inductive Action where
  /-- Prints it. -/
  | print (content : String)
  /-- Writes it to a file. -/
  | write (output : Output) (content : String)
  deriving DecidableEq, Repr

/-- What a run is going to do. -/
structure Plan where
  /-- What it has done by then. -/
  log : List Event
  /-- What is left to do, or why the run fails. -/
  action : Except Failure Action

namespace Plan

/-- The text that statements are converted to. -/
def content (c : Converter) (format : Format) (statements : List String) :
    Except Problem String :=
  match format with
  | .go => c.file statements
  | .json => (c.schemas statements).map fun schemas => Schema.renderList .pretty schemas ++ "\n"

/-- What is done to the text. -/
def actionFor (o : Options) (content : String) : Action :=
  if o.dryRun then .print content else .write o.output content

/-- What is logged of the text before it is printed or written. -/
def closing (o : Options) (statements : Nat) : List Event :=
  (match o.format with
    | .go => [.generated statements]
    | .json => []) ++
  [if o.dryRun then .dryRun else .opening o.output.path o.output.mode]

/-- The plan for statements that have been read. -/
def ofStatements (o : Options) (statements : List String) : Plan :=
  match Converter.ofSettings o.settings with
  | .error p => ⟨[], .error (.conversion p)⟩
  | .ok c =>
    match content c o.format statements with
    | .error p => ⟨c.events 0 statements, .error (.conversion p)⟩
    | .ok text =>
      ⟨c.events 0 statements ++ closing o statements.length, .ok (actionFor o text)⟩

/-- The plan of a run. -/
def of (o : Options) (source : Source) : Plan :=
  match source with
  | .absent => ⟨[], .error (.sourceNotFound o.path)⟩
  | .broken fault => ⟨[], .error (.io fault)⟩
  | .text s =>
    let statements := Statement.ofSource s
    let plan := ofStatements o statements
    ⟨.sourceRead o.path statements.length :: plan.log, plan.action⟩

end Plan

/-- What a run has come to. -/
inductive Outcome where
  /-- The output file is written. -/
  | written (path : String)
  /-- The result is printed. -/
  | printed (content : String)
  deriving DecidableEq, Repr

/-- The account of a run. -/
structure Report where
  /-- What has been done, in order. -/
  log : List Event
  /-- What came of it. -/
  outcome : Except Failure Outcome

namespace Report

/-- The exit code. -/
def exitCode (r : Report) : Nat :=
  match r.outcome with
  | .ok _ => 0
  | .error _ => 1

/-- What stands on the output stream. -/
def printed (r : Report) : String :=
  match r.outcome with
  | .ok (.printed content) => content
  | _ => ""

/-- What stands on the error stream: the log, and the report of a
failure. -/
def logged (verbose : Bool) (r : Report) : String :=
  String.join ((r.log.filter (Event.isLogged verbose)).map fun e => e.line ++ "\n") ++
    match r.outcome with
    | .ok _ => ""
    | .error f => f.report

end Report

/-- Runs in a file system. -/
def run (o : Options) (fs : FileSystem) : Report × FileSystem :=
  let plan := Plan.of o (.ofBytes (fs.read? o.path))
  match plan.action with
  | .error f => (⟨plan.log, .error f⟩, fs)
  | .ok (.print content) => (⟨plan.log, .ok (.printed content)⟩, fs)
  | .ok (.write output content) =>
    match fs.write output.path output.mode content.toUTF8 with
    | .error fault => (⟨plan.log, .error (.io fault)⟩, fs)
    | .ok fs =>
      (⟨plan.log ++ [.written output.path], .ok (.written output.path)⟩, fs)

end TableStruct
