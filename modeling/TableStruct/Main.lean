import TableStruct.Options.Arguments
import TableStruct.Run
import TableStruct.Usage

/-!
# The command line

Takes the arguments and the write mode of the surroundings, reads the
source, and does what the plan of the run says.
-/

namespace TableStruct

namespace Console

/-- The fault behind an error of the system. -/
def faultOf : IO.Error → Fault
  | .noFileOrDirectory .. => .notFound
  | .inappropriateType _ code details =>
    if code = 21 then .isDirectory
    else if code = 20 then .notDirectory
    else .other s!"{details} (os error {code})"
  | .alreadyExists _ code details | .invalidArgument _ code details
  | .permissionDenied _ code details | .resourceExhausted _ code details
  | .noSuchThing _ code details | .otherError code details =>
    .other s!"{details} (os error {code})"
  | e => .other (toString e)

/-- Reads a source file. A path that leads to no file has no source. -/
def readSource (path : String) : IO Source := do
  try
    let bytes ← IO.FS.readBinFile path
    pure (.ofBytes (some bytes))
  catch e =>
    match faultOf e with
    | .notFound | .isDirectory | .notDirectory => pure .absent
    | fault => pure (.broken fault)

/-- Writes an output file, and answers with what went wrong. -/
def writeOutput (output : Output) (content : String) : IO (Option Fault) := do
  let mode : IO.FS.Mode := match output.mode with
    | .append => .append
    | .overwrite => .write
  try
    let handle ← IO.FS.Handle.mk output.path mode
    handle.write content.toUTF8
    handle.flush
    pure none
  catch e => pure (some (faultOf e))

/-- Runs with options, and gives the account of the run. -/
def runOptions (o : Options) : IO Report := do
  let plan := Plan.of o (← readSource o.path)
  match plan.action with
  | .error f => pure ⟨plan.log, .error f⟩
  | .ok (.print content) => pure ⟨plan.log, .ok (.printed content)⟩
  | .ok (.write output content) =>
    match ← writeOutput output content with
    | some fault => pure ⟨plan.log, .error (.io fault)⟩
    | none => pure ⟨plan.log ++ [.written output.path], .ok (.written output.path)⟩

/-- Answers arguments that give no options. -/
def refuse (refusal : Refusal) : IO UInt32 := do
  match refusal with
  | .help =>
    IO.print usage
    pure 0
  | .version =>
    IO.print versionLine
    pure 0
  | refusal =>
    IO.eprint s!"error: {refusal.message}\n\n{usage}"
    pure 2

/-- Runs with arguments, and gives the exit code. -/
def launch (args : List String) : IO UInt32 := do
  match Options.ofArguments args (← IO.getEnv modeVariable) with
  | .error refusal => refuse refusal
  | .ok o =>
    let report ← runOptions o
    IO.eprint (report.logged o.verbose)
    IO.print report.printed
    pure (UInt32.ofNat report.exitCode)

end Console

end TableStruct

/-- The program. -/
def main (args : List String) : IO UInt32 :=
  TableStruct.Console.launch args
