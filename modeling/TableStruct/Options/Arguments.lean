import TableStruct.Options

/-!
# Command-line arguments

Arguments are taken one after another. An option's value stands in the same
argument or in the next one, and short options may share an argument. What
stands in an argument of its own, the value of an option or the source
path, is looked at only when the next option or path begins, so that an
unknown option is reported before a bad value in front of it.
-/

namespace TableStruct

/-- Why arguments give no options. -/
inductive Refusal where
  /-- There is no source path. -/
  | missingPath
  /-- An option that is not known, or a second path. -/
  | unknownArgument
  /-- An option without a value, an empty path or an unknown format. -/
  | invalidValue
  /-- A blank affix or an unknown write mode. -/
  | valueValidation
  /-- An option given twice that may be given once. -/
  | conflict
  /-- A value for an option that takes none. -/
  | tooManyValues
  /-- The help text is asked for. -/
  | help
  /-- The version is asked for. -/
  | version
  deriving DecidableEq, Repr

namespace Arguments

/-- The options that take a value. -/
inductive Valued where
  | tags | commentTag | tableLead | tableTrail | fieldLead | fieldTrail | target | fileName | mode
  | abbreviations | package | format
  deriving DecidableEq, Repr

/-- The options that take no value. -/
inductive Flag where
  | strict | preserveCase | dryRun | verbose
  deriving DecidableEq, Repr

/-- What an option's name stands for. -/
inductive Switch where
  /-- An option with a value. -/
  | valued (v : Valued)
  /-- An option without one. -/
  | flag (f : Flag)
  /-- A request for the help text. -/
  | help
  /-- A request for the version. -/
  | version
  deriving DecidableEq, Repr

/-- The options by their long names. -/
def longNames : List (String × Switch) := [
  ("tags", .valued .tags), ("comment-tag", .valued .commentTag),
  ("table-prefix", .valued .tableLead), ("table-suffix", .valued .tableTrail),
  ("field-prefix", .valued .fieldLead), ("field-suffix", .valued .fieldTrail),
  ("target", .valued .target), ("file-name", .valued .fileName), ("mode", .valued .mode),
  ("abbr", .valued .abbreviations), ("package", .valued .package), ("strict", .flag .strict),
  ("preserve-case", .flag .preserveCase), ("format", .valued .format), ("dry-run", .flag .dryRun),
  ("verbose", .flag .verbose), ("help", .help), ("version", .version)]

/-- The options by their short names. -/
def shortNames : List (Char × Switch) := [
  ('t', .valued .tags), ('m', .valued .mode), ('v', .flag .verbose), ('h', .help), ('V', .version)]

/-- What the arguments taken so far have given. An option that has not been
given is `none`, an empty list or `false`. -/
structure Given where
  /-- The source path. -/
  path : Option String := none
  /-- The tags of all their occurrences. -/
  tags : List String := []
  /-- The tag for comments. -/
  commentTag : Option String := none
  /-- Taken off the start of table names. -/
  tableLead : Option String := none
  /-- Taken off the end of table names. -/
  tableTrail : Option String := none
  /-- Taken off the start of column names. -/
  fieldLead : Option String := none
  /-- Taken off the end of column names. -/
  fieldTrail : Option String := none
  /-- The output directory. -/
  target : Option String := none
  /-- The output file name. -/
  fileName : Option String := none
  /-- The write mode. -/
  mode : Option WriteMode := none
  /-- The abbreviations of all their occurrences. -/
  abbreviations : List String := []
  /-- The package name. -/
  package : Option String := none
  /-- What is emitted. -/
  format : Option Format := none
  /-- Strict reading is on. -/
  strict : Bool := false
  /-- Statements are taken as written. -/
  preserveCase : Bool := false
  /-- The result is printed. -/
  dryRun : Bool := false
  /-- Every step is logged. -/
  verbose : Bool := false
  deriving DecidableEq, Repr

/-! ## Values -/

/-- The pieces of a list value; empty ones are kept. -/
def pieces (text : String) : List String :=
  (text.toList.splitOn ',').map String.ofList

/-- An affix: the text without the blanks around it, of which something
must be left. -/
def affix (text : String) : Except Refusal String :=
  let trimmed := Text.trimmed text
  if trimmed = "" then .error .valueValidation else .ok trimmed

/-- A path, which must not be empty. -/
def path (text : String) : Except Refusal String :=
  if text = "" then .error .invalidValue else .ok text

/-- A write mode. -/
def mode (text : String) : Except Refusal WriteMode :=
  (WriteMode.parse text).mapError fun _ => .valueValidation

/-- A format, named exactly. -/
def format (text : String) : Except Refusal Format :=
  if text = Format.go.name then .ok .go
  else if text = Format.json.name then .ok .json
  else .error .invalidValue

/-- Gives a value that must not have been given before. -/
def once {α : Type} (old : Option α) (new : Except Refusal α) : Except Refusal (Option α) :=
  if old.isSome then .error .conflict else new.map some

/-- Raises a flag that must not have been raised before. -/
def raise (old : Bool) : Except Refusal Bool :=
  if old then .error .conflict else .ok true

namespace Given

/-- Takes the value of an option. Tags and abbreviations add up. -/
def take (g : Given) (v : Valued) (text : String) : Except Refusal Given :=
  match v with
  | .tags => .ok { g with tags := g.tags ++ pieces text }
  | .abbreviations => .ok { g with abbreviations := g.abbreviations ++ pieces text }
  | .commentTag => (once g.commentTag (.ok text)).map fun x => { g with commentTag := x }
  | .tableLead => (once g.tableLead (affix text)).map fun x => { g with tableLead := x }
  | .tableTrail => (once g.tableTrail (affix text)).map fun x => { g with tableTrail := x }
  | .fieldLead => (once g.fieldLead (affix text)).map fun x => { g with fieldLead := x }
  | .fieldTrail => (once g.fieldTrail (affix text)).map fun x => { g with fieldTrail := x }
  | .target => (once g.target (Arguments.path text)).map fun x => { g with target := x }
  | .fileName => (once g.fileName (.ok text)).map fun x => { g with fileName := x }
  | .mode => (once g.mode (Arguments.mode text)).map fun x => { g with mode := x }
  | .package => (once g.package (.ok text)).map fun x => { g with package := x }
  | .format => (once g.format (Arguments.format text)).map fun x => { g with format := x }

/-- Takes an option without a value. -/
def flag (g : Given) (f : Flag) : Except Refusal Given :=
  match f with
  | .strict => (raise g.strict).map fun x => { g with strict := x }
  | .preserveCase => (raise g.preserveCase).map fun x => { g with preserveCase := x }
  | .dryRun => (raise g.dryRun).map fun x => { g with dryRun := x }
  | .verbose => (raise g.verbose).map fun x => { g with verbose := x }

/-- The options that follow, where what was not given has its default.
`modeSetting` is a write mode from the surroundings, which an option
overrules. -/
def options (g : Given) (modeSetting : Option String) : Except Refusal Options := do
  let mode ← match g.mode, modeSetting with
    | some mode, _ => .ok mode
    | none, some text => Arguments.mode text
    | none, none => .ok .append
  match g.path with
  | none => .error .missingPath
  | some path => .ok {
      path := path
      tags := if g.tags = [] then ["json", "db"] else g.tags
      commentTag := g.commentTag.getD "comment"
      tableLead := g.tableLead
      tableTrail := g.tableTrail
      fieldLead := g.fieldLead
      fieldTrail := g.fieldTrail
      target := g.target
      fileName := g.fileName.getD "generator.go"
      mode := mode
      abbreviations := g.abbreviations
      package := g.package.getD "main"
      strict := g.strict
      preserveCase := g.preserveCase
      format := g.format.getD .go
      dryRun := g.dryRun
      verbose := g.verbose }

end Given

/-! ## Taking arguments -/

/-- What stood in an argument of its own and has not been looked at. -/
inductive Pending where
  /-- Nothing. -/
  | nothing
  /-- An option whose value has yet to come. -/
  | awaiting (v : Valued)
  /-- An option's value. -/
  | value (v : Valued) (text : String)
  /-- The source path. -/
  | path (text : String)
  deriving DecidableEq, Repr

/-- The state between two arguments. -/
structure State where
  /-- What has been given. -/
  given : Given := {}
  /-- What has yet to be looked at. -/
  pending : Pending := .nothing
  /-- A path has been seen. -/
  pathSeen : Bool := false
  /-- Only paths may follow. -/
  pathsOnly : Bool := false
  deriving DecidableEq, Repr

namespace State

/-- Looks at what is pending. -/
def settle (s : State) : Except Refusal State :=
  match s.pending with
  | .nothing => .ok s
  | .awaiting _ => .error .invalidValue
  | .value v text => (s.given.take v text).map fun g => { s with given := g, pending := .nothing }
  | .path text =>
    (path text).map fun p =>
      { s with given := { s.given with path := some p }, pending := .nothing }

/-- Takes an option whose value stands in the same argument. -/
def attached (s : State) (v : Valued) (text : String) : Except Refusal State := do
  let s ← s.settle
  (s.given.take v text).map fun g => { s with given := g }

/-- Takes an option whose value has yet to come. -/
def await (s : State) (v : Valued) : Except Refusal State :=
  s.settle.map fun s => { s with pending := .awaiting v }

/-- Takes an option without a value. -/
def flag (s : State) (f : Flag) : Except Refusal State := do
  let s ← s.settle
  (s.given.flag f).map fun g => { s with given := g }

/-- Answers a request instead of going on. -/
def answer (s : State) (request : Refusal) : Except Refusal State := do
  let _ ← s.settle
  .error request

/-- Takes a path. -/
def takePath (s : State) (text : String) : Except Refusal State :=
  if s.pathSeen then .error .unknownArgument
  else s.settle.map fun s => { s with pending := .path text, pathSeen := true }

/-- Takes a long option, its two hyphens taken off. -/
def long (s : State) (cs : List Char) : Except Refusal State :=
  let name := String.ofList (cs.takeWhile (· != '='))
  let value? := match cs.dropWhile (· != '=') with
    | [] => none
    | _ :: value => some (String.ofList value)
  match longNames.lookup name, value? with
  | none, _ => .error .unknownArgument
  | some (.valued v), some text => s.attached v text
  | some (.valued v), none => s.await v
  | some _, some _ => .error .tooManyValues
  | some (.flag f), none => s.flag f
  | some .help, none => s.answer .help
  | some .version, none => s.answer .version

/-- Takes short options that share an argument, its hyphen taken off. The
first one with a value takes the rest of the argument for it. -/
def short (s : State) : List Char → Except Refusal State
  | [] => .ok s
  | c :: cs =>
    match shortNames.lookup c with
    | none => .error .unknownArgument
    | some .help => s.answer .help
    | some .version => s.answer .version
    | some (.flag f) => (s.flag f).bind fun s => s.short cs
    | some (.valued v) =>
      match cs with
      | [] => s.await v
      | '=' :: text => s.attached v (String.ofList text)
      | text => s.attached v (String.ofList text)

/-- Takes an argument that begins no option. -/
def plain (s : State) (text : String) : Except Refusal State :=
  match s.pending with
  | .awaiting v => .ok { s with pending := .value v text }
  | _ => s.takePath text

/-- Takes one argument. -/
def step (s : State) (arg : String) : Except Refusal State :=
  if s.pathsOnly then s.takePath arg
  else
    match arg.toList with
    | ['-', '-'] => .ok { s with pathsOnly := true }
    | '-' :: '-' :: cs => s.long cs
    | '-' :: c :: cs => s.short (c :: cs)
    | _ => s.plain arg

end State

end Arguments

namespace Options

/-- The options that arguments give. `modeSetting` is a write mode from the
surroundings, for when no argument gives one. -/
def ofArguments (args : List String) (modeSetting : Option String) : Except Refusal Options := do
  let s ← args.foldlM Arguments.State.step {}
  let s ← s.settle
  s.given.options modeSetting

end Options

end TableStruct
