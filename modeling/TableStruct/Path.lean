/-!
# Paths

A path is a text of steps between slashes. Repeated slashes count once, and
a lone point counts only at the front. The parent of a path is the part of
its text before the last step, without the slashes and points at its end; a
path without a last step to take off has none. Joining puts a path behind a
directory and changes neither text.
-/

namespace TableStruct

namespace Path

/-- A step of a path. -/
inductive Step where
  /-- The root, for a path that begins with a slash. -/
  | root
  /-- The point at the front of a path. -/
  | here
  /-- Two points. -/
  | up
  /-- A name. -/
  | name (text : String)
  deriving DecidableEq, Repr

/-- The front of a path that no parent takes off: the root slash, or a lone
point. -/
def anchor : List Char → List Char
  | '/' :: _ => ['/']
  | ['.'] => ['.']
  | '.' :: '/' :: _ => ['.']
  | _ => []

/-- The texts between the slashes behind the anchor. -/
def segments (cs : List Char) : List (List Char) :=
  (cs.drop (anchor cs).length).splitOn '/'

/-- A segment that is no step: nothing, or a lone point. -/
def isIdle (segment : List Char) : Bool :=
  segment == [] || segment == ['.']

/-- The steps of a path. -/
def steps (path : String) : List Step :=
  let cs := path.toList
  (match anchor cs with
    | ['/'] => [.root]
    | ['.'] => [.here]
    | _ => []) ++
  ((segments cs).filter fun s => !isIdle s).map fun s =>
    if s = ['.', '.'] then .up else .name (String.ofList s)

/-- The part of a path before its last step. -/
def parent? (path : String) : Option String :=
  let cs := path.toList
  match (segments cs).reverse.dropWhile isIdle with
  | [] => if anchor cs = ['.'] then some "" else none
  | _ :: before =>
    some (String.ofList (anchor cs ++ ['/'].intercalate (before.dropWhile isIdle).reverse))

/-- A path that begins at the root. -/
def isAbsolute (path : String) : Bool :=
  path.toList.head? == some '/'

/-- The path of a file in a directory. -/
def join (directory file : String) : String :=
  if isAbsolute file || directory = "" then file
  else if directory.toList.getLast? = some '/' then directory ++ file
  else directory ++ "/" ++ file

end Path

end TableStruct
