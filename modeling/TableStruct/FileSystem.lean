import TableStruct.WriteMode

/-!
# A file system

Files are found by walking from directory to directory along the names of a
path. A path leads to a place for a file when every directory on the way is
there and the place is not a directory itself; a file is created where
there is none yet.
-/

namespace TableStruct

/-- Why a file cannot be read or written. -/
inductive Fault where
  /-- A name on the way leads nowhere. -/
  | notFound
  /-- A name on the way leads to a file. -/
  | notDirectory
  /-- The path leads to a directory. -/
  | isDirectory
  /-- A name, or the whole path, is too long. -/
  | nameTooLong
  /-- The path holds a null character. -/
  | nullInPath
  /-- The bytes of the file are no text. -/
  | notText
  /-- Something else, as the system reports it. -/
  | other (report : String)
  deriving DecidableEq, Repr

namespace Fault

/-- The report of a fault. -/
def message : Fault → String
  | notFound => "No such file or directory (os error 2)"
  | notDirectory => "Not a directory (os error 20)"
  | isDirectory => "Is a directory (os error 21)"
  | nameTooLong => "File name too long (os error 36)"
  | nullInPath => "file name contained an unexpected NUL byte"
  | notText => "stream did not contain valid UTF-8"
  | other report => report

end Fault

/-- A place in the tree of directories: the names that lead there from the
root. -/
abbrev Location := List String

/-- The files and directories that there are, and the directory in which
paths begin. -/
structure FileSystem where
  /-- The files, each place once. -/
  files : List (Location × ByteArray)
  /-- The directories besides the root. -/
  directories : List Location
  /-- Where a path that is not absolute begins. -/
  current : Location

namespace FileSystem

/-- The place is a directory. -/
def isDirectory (fs : FileSystem) (l : Location) : Bool :=
  l == [] || fs.directories.contains l

/-- The content of the file at a place. -/
def content? (fs : FileSystem) (l : Location) : Option ByteArray :=
  fs.files.lookup l

/-- The file system with a file of the given content at a place. -/
def put (fs : FileSystem) (l : Location) (content : ByteArray) : FileSystem :=
  { fs with files := (l, content) :: fs.files.filter fun e => e.1 != l }

/-- Most bytes in a name. -/
def nameLimit : Nat := 255

/-- Most bytes in a path. -/
def pathLimit : Nat := 4095

/-- Goes from a directory along one name, which must lead to a directory. -/
def enter (fs : FileSystem) (l : Location) (name : String) : Except Fault Location :=
  if name = "." then .ok l
  else if name = ".." then .ok l.dropLast
  else if name.utf8ByteSize > nameLimit then .error .nameTooLong
  else if fs.isDirectory (l ++ [name]) then .ok (l ++ [name])
  else if (fs.content? (l ++ [name])).isSome then .error .notDirectory
  else .error .notFound

/-- The place for a file with a name in a directory. -/
def place (fs : FileSystem) (l : Location) (name : String) : Except Fault Location :=
  if name = "." || name = ".." then .error .isDirectory
  else if name.utf8ByteSize > nameLimit then .error .nameTooLong
  else if fs.isDirectory (l ++ [name]) then .error .isDirectory
  else .ok (l ++ [name])

/-- The place for a file that a path leads to. -/
def locate (fs : FileSystem) (path : String) : Except Fault Location :=
  let cs := path.toList
  if '\x00' ∈ cs then .error .nullInPath
  else if cs = [] then .error .notFound
  else if path.utf8ByteSize > pathLimit then .error .nameTooLong
  else
    let start := if cs.head? = some '/' then [] else fs.current
    let names := ((cs.splitOn '/').filter (· ≠ [])).map String.ofList
    match names.getLast? with
    | none => .error .isDirectory
    | some name => do
      let l ← names.dropLast.foldlM fs.enter start
      if cs.getLast? = some '/' then .error .isDirectory else fs.place l name

/-- The content of the file that a path leads to, if it leads to one. -/
def read? (fs : FileSystem) (path : String) : Option ByteArray :=
  match fs.locate path with
  | .ok l => fs.content? l
  | .error _ => none

/-- Writes bytes to the file that a path leads to. -/
def write (fs : FileSystem) (path : String) (mode : WriteMode) (bytes : ByteArray) :
    Except Fault FileSystem :=
  (fs.locate path).map fun l =>
    match mode with
    | .append => fs.put l ((fs.content? l).getD .empty ++ bytes)
    | .overwrite => fs.put l bytes

/-- A file that has been put is there, and every other file is as it was. -/
theorem content?_put (fs : FileSystem) (l l' : Location) (content : ByteArray) :
    (fs.put l content).content? l' = if l' = l then some content else fs.content? l' := by
  simp only [content?, put]
  by_cases h : l' = l
  · simp [h]
  · have hne : (l' == l) = false := by simpa using h
    rw [List.lookup_cons, hne, if_neg h]
    simp only
    induction fs.files with
    | nil => rfl
    | cons e es ih =>
      obtain ⟨k, v⟩ := e
      by_cases hk : k = l
      · subst hk
        simp [List.lookup_cons, hne, ih]
      · have hk' : (k != l) = true := by simpa using hk
        rw [List.filter_cons_of_pos (by simpa using hk'), List.lookup_cons, List.lookup_cons, ih]

end FileSystem

end TableStruct
