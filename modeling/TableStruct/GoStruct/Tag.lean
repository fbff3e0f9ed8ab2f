/-!
# Tag blocks

A tag block is a raw string of entries `key:"value"` with single spaces
between them. Values are escaped, so that a value ends where it should and
the raw string stays on one line and in one piece: quotes and backslashes
are written with a backslash, a backquote as a single quote and a line
break as a space.
-/

namespace TableStruct

namespace Tag

/-- One character of a value as it is written. -/
def escapeChar (c : Char) : List Char :=
  if c = '\x22' then ['\\', '\x22']
  else if c = '\\' then ['\\', '\\']
  else if c = '\x60' then ['\x27']
  else if c = '\n' || c = '\r' then [' ']
  else [c]

/-- A value as it is written. -/
def escape (value : List Char) : List Char :=
  value.flatMap escapeChar

/-- One entry: the key, a colon and the value in quotes. -/
def entry (key value : String) : List Char :=
  key.toList ++ ':' :: '\x22' :: (escape value.toList ++ ['\x22'])

/-- The keys and values of a column: each tag with the column name, then
the comment tag with a comment that is not empty. -/
def pairs (tags : List String) (commentTag column : String) (comment : Option String) :
    List (String × String) :=
  (tags.map fun tag => (tag, column)) ++
    match comment with
    | none => []
    | some text => if text = "" then [] else [(commentTag, text)]

/-- The tag block of a column, empty if it has no entries. -/
def block (tags : List String) (commentTag column : String) (comment : Option String) : String :=
  match pairs tags commentTag column comment with
  | [] => ""
  | entries =>
    String.ofList ('\x60' :: ([' '].intercalate (entries.map fun e => entry e.1 e.2) ++ ['\x60']))

end Tag

end TableStruct
