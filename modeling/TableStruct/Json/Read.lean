import TableStruct.Json
import TableStruct.Json.Literal

/-!
# Reading JSON

Reads a text that holds one JSON value and nothing else but white space.
Each value takes at least one character off the text, so that twice as many
steps as there are characters are always enough.
-/

namespace TableStruct

namespace Json

/-- The characters that may stand between the tokens of a JSON text. -/
def isSpace (c : Char) : Bool :=
  c == ' ' || c == '\t' || c == '\n' || c == '\r'

/-- Drops the white space at the front. -/
def skipSpace (cs : List Char) : List Char :=
  cs.dropWhile isSpace

/-! ## Numbers -/

/-- A decimal digit. -/
def isDigit (c : Char) : Bool :=
  '0' ≤ c && c ≤ '9'

/-- Takes one or more digits off the front. -/
def digits? (cs : List Char) : Option (List Char × List Char) :=
  match cs.takeWhile isDigit with
  | [] => none
  | ds => some (ds, cs.dropWhile isDigit)

/-- Takes a part off the front that may be missing: it is there if its
first character is. -/
def optional (opens : Char → Bool) (part : List Char → Option (List Char × List Char))
    (cs : List Char) : Option (List Char × List Char) :=
  match cs with
  | c :: rest =>
    if opens c then (part rest).map fun r => (c :: r.1, r.2) else some ([], c :: rest)
  | [] => some ([], [])

/-- The whole part of a number: a zero, or digits that begin with none. -/
def whole? : List Char → Option (List Char × List Char)
  | '0' :: cs => some (['0'], cs)
  | cs => digits? cs

/-- The fraction of a number, with its point. -/
def fraction? : List Char → Option (List Char × List Char) :=
  optional (· == '.') digits?

/-- The exponent of a number, with its letter and sign. -/
def exponent? : List Char → Option (List Char × List Char) :=
  optional (fun c => c == 'e' || c == 'E') fun cs =>
    match cs with
    | [] => none
    | c :: rest =>
      if c == '+' || c == '-' then (digits? rest).map fun r => (c :: r.1, r.2)
      else digits? (c :: rest)

/-- Takes a number off the front. -/
def number? (cs : List Char) : Option (Json × List Char) := do
  let (minus, cs) := match cs with
    | '-' :: rest => (['-'], rest)
    | _ => ([], cs)
  let (whole, cs) ← whole? cs
  let (fraction, cs) ← fraction? cs
  let (exponent, cs) ← exponent? cs
  pure (.number (String.ofList (minus ++ whole ++ fraction ++ exponent)), cs)

/-! ## Values -/

/-- Takes a string off the front, its opening quote taken off. -/
def string? (cs : List Char) : Option (Option String × List Char) :=
  (codes cs).map fun r => ((join r.1).map String.ofList, r.2)

/-- Takes a word off the front. -/
def word? (word : String) (value : Json) (cs : List Char) : Option (Json × List Char) :=
  (word.toList.isPrefixOf? cs).map fun rest => (value, rest)

mutual

/-- Takes a value off the front, in at most so many steps. -/
def value? : Nat → List Char → Option (Json × List Char)
  | 0, _ => none
  | steps + 1, cs =>
    match skipSpace cs with
    | [] => none
    | c :: rest =>
      if c = '\x22' then (string? rest).map fun r => (.string r.1, r.2)
      else if c = '[' then
        match skipSpace rest with
        | ']' :: rest => some (.array [], rest)
        | rest => (items? steps rest).map fun r => (.array r.1, r.2)
      else if c = '\x7b' then
        match skipSpace rest with
        | '\x7d' :: rest => some (.object [], rest)
        | rest => (members? steps rest).map fun r => (.object r.1, r.2)
      else if c = 'n' then word? "null" .null (c :: rest)
      else if c = 't' then word? "true" (.bool true) (c :: rest)
      else if c = 'f' then word? "false" (.bool false) (c :: rest)
      else number? (c :: rest)

/-- Takes the items of an array off the front, with the closing bracket. -/
def items? : Nat → List Char → Option (List Json × List Char)
  | 0, _ => none
  | steps + 1, cs => do
    let (j, cs) ← value? steps cs
    match skipSpace cs with
    | ',' :: rest => do
      let (js, rest) ← items? steps rest
      pure (j :: js, rest)
    | ']' :: rest => pure ([j], rest)
    | _ => none

/-- Takes the members of an object off the front, with the closing
brace. -/
def members? : Nat → List Char → Option (List (Option String × Json) × List Char)
  | 0, _ => none
  | steps + 1, cs =>
    match skipSpace cs with
    | '\x22' :: cs => do
      let (name, cs) ← string? cs
      match skipSpace cs with
      | ':' :: cs => do
        let (j, cs) ← value? steps cs
        match skipSpace cs with
        | ',' :: rest => do
          let (ms, rest) ← members? steps rest
          pure ((name, j) :: ms, rest)
        | '\x7d' :: rest => pure ([(name, j)], rest)
        | _ => none
      | _ => none
    | _ => none

end

/-- The value that a text holds. -/
def parse? (text : String) : Option Json :=
  match value? (2 * text.toList.length + 2) text.toList with
  | some (j, rest) => if skipSpace rest = [] then some j else none
  | none => none

end Json

end TableStruct
