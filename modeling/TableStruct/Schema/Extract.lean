import TableStruct.Problem
import TableStruct.Schema
import TableStruct.Text.Lower
import TableStruct.Token.Reader

/-!
# Reading a schema off a statement

The tokens of a statement are given roles from left to right, by what went
before. The first identifier in backquotes names the table and each later
one a column; the token after an identifier is a column's type; the token
after the word `comment` is a column's comment. An identifier after the
word `key`, or right after a column name, begins the index clauses, and
nothing from there on belongs to a column.

A column without a type, which only the last one can be, and a quote that
the statement leaves open are passed over, or reported when the reading is
strict.
-/

namespace TableStruct

/-- What a token says about the table. -/
inductive Role where
  /-- It names the table. -/
  | table
  /-- It names a column. -/
  | field
  /-- It is the type of the column named last. -/
  | fieldType
  /-- It is the comment of the column named last. -/
  | comment
  deriving DecidableEq, Repr

/-- What is remembered of the tokens read so far. -/
structure Context where
  /-- How many roles have been given. -/
  assigned : Nat := 0
  /-- The grouping of the last token. -/
  grouping : Option Grouping := none
  /-- The text of the last token, lower-cased. -/
  word : String := ""
  deriving DecidableEq, Repr

namespace Context

/-- The last token was an identifier. -/
def afterName (x : Context) : Bool :=
  x.grouping == some .backquoted

/-- The roles of the next token. There is no answer where the index clauses
begin. -/
def roles? (x : Context) (t : Token) : Option (List Role) :=
  if t.isBackquoted then
    if 0 < x.assigned && ((x.afterName && 1 < x.assigned) || x.word == "key") then none
    else if x.assigned = 0 then some [.table]
    else some [.field]
  else
    some ((if x.afterName then [.fieldType] else []) ++
      (if x.word == "comment" then [.comment] else []))

/-- The context after a token that was given some roles. -/
def after (x : Context) (t : Token) (roles : List Role) : Context :=
  ⟨x.assigned + roles.length, some t.grouping, Text.lowerCase t.text⟩

end Context

/-- A schema in the making. -/
structure Draft where
  /-- The table name, empty while there is none. -/
  table : String := ""
  /-- The finished columns, in order. -/
  fields : List Column := []
  /-- The column named last. -/
  pending : Option Column := none
  /-- The names of the columns passed over for want of a type. -/
  dropped : List String := []
  deriving DecidableEq, Repr

namespace Draft

/-- Finishes the column named last: one without a type is dropped, or
reported when `strict`. -/
def settle (strict : Bool) (d : Draft) : Except Problem Draft :=
  match d.pending with
  | none => .ok d
  | some c =>
    if c.isComplete then .ok { d with fields := d.fields ++ [c], pending := none }
    else if strict then .error (.untypedField d.table c.name)
    else .ok { d with pending := none, dropped := d.dropped ++ [c.name] }

/-- Takes up a token's text in one role. A type or a comment that no column
name precedes says nothing. -/
def assign (strict : Bool) (text : String) (d : Draft) : Role → Except Problem Draft
  | .table => .ok { d with table := text }
  | .field => (d.settle strict).map fun d => { d with pending := some ⟨text, "", none⟩ }
  | .fieldType => .ok { d with pending := d.pending.map fun c => { c with rawType := text } }
  | .comment => .ok { d with pending := d.pending.map fun c => { c with comment := some text } }

/-- Takes up tokens as far as the index clauses, and tells whether these
were reached. -/
def read (strict : Bool) (x : Context) (d : Draft) : List Token → Except Problem (Draft × Bool)
  | [] => .ok (d, false)
  | t :: ts =>
    match x.roles? t with
    | none => .ok (d, true)
    | some roles => do
      let d ← roles.foldlM (fun d role => d.assign strict t.text role) d
      read strict (x.after t roles) d ts

/-- The finished schema, if a table was named. -/
def schema (d : Draft) : Except Problem Schema :=
  if d.table = "" then .error .noTableName else .ok ⟨d.table, d.fields⟩

end Draft

/-- The outcome of reading a statement. -/
structure Extraction where
  /-- The names of the columns passed over for want of a type. -/
  dropped : List String
  /-- The schema, or why there is none. -/
  schema : Except Problem Schema

namespace Extraction

/-- The report of an open quote. -/
def openQuote? (leftover : Option Token) : Option Problem :=
  (leftover.filter fun t => t.grouping.isQuoted).map fun t =>
    .unterminatedQuote t.grouping t.span.start

/-- Reads a schema off scanned tokens. A quote left open is reported before
a column without a type, and a missing table name last. -/
def ofScan (strict : Bool) (s : Scan) : Extraction :=
  match Draft.read strict {} {} s.tokens with
  | .error p => ⟨[], .error p⟩
  | .ok (d, stopped) =>
    match if strict && !stopped then openQuote? s.leftover else none with
    | some p => ⟨d.dropped, .error p⟩
    | none =>
      match d.settle strict with
      | .error p => ⟨d.dropped, .error p⟩
      | .ok d => ⟨d.dropped, d.schema⟩

/-- Reads a schema off a statement, taken as it is written. -/
def ofStatement (strict : Bool) (statement : String) : Extraction :=
  ofScan strict (scan statement)

end Extraction

/-- The schema that a statement declares. -/
def extract (strict : Bool) (statement : String) : Except Problem Schema :=
  (Extraction.ofStatement strict statement).schema

end TableStruct
