import TableStruct.Token

/-!
# Reading tokens one at a time

A reader goes over a text character by character. It remembers the character
before, the grouping of the delimiter that opened the token it is in, and
what the end of the text left open. Each character is passed over, opens a
token, is added to it or closes it; a doubled quote inside a quoted token
is added once. Reading a token is a run of such steps, and a later run goes
on where an earlier one stopped.

`length_rest_next` says that each token takes something off the text, so
that the scan of a whole text ends.
-/

namespace TableStruct

/-- A place in a text from which tokens are read. -/
structure Reader where
  /-- The character read last, a blank before the first one. -/
  previous : Char
  /-- The grouping of the delimiter that opened the token being read. -/
  active : Grouping
  /-- Where the rest begins. -/
  position : Nat
  /-- The text not read yet. -/
  rest : List Char
  /-- The token that the end of the text left open. -/
  leftover : Option Token
  deriving DecidableEq, Repr

/-- What has been collected of the next token. -/
structure Gathered where
  /-- The characters, last one first. -/
  text : List Char := []
  /-- Where the token began, once it has. -/
  start : Option Nat := none
  deriving DecidableEq, Repr

namespace Gathered

/-- The token collected, if it ends here. -/
def token (g : Gathered) (grouping : Grouping) (stop : Nat) : Token :=
  ⟨grouping, String.ofList g.text.reverse, ⟨g.start.getD stop, stop⟩⟩

/-- One more character of text. -/
def push (g : Gathered) (c : Char) : Gathered :=
  { g with text := c :: g.text }

end Gathered

/-- What a character does to the token being read. -/
inductive Effect where
  /-- It stands between tokens and is passed over. -/
  | skip
  /-- It is a doubled quote, text once. -/
  | double
  /-- It ends the token. -/
  | close
  /-- It is the first character of a token. -/
  | begin
  /-- It is text. -/
  | extend
  deriving DecidableEq, Repr

namespace Reader

/-- A reader at the beginning of a text. -/
def ofString (text : String) : Reader :=
  ⟨' ', .bare, 0, text.toList, none⟩

/-- The whole text has been read. -/
def exhausted (r : Reader) : Bool :=
  r.rest.isEmpty

/-- The character ends a token of its own grouping, because no separator
stands before it. -/
def closesWord (r : Reader) (c : Char) : Bool :=
  !isSeparator r.previous && isSeparator c && Grouping.of c == r.active

/-- The character is the quote that opened the token. -/
def closesQuote (r : Reader) (c : Char) : Bool :=
  (Grouping.of c).isQuoted && Grouping.of c == r.active

/-- What the character `c` does, `next` being the one after it and `started`
telling whether a token has begun. -/
def effect (r : Reader) (started : Bool) (c : Char) (next : Option Char) : Effect :=
  if !started && isSeparator r.previous && isSeparator c then .skip
  else if r.closesWord c || r.closesQuote c then
    if r.closesQuote c && next == some c then .double else .close
  else if !started && isSeparator r.previous && !isSeparator c then .begin
  else .extend

/-- The reader after the character `c`, which took `width` to write. -/
def past (r : Reader) (c : Char) (width : Nat) (rest : List Char) : Reader :=
  { r with previous := c, position := r.position + width, rest := rest }

/-- Reads on to the end of the token, or of the text. -/
def readOn (r : Reader) (g : Gathered) : Option Token × Reader :=
  match _ : r.rest with
  | [] =>
    (none, if g.text.isEmpty then r
      else { r with leftover := some (g.token r.active r.position) })
  | c :: cs =>
    match r.effect g.start.isSome c cs.head? with
    | .skip => readOn (r.past c 1 cs) g
    | .double => readOn (r.past c 2 cs.tail) (g.push c)
    | .close =>
      (some (g.token r.active r.position), { r.past c 1 cs with active := .unclassified })
    | .begin =>
      readOn { r.past c 1 cs with active := Grouping.of r.previous }
        { g.push c with start := some r.position }
    | .extend => readOn (r.past c 1 cs) (g.push c)
termination_by r.rest.length
decreasing_by all_goals simp_all [past]; try omega

/-- Reads the next token. -/
def next (r : Reader) : Option Token × Reader :=
  r.readOn {}

theorem length_rest_readOn {r r' : Reader} {g : Gathered} {t : Token}
    (h : r.readOn g = (some t, r')) : r'.rest.length < r.rest.length := by
  fun_induction readOn r g with
  | case1 => simp at h
  | case2 r g c cs hrest _ ih | case5 r g c cs hrest _ ih | case6 r g c cs hrest _ ih =>
    have hlt : r'.rest.length < cs.length := ih h
    rw [hrest, List.length_cons]
    omega
  | case3 r g c cs hrest _ ih =>
    have hlt : r'.rest.length < cs.tail.length := ih h
    rw [List.length_tail] at hlt
    rw [hrest, List.length_cons]
    omega
  | case4 r g c cs hrest _ =>
    simp only [Prod.mk.injEq] at h
    rw [← h.2, hrest]
    exact Nat.lt_succ_self _

/-- A step that reads a token takes something off the text. -/
theorem length_rest_next {r r' : Reader} {t : Token} (h : r.next = (some t, r')) :
    r'.rest.length < r.rest.length :=
  length_rest_readOn h

/-- Reads all the tokens that remain. -/
def drain (r : Reader) : List Token × Reader :=
  match _ : r.next with
  | (none, r') => ([], r')
  | (some t, r') => let (ts, r'') := drain r'; (t :: ts, r'')
termination_by r.rest.length
decreasing_by exact length_rest_next (by assumption)

end Reader

/-- The tokens of a text, and the one that its end leaves open. -/
structure Scan where
  /-- The closed tokens, in order. -/
  tokens : List Token
  /-- The open token, if there is one. -/
  leftover : Option Token
  deriving DecidableEq, Repr

/-- Scans a whole text. -/
def scan (text : String) : Scan :=
  let (ts, r) := (Reader.ofString text).drain
  ⟨ts, r.leftover⟩

end TableStruct
