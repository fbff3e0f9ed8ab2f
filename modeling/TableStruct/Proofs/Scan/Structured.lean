import TableStruct.Token.Reader
import Mathlib.Data.List.Basic

/-!
# The scan, token by token

A reader decides each character by the one before it and by what it has
collected. Read as a whole, a scan has more structure: separators up to
the first character that is none, then the body of a token, which the
separator before it delimits, then the scan of what follows the closing
delimiter. `scanFrom` is the scan in that form, and `scan_eq_scanFrom` says
that it finds what the reader finds.

The two meet at the beginning of a token, where the character before is a
separator; that it is one whenever a reader sets out is the invariant
(`isSeparator_of_findToken`).
-/

namespace TableStruct

/-- The body of a token: its text, the number of characters it spans, and
what follows, from the closing delimiter on. Nothing follows an open
token. -/
structure Body where
  /-- The text, doubled delimiters taken once. -/
  text : List Char
  width : Nat
  /-- The closing delimiter and all that follows. -/
  rest : List Char
  deriving DecidableEq, Repr

namespace Body

/-- One more character of text in front, which took `width` to write. -/
def push (c : Char) (width : Nat) (b : Body) : Body :=
  ⟨c :: b.text, width + b.width, b.rest⟩

/-- Reads up to a blank, parenthesis or comma that does not follow a
separator. -/
def bare (afterSeparator : Bool) : List Char → Body
  | [] => ⟨[], 0, []⟩
  | c :: cs =>
    if !afterSeparator && Grouping.of c == .bare then ⟨[], 0, c :: cs⟩
    else (bare (isSeparator c) cs).push c 1

/-- Reads up to a quote that is not doubled, taking doubled ones once. -/
def quoted (quote : Char) : List Char → Body
  | [] => ⟨[], 0, []⟩
  | [c] => if c = quote then ⟨[], 0, [c]⟩ else ⟨[c], 1, []⟩
  | c :: d :: cs =>
    if c = quote then
      if d = quote then (quoted quote cs).push quote 2 else ⟨[], 0, c :: d :: cs⟩
    else (quoted quote (d :: cs)).push c 1

/-- Reads a body as its opening delimiter asks. What no delimiter opened,
none closes. -/
def read (opener : Char) (cs : List Char) : Body :=
  match Grouping.of opener with
  | .bare => bare true cs
  | .singleQuoted | .backquoted => quoted opener cs
  | .unclassified => ⟨cs, cs.length, []⟩

theorem read_of_bare {opener : Char} (h : Grouping.of opener = .bare) (cs : List Char) :
    read opener cs = bare true cs := by
  simp only [read, h]

theorem read_of_isQuoted {opener : Char} (h : (Grouping.of opener).isQuoted) (cs : List Char) :
    read opener cs = quoted opener cs := by
  cases hg : Grouping.of opener <;> simp_all [read, Grouping.isQuoted]

theorem quoted_cons_of_ne {quote c : Char} (h : c ≠ quote) (cs : List Char) :
    quoted quote (c :: cs) = (quoted quote cs).push c 1 := by
  cases cs with
  | nil => simp [quoted, h, push]
  | cons d cs => rw [quoted, if_neg h]

theorem quoted_pair (quote : Char) (cs : List Char) :
    quoted quote (quote :: quote :: cs) = (quoted quote cs).push quote 2 := by
  simp [quoted]

/-- A quote that does not begin a pair ends the body. -/
theorem quoted_of_head?_ne {quote : Char} {cs : List Char} (h : cs.head? ≠ some quote) :
    quoted quote (quote :: cs) = ⟨[], 0, quote :: cs⟩ := by
  cases cs with
  | nil => simp [quoted]
  | cons d cs =>
    have hd : d ≠ quote := by simpa using h
    simp [quoted, hd]

theorem length_rest_bare (after : Bool) (cs : List Char) :
    (bare after cs).rest.length ≤ cs.length := by
  induction cs generalizing after with
  | nil => simp [bare]
  | cons c cs ih =>
    rw [bare]
    split
    · simp
    · exact Nat.le_succ_of_le (ih _)

theorem length_rest_quoted (quote : Char) (cs : List Char) :
    (quoted quote cs).rest.length ≤ cs.length := by
  fun_induction quoted quote cs <;> simp_all [push] <;> omega

theorem length_rest_read (opener : Char) (cs : List Char) :
    (read opener cs).rest.length ≤ cs.length := by
  unfold read
  split
  · exact length_rest_bare _ _
  · exact length_rest_quoted _ _
  · exact length_rest_quoted _ _
  · simp

theorem of_eq_of_rest_bare {after : Bool} {cs rest : List Char} {c : Char}
    (h : (bare after cs).rest = c :: rest) : Grouping.of c = .bare := by
  induction cs generalizing after with
  | nil => simp [bare] at h
  | cons d cs ih =>
    rw [bare] at h
    split at h
    · next hd =>
      simp only [List.cons.injEq] at h
      simp only [Bool.and_eq_true, beq_iff_eq] at hd
      exact h.1 ▸ hd.2
    · exact ih h

theorem eq_of_rest_quoted {quote c : Char} {cs rest : List Char}
    (h : (quoted quote cs).rest = c :: rest) : c = quote := by
  fun_induction quoted quote cs <;> simp_all [push]

/-- **The closing delimiter has the grouping of the opening one.** -/
theorem of_eq_of_rest_read {opener c : Char} {cs rest : List Char}
    (h : (read opener cs).rest = c :: rest) : Grouping.of c = Grouping.of opener := by
  cases hg : Grouping.of opener with
  | bare => exact of_eq_of_rest_bare (by rwa [read_of_bare hg] at h)
  | singleQuoted | backquoted =>
    rw [read_of_isQuoted (by simp [hg, Grouping.isQuoted])] at h
    rw [eq_of_rest_quoted h, hg]
  | unclassified => simp [read, hg] at h

end Body

/-- What the search for the next token finds. -/
inductive Found where
  /-- A token, its closing delimiter and what follows that. -/
  | token (t : Token) (closer : Char) (rest : List Char)
  /-- A token that the end of the text leaves open. -/
  | leftover (t : Token)
  | nothing
  deriving DecidableEq, Repr

/-- Searches for the next token. `opener` is the separator before the text
and `position` the place of its first character. -/
def findToken (opener : Char) (position : Nat) : List Char → Found
  | [] => .nothing
  | c :: cs =>
    if isSeparator c then findToken c (position + 1) cs
    else
      let body := Body.read opener (c :: cs)
      let t : Token :=
        ⟨Grouping.of opener, String.ofList body.text, ⟨position, position + body.width⟩⟩
      match body.rest with
      | [] => .leftover t
      | closer :: rest => .token t closer rest

/-- The token that the body read behind `opener` makes. -/
def tokenOf (opener : Char) (position : Nat) (body : Body) : Token :=
  ⟨Grouping.of opener, String.ofList body.text, ⟨position, position + body.width⟩⟩

theorem findToken_skip {opener c : Char} (position : Nat) (cs : List Char) (hc : isSeparator c) :
    findToken opener position (c :: cs) = findToken c (position + 1) cs := by
  rw [findToken, if_pos hc]

theorem findToken_closed {opener c closer : Char} {position : Nat} {cs rest : List Char}
    (hc : isSeparator c = false) (h : (Body.read opener (c :: cs)).rest = closer :: rest) :
    findToken opener position (c :: cs) =
      .token (tokenOf opener position (Body.read opener (c :: cs))) closer rest := by
  rw [findToken, if_neg (by simp [hc])]
  dsimp only
  rw [h]
  rfl

theorem findToken_open {opener c : Char} {position : Nat} {cs : List Char}
    (hc : isSeparator c = false) (h : (Body.read opener (c :: cs)).rest = []) :
    findToken opener position (c :: cs) =
      .leftover (tokenOf opener position (Body.read opener (c :: cs))) := by
  rw [findToken, if_neg (by simp [hc])]
  dsimp only
  rw [h]
  rfl

/-- **A token found leaves less text.** -/
theorem length_rest_of_findToken {opener : Char} {position : Nat} {cs : List Char} {t : Token}
    {closer : Char} {rest : List Char} (h : findToken opener position cs = .token t closer rest) :
    rest.length < cs.length := by
  induction cs generalizing opener position with
  | nil => simp [findToken] at h
  | cons c cs ih =>
    rw [findToken] at h
    split at h
    · exact Nat.lt_succ_of_lt (ih h)
    · have hle := Body.length_rest_read opener (c :: cs)
      dsimp only at h
      split at h
      · simp at h
      · next heq =>
        simp only [Found.token.injEq] at h
        rw [heq, h.2.2] at hle
        exact hle

/-- **What closes a token is a separator**, so that the search can go on
behind it. -/
theorem isSeparator_of_findToken {opener : Char} {position : Nat} {cs : List Char} {t : Token}
    {closer : Char} {rest : List Char} (hsep : isSeparator opener)
    (h : findToken opener position cs = .token t closer rest) : isSeparator closer := by
  induction cs generalizing opener position with
  | nil => simp [findToken] at h
  | cons c cs ih =>
    rw [findToken] at h
    split at h
    · next hc => exact ih hc h
    · dsimp only at h
      split at h
      · simp at h
      · next heq =>
        simp only [Found.token.injEq] at h
        rw [← h.2.1]
        exact isSeparator_of_of_eq hsep (Body.of_eq_of_rest_read heq)

/-- Scans a text that stands at `position`, after the separator `opener`. -/
def scanFrom (opener : Char) (position : Nat) (cs : List Char) : Scan :=
  match _ : findToken opener position cs with
  | .nothing => ⟨[], none⟩
  | .leftover t => ⟨[], some t⟩
  | .token t closer rest =>
    let s := scanFrom closer (t.span.stop + 1) rest
    ⟨t :: s.tokens, s.leftover⟩
termination_by cs.length
decreasing_by exact length_rest_of_findToken (by assumption)

theorem scanFrom_of_nothing {opener : Char} {position : Nat} {cs : List Char}
    (h : findToken opener position cs = .nothing) : scanFrom opener position cs = ⟨[], none⟩ := by
  rw [scanFrom]
  split <;> simp_all

theorem scanFrom_of_leftover {opener : Char} {position : Nat} {cs : List Char} {t : Token}
    (h : findToken opener position cs = .leftover t) :
    scanFrom opener position cs = ⟨[], some t⟩ := by
  rw [scanFrom]
  split <;> simp_all

theorem scanFrom_of_token {opener closer : Char} {position : Nat} {cs rest : List Char} {t : Token}
    (h : findToken opener position cs = .token t closer rest) :
    scanFrom opener position cs =
      ⟨t :: (scanFrom closer (t.span.stop + 1) rest).tokens,
        (scanFrom closer (t.span.stop + 1) rest).leftover⟩ := by
  rw [scanFrom]
  split <;> simp_all

/-- A scan begins with the token that the search finds. -/
theorem exists_of_scanFrom_cons {opener : Char} {position : Nat} {cs : List Char} {t : Token}
    {ts : List Token} {leftover : Option Token}
    (h : scanFrom opener position cs = ⟨t :: ts, leftover⟩) :
    ∃ closer rest, findToken opener position cs = .token t closer rest ∧
      scanFrom closer (t.span.stop + 1) rest = ⟨ts, leftover⟩ := by
  cases hf : findToken opener position cs with
  | nothing =>
    rw [scanFrom_of_nothing hf] at h
    cases h
  | leftover u =>
    rw [scanFrom_of_leftover hf] at h
    cases h
  | token u closer rest =>
    rw [scanFrom_of_token hf] at h
    cases h
    exact ⟨closer, rest, rfl, rfl⟩

end TableStruct
