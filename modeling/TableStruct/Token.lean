import TableStruct.Text.Ascii
import TableStruct.Text.Blank

/-!
# Tokens

A token is a stretch of a statement together with the kind of delimiter
that opened it. Blanks, parentheses and commas delimit bare words, single
quotes delimit string literals and backquotes delimit identifiers; these
are the separators, and every other character is unclassified.
-/

namespace TableStruct

/-- The kind of delimiter that opened a token. -/
inductive Grouping where
  /-- A blank, a parenthesis or a comma. -/
  | bare
  /-- A single quote. -/
  | singleQuoted
  /-- A backquote. -/
  | backquoted
  /-- No delimiter at all. -/
  | unclassified
  deriving DecidableEq, Repr

namespace Grouping

/-- The grouping that a character opens. -/
def of (c : Char) : Grouping :=
  if c = '\x27' then .singleQuoted
  else if c = '\x60' then .backquoted
  else if c = '(' || c = ')' || c = ',' || Text.isBlank c then .bare
  else .unclassified

/-- The two quoting styles. -/
def isQuoted : Grouping → Bool
  | singleQuoted | backquoted => true
  | bare | unclassified => false

/-- A single quote opens a single-quoted token, and nothing else does. -/
theorem of_eq_singleQuoted {c : Char} : of c = .singleQuoted ↔ c = '\x27' := by
  constructor
  · intro h
    by_cases hq : c = '\x27'
    · exact hq
    · rw [of, if_neg hq] at h
      split at h
      · cases h
      · split at h <;> cases h
  · rintro rfl
    rfl

/-- A backquote opens a backquoted token, and nothing else does. -/
theorem of_eq_backquoted {c : Char} : of c = .backquoted ↔ c = '\x60' := by
  constructor
  · intro h
    by_cases hq : c = '\x60'
    · exact hq
    · rw [of, if_neg hq] at h
      split at h
      · cases h
      · split at h <;> cases h
  · rintro rfl
    rfl

/-- **A quoting style has one delimiter.** -/
theorem eq_of_of_eq {c q : Char} (hq : (of q).isQuoted) (h : of c = of q) : c = q := by
  cases hg : of q with
  | singleQuoted => rw [of_eq_singleQuoted.1 hg, of_eq_singleQuoted.1 (h.trans hg)]
  | backquoted => rw [of_eq_backquoted.1 hg, of_eq_backquoted.1 (h.trans hg)]
  | bare => simp [hg, isQuoted] at hq
  | unclassified => simp [hg, isQuoted] at hq

theorem not_isQuoted_of_bare {g : Grouping} (h : g = .bare) : ¬ g.isQuoted := by
  subst h
  exact Bool.false_ne_true

/-- The name used in messages. -/
def name : Grouping → String
  | bare => "bare"
  | singleQuoted => "single-quoted"
  | backquoted => "backquoted"
  | unclassified => "unclassified"

end Grouping

/-- The separators: blanks, parentheses, commas and the two quotes. -/
def isSeparator (c : Char) : Bool :=
  Text.isBlank c || c = '(' || c = ')' || c = ',' || c = '\x27' || c = '\x60'

/-- **A separator is a character that opens some grouping.** -/
theorem isSeparator_iff {c : Char} : isSeparator c ↔ Grouping.of c ≠ .unclassified := by
  rw [isSeparator, Grouping.of]
  split
  · next hs => simp [hs]
  · split
    · next hs hb => simp [hb]
    · next hs hb =>
      split
      · next h => simpa [hs, hb, or_comm, or_assoc, or_left_comm] using h
      · next h => simpa [hs, hb, or_comm, or_assoc, or_left_comm] using h

theorem not_isSeparator_iff {c : Char} :
    isSeparator c = false ↔ Grouping.of c = .unclassified := by
  rw [← Bool.not_eq_true, isSeparator_iff, Decidable.not_not]

theorem isSeparator_of_bare {c : Char} (h : Grouping.of c = .bare) : isSeparator c := by
  rw [isSeparator_iff, h]
  exact nofun

/-- What has the grouping of a separator is one. -/
theorem isSeparator_of_of_eq {c d : Char} (hd : isSeparator d)
    (h : Grouping.of c = Grouping.of d) : isSeparator c := by
  rw [isSeparator_iff, h]
  exact isSeparator_iff.1 hd

theorem isSeparator_of_isQuoted {c : Char} (h : (Grouping.of c).isQuoted) : isSeparator c := by
  rw [isSeparator_iff]
  intro hc
  simp [hc, Grouping.isQuoted] at h

/-- A separator other than the quotes opens bare words. -/
theorem of_eq_bare_of_isSeparator {c : Char} (h : isSeparator c)
    (hq : ¬ (Grouping.of c).isQuoted) : Grouping.of c = .bare := by
  have hne := isSeparator_iff.1 h
  cases hg : Grouping.of c with
  | bare => rfl
  | singleQuoted | backquoted => exact absurd rfl (hg ▸ hq)
  | unclassified => exact absurd hg hne

/-- A stretch of a text, counted in characters: `start` included, `stop`
excluded. -/
structure Span where
  /-- Position of the first character. -/
  start : Nat
  /-- Position after the last character. -/
  stop : Nat
  deriving DecidableEq, Repr

namespace Span

/-- Number of characters in the stretch. -/
def length (s : Span) : Nat :=
  s.stop - s.start

/-- The stretch holds no character. -/
def isEmpty (s : Span) : Bool :=
  s.start == s.stop

end Span

/-- A token: its grouping, its text without the delimiters, and where the
text stands. -/
structure Token where
  /-- How the token was delimited. -/
  grouping : Grouping
  /-- The text, doubled delimiters taken once. -/
  text : String
  /-- Where the text stands. -/
  span : Span
  deriving DecidableEq, Repr

namespace Token

/-- The token is an identifier in backquotes. -/
def isBackquoted (t : Token) : Bool :=
  t.grouping == .backquoted

/-- The token's text is the keyword, in any ASCII case. -/
def isKeyword (t : Token) (keyword : String) : Bool :=
  Text.sameLetters t.text.toList keyword.toList

end Token

end TableStruct
