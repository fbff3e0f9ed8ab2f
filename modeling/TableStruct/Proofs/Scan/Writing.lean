import TableStruct.Proofs.Scan.Reference

/-!
# Writing tokens

How a text is written so that a scan reads it back: a bare word as it is, a
quoted text with its quotes doubled. `Yields` says what a text is read as,
wherever it stands; a written token followed by a text that a blank, a
parenthesis or a comma begins is read as that token and then the text
(`Yields.bare`, `Yields.enclosed`). A row of tokens with a space behind each
is so scanned back (`scan_writeTokens`).
-/

namespace TableStruct

/-- A text with each of its quotes doubled. -/
def doubled (quote : Char) (cs : List Char) : List Char :=
  cs.flatMap fun c => if c = quote then [quote, quote] else [c]

/-- A text between quotes, those in it doubled. -/
def enclosed (quote : Char) (cs : List Char) : List Char :=
  quote :: doubled quote cs ++ [quote]

/-- The text is a word: it is not empty and no separator is in it. -/
def isWord (s : String) : Bool :=
  s != "" && s.toList.all fun c => !isSeparator c

/-- The text can be quoted: it is not empty and no separator begins it. -/
def isQuotable (s : String) : Bool :=
  s.toList.head?.any fun c => !isSeparator c

/-- A token's grouping and text, without its place. -/
def Token.word (t : Token) : Grouping × String :=
  (t.grouping, t.text)

theorem doubled_cons_self (quote : Char) (cs : List Char) :
    doubled quote (quote :: cs) = quote :: quote :: doubled quote cs := by
  simp [doubled]

theorem doubled_cons_of_ne {quote c : Char} (h : c ≠ quote) (cs : List Char) :
    doubled quote (c :: cs) = c :: doubled quote cs := by
  simp [doubled, h]

theorem doubled_append (quote : Char) (cs ds : List Char) :
    doubled quote (cs ++ ds) = doubled quote cs ++ doubled quote ds :=
  List.flatMap_append

/-- Doubling adds no other character. -/
theorem mem_of_mem_doubled {quote c : Char} {cs : List Char} (h : c ∈ doubled quote cs) :
    c ∈ cs := by
  obtain ⟨d, hd, hc⟩ := List.mem_flatMap.1 h
  split at hc
  · next hquote =>
    obtain rfl : c = quote := by simpa using hc
    rwa [← hquote]
  · rwa [List.mem_singleton.1 hc]

theorem enclosed_append (quote : Char) (cs rest : List Char) :
    enclosed quote cs ++ rest = quote :: (doubled quote cs ++ quote :: rest) := by
  simp [enclosed]

namespace Body

theorem bare_word {after : Bool} {w rest : List Char} {c : Char}
    (hw : ∀ x ∈ w, isSeparator x = false) (hne : after = false ∨ w ≠ [])
    (hc : Grouping.of c = .bare) : bare after (w ++ c :: rest) = ⟨w, w.length, c :: rest⟩ := by
  induction w generalizing after with
  | nil =>
    obtain rfl : after = false := hne.resolve_right (by simp)
    rw [List.nil_append, bare, hc]
    rfl
  | cons x w ih =>
    have hx : isSeparator x = false := hw x List.mem_cons_self
    have hother : (Grouping.of x == .bare) = false := by
      rw [not_isSeparator_iff.1 hx]
      rfl
    have hrest : bare (isSeparator x) (w ++ c :: rest) = ⟨w, w.length, c :: rest⟩ :=
      ih (fun y hy => hw y (List.mem_cons_of_mem _ hy)) (.inl hx)
    rw [List.cons_append, bare, hother, Bool.and_false, if_neg Bool.false_ne_true, hrest, push,
      List.length_cons, Nat.add_comm]

/-- **A text with its quotes doubled is read up to the quote that follows
it**, unless that begins a pair. -/
theorem quoted_doubled {quote : Char} {rest : List Char} (cs : List Char)
    (h : rest.head? ≠ some quote) :
    quoted quote (doubled quote cs ++ quote :: rest) =
      ⟨cs, (doubled quote cs).length, quote :: rest⟩ := by
  induction cs with
  | nil => exact quoted_of_head?_ne h
  | cons c cs ih =>
    by_cases hc : c = quote
    · subst hc
      rw [doubled_cons_self, List.cons_append, List.cons_append, quoted_pair, ih, push,
        List.length_cons, List.length_cons, Nat.add_comm]
    · rw [doubled_cons_of_ne hc, List.cons_append, quoted_cons_of_ne hc, ih, push,
        List.length_cons, Nat.add_comm]

end Body

/-- **A text is read as tokens**, of the given groupings and texts and with
nothing left over, wherever it stands behind `opener`. -/
def Yields (opener : Char) (cs : List Char) (ws : List (Grouping × String)) : Prop :=
  ∀ p, (scanFrom opener p cs).tokens.map Token.word = ws ∧ (scanFrom opener p cs).leftover = none

/-- The same of a text that a blank, a parenthesis or a comma begins. -/
def Continues (cs : List Char) (ws : List (Grouping × String)) : Prop :=
  ∃ c rest, cs = c :: rest ∧ Grouping.of c = .bare ∧ Yields c rest ws

variable {opener : Char} {cs : List Char} {ws : List (Grouping × String)}

theorem yields_nil (opener : Char) : Yields opener [] [] := by
  intro p
  rw [scanFrom_of_nothing rfl]
  exact ⟨rfl, rfl⟩

theorem Yields.skip {c : Char} (hc : isSeparator c) (h : Yields c cs ws) (opener : Char) :
    Yields opener (c :: cs) ws := by
  intro p
  rw [scanFrom_skip hc]
  exact h (p + 1)

/-- A run of separators is skipped, and the last one stands before what
follows. -/
theorem Yields.skip_append {seps : List Char} (hseps : ∀ c ∈ seps, isSeparator c) {c : Char}
    (hc : isSeparator c) (h : Yields c cs ws) (opener : Char) :
    Yields opener (seps ++ c :: cs) ws := by
  induction seps generalizing opener with
  | nil => exact h.skip hc opener
  | cons s seps ih =>
    have hmore : Yields s (seps ++ c :: cs) ws :=
      ih (fun x hx => hseps x (List.mem_cons_of_mem _ hx)) s
    exact hmore.skip (hseps s List.mem_cons_self) opener

/-- A body that a delimiter closes is read as a token. -/
theorem Yields.body {c closer : Char} {rest : List Char} {text : List Char} {width : Nat}
    (hc : isSeparator c = false)
    (hb : Body.read opener (c :: cs) = ⟨text, width, closer :: rest⟩) (h : Yields closer rest ws) :
    Yields opener (c :: cs) ((Grouping.of opener, String.ofList text) :: ws) := by
  intro p
  have hfound : findToken opener p (c :: cs) =
      .token (tokenOf opener p ⟨text, width, closer :: rest⟩) closer rest := by
    rw [findToken_closed hc (by rw [hb]), hb]
  rw [scanFrom_of_token hfound, List.map_cons, (h _).1]
  exact ⟨rfl, (h _).2⟩

namespace Continues

theorem of_bare {c : Char} (hc : Grouping.of c = .bare) (h : Yields c cs ws) :
    Continues (c :: cs) ws :=
  ⟨c, cs, rfl, hc, h⟩

variable (h : Continues cs ws)

include h

theorem yields (opener : Char) : Yields opener cs ws := by
  obtain ⟨c, rest, rfl, hc, hrest⟩ := h
  exact hrest.skip (isSeparator_of_bare hc) opener

end Continues

/-- **A word is read as a bare token.** -/
theorem Yields.bare (opener : Char) (ho : Grouping.of opener = .bare) {w : String}
    (hw : isWord w) (h : Continues cs ws) : Yields opener (w.toList ++ cs) ((.bare, w) :: ws) := by
  obtain ⟨closer, rest, rfl, hcloser, hrest⟩ := h
  rw [isWord, Bool.and_eq_true, bne_iff_ne, List.all_eq_true] at hw
  have hsep : ∀ x ∈ w.toList, isSeparator x = false := fun x hx => by simpa using hw.2 x hx
  have hne : w.toList ≠ [] := by simpa using hw.1
  have hread : Body.read opener (w.toList ++ closer :: rest) =
      ⟨w.toList, w.toList.length, closer :: rest⟩ := by
    rw [Body.read_of_bare ho]
    exact Body.bare_word hsep (.inr hne) hcloser
  obtain ⟨c, tail, hw'⟩ := List.exists_cons_of_ne_nil hne
  rw [hw', List.cons_append] at hread ⊢
  have hyields := hrest.body (hsep c (by simp [hw'])) hread
  rwa [ho, ← hw', String.ofList_toList] at hyields

/-- **Behind an open quote a text is read up to the closing one.** -/
theorem Yields.opened {quote : Char} (hq : (Grouping.of quote).isQuoted) {w : String}
    (hw : isQuotable w) (h : Continues cs ws) :
    Yields quote (doubled quote w.toList ++ quote :: cs) ((Grouping.of quote, w) :: ws) := by
  obtain ⟨closer, rest, rfl, hcloser, hrest⟩ := h
  have hne : (closer :: rest).head? ≠ some quote := by
    intro heq
    obtain rfl : closer = quote := Option.some.inj heq
    exact Grouping.not_isQuoted_of_bare hcloser hq
  -- the closing quote begins no pair, since a separator of another kind follows
  have hread := Body.quoted_doubled w.toList hne
  rw [← Body.read_of_isQuoted hq] at hread
  obtain ⟨c, tail, hw', hc⟩ : ∃ c tail, w.toList = c :: tail ∧ isSeparator c = false := by
    unfold isQuotable at hw
    cases hcs : w.toList with
    | nil => simp [hcs] at hw
    | cons c tail => exact ⟨c, tail, rfl, by simpa [hcs] using hw⟩
  -- nor does the opening one, since the text does not begin with a separator
  have hcq : c ≠ quote := by
    rintro rfl
    simp [isSeparator_of_isQuoted hq] at hc
  have hnext : Yields quote (closer :: rest) ws := hrest.skip (isSeparator_of_bare hcloser) quote
  have hopen : doubled quote w.toList ++ quote :: closer :: rest =
      c :: (doubled quote tail ++ quote :: closer :: rest) := by
    rw [hw', doubled_cons_of_ne hcq, List.cons_append]
  rw [hopen] at hread
  have hyields := hnext.body hc hread
  rwa [String.ofList_toList, ← hopen] at hyields

/-- **An enclosed text is read as a quoted token.** -/
theorem Yields.enclosed (opener : Char) {quote : Char} (hq : (Grouping.of quote).isQuoted)
    {w : String} (hw : isQuotable w) (h : Continues cs ws) :
    Yields opener (enclosed quote w.toList ++ cs) ((Grouping.of quote, w) :: ws) := by
  rw [enclosed_append]
  exact (Yields.opened hq hw h).skip (isSeparator_of_isQuoted hq) opener

theorem Yields.backquoted (opener : Char) {w : String} (hw : isQuotable w) (h : Continues cs ws) :
    Yields opener (TableStruct.enclosed '\x60' w.toList ++ cs) ((.backquoted, w) :: ws) :=
  Yields.enclosed opener rfl hw h

theorem Yields.singleQuoted (opener : Char) {w : String} (hw : isQuotable w) (h : Continues cs ws) :
    Yields opener (TableStruct.enclosed '\x27' w.toList ++ cs) ((.singleQuoted, w) :: ws) :=
  Yields.enclosed opener rfl hw h

/-! ## Rows of tokens -/

/-- A token that can be written: a bare one is a word, and a quoted one can
be quoted. -/
def isWritable : Grouping × String → Bool
  | (.bare, w) => isWord w
  | (.singleQuoted, w) | (.backquoted, w) => isQuotable w
  | (.unclassified, _) => false

/-- A token as it is written. -/
def writeToken : Grouping × String → List Char
  | (.singleQuoted, w) => enclosed '\x27' w.toList
  | (.backquoted, w) => enclosed '\x60' w.toList
  | (.bare, w) | (.unclassified, w) => w.toList

/-- Tokens as they are written, each with a space behind it. -/
def writeTokens (ws : List (Grouping × String)) : List Char :=
  ws.flatMap fun w => writeToken w ++ [' ']

/-- **A written token is read as that token**, behind a blank and before
one. -/
theorem Yields.written {w : Grouping × String} (hw : isWritable w) (h : Continues cs ws) :
    Yields ' ' (writeToken w ++ cs) (w :: ws) := by
  obtain ⟨grouping, text⟩ := w
  cases grouping with
  | bare => exact Yields.bare ' ' rfl hw h
  | singleQuoted => exact Yields.singleQuoted ' ' hw h
  | backquoted => exact Yields.backquoted ' ' hw h
  | unclassified => exact absurd hw Bool.false_ne_true

/-- **Tokens with a space behind each are read one after the other.** Each
space ends a token and is the blank before the next. -/
theorem yields_writeTokens (hws : ∀ w ∈ ws, isWritable w) : Yields ' ' (writeTokens ws) ws := by
  induction ws with
  | nil => exact yields_nil ' '
  | cons w ws ih =>
    have hmore : Yields ' ' (writeTokens ws) ws :=
      ih fun v hv => hws v (List.mem_cons_of_mem _ hv)
    have hspace : Continues (' ' :: writeTokens ws) ws := .of_bare rfl hmore
    rw [writeTokens, List.flatMap_cons, List.append_assoc]
    exact Yields.written (hws w List.mem_cons_self) hspace

/-- **Written tokens are scanned back**, in order and with nothing left
over. -/
theorem scan_writeTokens (hws : ∀ w ∈ ws, isWritable w) :
    (scan (String.ofList (writeTokens ws))).tokens.map Token.word = ws ∧
      (scan (String.ofList (writeTokens ws))).leftover = none := by
  rw [scan_eq_scanFrom, String.toList_ofList]
  exact yields_writeTokens hws 0

/-- Quotes of both kinds at the ends of texts, and separators inside them. -/
def assortedTokens : List (Grouping × String) :=
  [(.backquoted, "a``"), (.singleQuoted, "it's `b`, ''"), (.bare, "x=1"), (.singleQuoted, "z'"),
    (.backquoted, "q r (")]

theorem scan_writeTokens_assorted : (∀ w ∈ assortedTokens, isWritable w) ∧
    (scan (String.ofList (writeTokens assortedTokens))).tokens.map Token.word = assortedTokens ∧
    (scan (String.ofList (writeTokens assortedTokens))).leftover = none := by
  have hwritable : ∀ w ∈ assortedTokens, isWritable w := by decide
  exact ⟨hwritable, scan_writeTokens hwritable⟩

end TableStruct
