import TableStruct.Proofs.Scan.Structured

/-!
# The reader finds what the structured scan finds

A reader that is inside a token adds the body's characters one at a time
and stops where the body ends (`readOn_bare`, `readOn_quoted`); one that
stands behind a separator passes over separators and begins the token that
`findToken` begins (`next_eq`). Read to the end, the tokens and the leftover
are those of `scanFrom` (`drain_eq`).
-/

namespace TableStruct

namespace Reader

/-- What reading on comes to where `before` has been collected of a token
that began at `start` and `body` is the rest of it. A body that nothing
follows is left over. -/
def Finishes (grouping : Grouping) (start position : Nat) (before : List Char) (body : Body)
    (leftover : Option Token) (out : Option Token × Reader) : Prop :=
  let t : Token := ⟨grouping, String.ofList (before.reverse ++ body.text),
    ⟨start, position + body.width⟩⟩
  match body.rest with
  | [] => ∃ c, out = (none, ⟨c, grouping, position + body.width, [], some t⟩)
  | closer :: rest =>
    out = (some t, ⟨closer, .unclassified, position + body.width + 1, rest, leftover⟩)

/-- A character already collected is the first of the body. -/
theorem Finishes.push {grouping : Grouping} {start position width : Nat} {before : List Char}
    {c : Char} {body : Body} {leftover : Option Token} {out : Option Token × Reader}
    (h : Finishes grouping start (position + width) (c :: before) body leftover out) :
    Finishes grouping start position before (body.push c width) leftover out := by
  cases hr : body.rest with
  | nil => simpa [Finishes, Body.push, hr, Nat.add_assoc] using h
  | cons closer rest => simpa [Finishes, Body.push, hr, Nat.add_assoc] using h

theorem finishes_nil {previous : Char} {grouping : Grouping} {start position : Nat}
    {before : List Char} {leftover : Option Token} (h : before ≠ []) :
    Finishes grouping start position before ⟨[], 0, []⟩ leftover
      (readOn ⟨previous, grouping, position, [], leftover⟩ ⟨before, some start⟩) := by
  refine ⟨previous, ?_⟩
  simp [readOn, h, Gathered.token]

theorem finishes_close {previous c : Char} {grouping : Grouping} {start position : Nat}
    {before cs : List Char} {leftover : Option Token}
    (h : effect ⟨previous, grouping, position, c :: cs, leftover⟩ true c cs.head? = .close) :
    Finishes grouping start position before ⟨[], 0, c :: cs⟩ leftover
      (readOn ⟨previous, grouping, position, c :: cs, leftover⟩ ⟨before, some start⟩) := by
  simp [Finishes, readOn, h, Gathered.token, past]

theorem readOn_extend {previous c : Char} {grouping : Grouping} {start position : Nat}
    {before cs : List Char} {leftover : Option Token}
    (h : effect ⟨previous, grouping, position, c :: cs, leftover⟩ true c cs.head? = .extend) :
    readOn ⟨previous, grouping, position, c :: cs, leftover⟩ ⟨before, some start⟩ =
      readOn ⟨c, grouping, position + 1, cs, leftover⟩ ⟨c :: before, some start⟩ := by
  rw [readOn]
  simp [h, past, Gathered.push]

theorem readOn_double {previous c : Char} {grouping : Grouping} {start position : Nat}
    {before cs : List Char} {leftover : Option Token}
    (h : effect ⟨previous, grouping, position, c :: cs, leftover⟩ true c cs.head? = .double) :
    readOn ⟨previous, grouping, position, c :: cs, leftover⟩ ⟨before, some start⟩ =
      readOn ⟨c, grouping, position + 2, cs.tail, leftover⟩ ⟨c :: before, some start⟩ := by
  rw [readOn]
  simp [h, past, Gathered.push]

/-! ## What each character does -/

/-- In a bare word a blank, parenthesis or comma closes, unless a separator
stands before it, and all else is text. -/
theorem effect_bare {previous c : Char} {position : Nat} {rest : List Char}
    {leftover : Option Token} (following : Option Char) :
    effect ⟨previous, .bare, position, rest, leftover⟩ true c following =
      if !isSeparator previous && Grouping.of c == .bare then .close else .extend := by
  have hquote : closesQuote ⟨previous, .bare, position, rest, leftover⟩ c = false := by
    cases hc : Grouping.of c <;> simp [closesQuote, hc, Grouping.isQuoted]
  have hword : closesWord ⟨previous, .bare, position, rest, leftover⟩ c =
      (!isSeparator previous && Grouping.of c == .bare) := by
    rw [Bool.eq_iff_iff]
    simp only [closesWord, Bool.and_eq_true, beq_iff_eq]
    constructor
    · rintro ⟨⟨hp, -⟩, hc⟩
      exact ⟨hp, hc⟩
    · rintro ⟨hp, hc⟩
      exact ⟨⟨hp, isSeparator_of_bare hc⟩, hc⟩
  simp [effect, hquote, hword]

/-- In a quoted token the quote closes or, doubled, is text, and so is all
else. -/
theorem effect_quoted {previous quote c : Char} {position : Nat} {rest : List Char}
    {leftover : Option Token} {following : Option Char} (hq : (Grouping.of quote).isQuoted) :
    effect ⟨previous, Grouping.of quote, position, rest, leftover⟩ true c following =
      if c = quote then (if following = some quote then .double else .close) else .extend := by
  by_cases hc : c = quote
  · subst hc
    simp [effect, closesQuote, hq]
  · have hof : Grouping.of c ≠ Grouping.of quote := fun h => hc (Grouping.eq_of_of_eq hq h)
    simp [effect, closesQuote, closesWord, hof, hc]

theorem readOn_skip {previous c : Char} {active : Grouping} {position : Nat} {cs : List Char}
    {leftover : Option Token} (hp : isSeparator previous) (hc : isSeparator c) :
    readOn ⟨previous, active, position, c :: cs, leftover⟩ {} =
      readOn ⟨c, active, position + 1, cs, leftover⟩ {} := by
  have heffect : effect ⟨previous, active, position, c :: cs, leftover⟩ false c cs.head? =
      .skip := by
    simp [effect, hp, hc]
  rw [readOn]
  simp [heffect, past]

theorem readOn_begin {previous c : Char} {active : Grouping} {position : Nat} {cs : List Char}
    {leftover : Option Token} (hp : isSeparator previous) (hc : isSeparator c = false) :
    readOn ⟨previous, active, position, c :: cs, leftover⟩ {} =
      readOn ⟨c, Grouping.of previous, position + 1, cs, leftover⟩ ⟨[c], some position⟩ := by
  have heffect : effect ⟨previous, active, position, c :: cs, leftover⟩ false c cs.head? =
      .begin := by
    simp [effect, closesWord, closesQuote, not_isSeparator_iff.1 hc, Grouping.isQuoted, hp, hc]
  rw [readOn]
  simp [heffect, past, Gathered.push]

/-! ## Inside a token -/

/-- **A reader inside a bare word reads its body.** -/
theorem readOn_bare (cs : List Char) (previous : Char) (start position : Nat) (before : List Char)
    (leftover : Option Token) (h : before ≠ []) :
    Finishes .bare start position before (Body.bare (isSeparator previous) cs) leftover
      (readOn ⟨previous, .bare, position, cs, leftover⟩ ⟨before, some start⟩) := by
  induction cs generalizing previous position before with
  | nil => exact finishes_nil h
  | cons c cs ih =>
    rw [Body.bare]
    split
    · next hc => exact finishes_close (by rw [effect_bare, if_pos hc])
    · next hc =>
      rw [readOn_extend (by rw [effect_bare, if_neg hc])]
      exact (ih c (position + 1) (c :: before) (List.cons_ne_nil _ _)).push

/-- **A reader inside a quoted token reads its body.** The induction takes
a doubled quote as one step, as both readings do. -/
theorem readOn_quoted {quote : Char} (hq : (Grouping.of quote).isQuoted) (cs : List Char)
    (previous : Char) (start position : Nat) (before : List Char) (leftover : Option Token)
    (h : before ≠ []) :
    Finishes (Grouping.of quote) start position before (Body.quoted quote cs) leftover
      (readOn ⟨previous, Grouping.of quote, position, cs, leftover⟩ ⟨before, some start⟩) := by
  match cs with
  | [] => exact finishes_nil h
  | c :: cs =>
    by_cases hc : c = quote
    · subst hc
      by_cases hd : cs.head? = some c
      · obtain ⟨ds, rfl⟩ := List.head?_eq_some_iff.1 hd
        rw [readOn_double (by rw [effect_quoted hq, if_pos rfl, if_pos hd]), Body.quoted_pair]
        exact (readOn_quoted hq ds c start (position + 2) (c :: before) leftover
          (List.cons_ne_nil _ _)).push
      · rw [Body.quoted_of_head?_ne hd]
        exact finishes_close (by rw [effect_quoted hq, if_pos rfl, if_neg hd])
    · rw [readOn_extend (by rw [effect_quoted hq, if_neg hc]), Body.quoted_cons_of_ne hc]
      exact (readOn_quoted hq cs c start (position + 1) (c :: before) leftover
        (List.cons_ne_nil _ _)).push
termination_by cs.length

/-- **A reader that has just begun a token reads the body that its opening
delimiter asks for.** -/
theorem readOn_body {opener c : Char} (ho : isSeparator opener) (hc : isSeparator c = false)
    (cs : List Char) (position : Nat) (leftover : Option Token) :
    Finishes (Grouping.of opener) position position [] (Body.read opener (c :: cs)) leftover
      (readOn ⟨c, Grouping.of opener, position + 1, cs, leftover⟩ ⟨[c], some position⟩) := by
  by_cases hq : (Grouping.of opener).isQuoted
  · -- the first character is no separator, so it does not begin a pair of quotes
    have hne : c ≠ opener := by
      rintro rfl
      simp [ho] at hc
    rw [Body.read_of_isQuoted hq, Body.quoted_cons_of_ne hne]
    exact (readOn_quoted hq cs c position (position + 1) [c] leftover (List.cons_ne_nil _ _)).push
  · have hb : Grouping.of opener = .bare := of_eq_bare_of_isSeparator ho hq
    -- behind the opening separator the first character cannot close
    have hstep : Body.bare true (c :: cs) = (Body.bare (isSeparator c) cs).push c 1 := by
      simp [Body.bare]
    rw [Body.read_of_bare hb, hstep, hb]
    exact (readOn_bare cs c position (position + 1) [c] leftover (List.cons_ne_nil _ _)).push

/-! ## Between tokens -/

/-- What the next step of a reader comes to, given what the search found. -/
def Answers (leftover : Option Token) (out : Option Token × Reader) : Found → Prop
  | .token t closer rest =>
    out = (some t, ⟨closer, .unclassified, t.span.stop + 1, rest, leftover⟩)
  | .leftover t => ∃ c grouping position, out = (none, ⟨c, grouping, position, [], some t⟩)
  | .nothing => ∃ c grouping position, out = (none, ⟨c, grouping, position, [], leftover⟩)

/-- **A reader behind a separator reads the token that the search finds.** -/
theorem next_answers (cs : List Char) (previous : Char) (active : Grouping) (position : Nat)
    (leftover : Option Token) (h : isSeparator previous) :
    Answers leftover (next ⟨previous, active, position, cs, leftover⟩)
      (findToken previous position cs) := by
  unfold next
  induction cs generalizing previous position with
  | nil => exact ⟨previous, active, position, by simp [readOn]⟩
  | cons c cs ih =>
    by_cases hc : isSeparator c
    · rw [findToken_skip position cs hc, readOn_skip h hc]
      exact ih c (position + 1) hc
    · have hc' : isSeparator c = false := by simpa using hc
      have hbody := readOn_body h hc' cs position leftover
      rw [readOn_begin h hc']
      cases hr : (Body.read previous (c :: cs)).rest with
      | nil =>
        simp only [Finishes, hr, List.reverse_nil, List.nil_append] at hbody
        obtain ⟨d, hd⟩ := hbody
        rw [findToken_open hc' hr]
        exact ⟨d, _, _, hd⟩
      | cons closer rest =>
        simp only [Finishes, hr, List.reverse_nil, List.nil_append] at hbody
        rw [findToken_closed hc' hr]
        exact hbody

/-- **Read to the end, a reader behind a separator has read the structured
scan of its text.** What it had left over stays if the scan leaves nothing. -/
theorem drain_eq (cs : List Char) (previous : Char) (active : Grouping) (position : Nat)
    (leftover : Option Token) (h : isSeparator previous) :
    (drain ⟨previous, active, position, cs, leftover⟩).1 =
        (scanFrom previous position cs).tokens ∧
      (drain ⟨previous, active, position, cs, leftover⟩).2.leftover =
        (scanFrom previous position cs).leftover.or leftover := by
  have hnext := next_answers cs previous active position leftover h
  rw [drain]
  cases hf : findToken previous position cs with
  | nothing =>
    rw [hf] at hnext
    obtain ⟨c, grouping, stop, hn⟩ := hnext
    rw [scanFrom_of_nothing hf]
    split <;> simp_all
  | leftover t =>
    rw [hf] at hnext
    obtain ⟨c, grouping, stop, hn⟩ := hnext
    rw [scanFrom_of_leftover hf]
    split <;> simp_all
  | token t closer rest =>
    rw [hf] at hnext
    have hn : next ⟨previous, active, position, cs, leftover⟩ =
        (some t, ⟨closer, .unclassified, t.span.stop + 1, rest, leftover⟩) := hnext
    -- what closed the token is a separator, so the hypothesis is met again behind it
    have hlt : rest.length < cs.length := length_rest_of_findToken hf
    have ih := drain_eq rest closer .unclassified (t.span.stop + 1) leftover
      (isSeparator_of_findToken h hf)
    rw [scanFrom_of_token hf]
    split
    · simp_all
    · next heq =>
      simp only [hn, Prod.mk.injEq, Option.some.injEq] at heq
      obtain ⟨rfl, rfl⟩ := heq
      exact ⟨congrArg _ ih.1, ih.2⟩
termination_by cs.length

end Reader

/-- **The scan of a text is the structured scan**, as if a blank stood
before it. -/
theorem scan_eq_scanFrom (text : String) : scan text = scanFrom ' ' 0 text.toList := by
  have h := Reader.drain_eq text.toList ' ' .bare 0 none rfl
  simp only [scan, Reader.ofString, h.1, h.2, Option.or_none]

end TableStruct
