import TableStruct.Proofs.Scan.Coverage

/-!
# Quotes left open

Which quote of a text is open at its end can be told without tokens: outside
quotes a quote of either kind opens one, and inside the same character
closes it, unless it is doubled. `Quote.atEnd` is that scan, and knows
nothing of bare words or separators.

It need not agree with the tokens. A quote in a bare word is text for these,
and a quote in no token is a separator like any other: the token behind it
has the grouping of the last separator before it. So the scan of tokens
begins anew behind an open quote that is in no token (`Scans.behind`), and
that quote delimits a token only where no other separator follows it. Such a
token is left over (`leftover_iff_of_openQuote`).
-/

namespace TableStruct

/-- A quote and its place. -/
structure Quote where
  mark : Char
  position : Nat
  deriving DecidableEq, Repr

namespace Quote

/-- The quote that is open at the end of a text. The text stands at
`position`, and `inside` is the quote that is open before it. -/
def atEnd (inside : Option Quote) (position : Nat) : List Char → Option Quote
  | [] => inside
  | c :: cs =>
    match inside with
    | none =>
      if (Grouping.of c).isQuoted then atEnd (some ⟨c, position⟩) (position + 1) cs
      else atEnd none (position + 1) cs
    | some q =>
      if c = q.mark then
        match cs with
        | [] => none
        | d :: ds =>
          if d = q.mark then atEnd (some q) (position + 2) ds
          else atEnd none (position + 1) (d :: ds)
      else atEnd (some q) (position + 1) cs

/-- The quote that a statement leaves open. -/
def ofStatement (s : String) : Option Quote :=
  atEnd none 0 s.toList

/-- The quote stands in a text that begins at `position`, and nothing behind
it closes it. -/
def OpenIn (q : Quote) (position : Nat) (cs : List Char) : Prop :=
  ∃ before behind, cs = before ++ q.mark :: behind ∧ q.position = position + before.length ∧
    (Grouping.of q.mark).isQuoted ∧ (Body.quoted q.mark behind).rest = []

variable {q : Quote} {p : Nat} {cs : List Char}

theorem OpenIn.cons (h : q.OpenIn (p + 1) cs) (c : Char) : q.OpenIn p (c :: cs) := by
  obtain ⟨before, behind, rfl, hposition, hmark, hopen⟩ := h
  refine ⟨c :: before, behind, rfl, ?_, hmark, hopen⟩
  rw [hposition, List.length_cons]
  omega

/-- **The open quote is one that nothing behind it closes**, the one from
before the text or one that stands in it. -/
theorem open_of_atEnd {inside : Option Quote} (h : atEnd inside p cs = some q) :
    (inside = some q ∧ (Body.quoted q.mark cs).rest = []) ∨ q.OpenIn p cs := by
  fun_induction atEnd inside p cs with
  | case1 => exact .inl ⟨h, rfl⟩
  | case2 p c cs hc ih =>
    -- the quote that opens here stays open, or a later one does
    right
    rcases ih h with ⟨hq, hopen⟩ | hin
    · obtain rfl := Option.some.inj hq
      exact ⟨[], cs, rfl, rfl, hc, hopen⟩
    · exact hin.cons c
  | case3 p c cs hc ih =>
    rcases ih h with ⟨hq, -⟩ | hin
    · cases hq
    · exact .inr (hin.cons c)
  | case4 => cases h
  | case5 p q' ds ih =>
    rcases ih h with ⟨hq, hopen⟩ | hin
    · obtain rfl := Option.some.inj hq
      -- a pair of quotes closes nothing
      left
      exact ⟨rfl, by rwa [Body.quoted_pair]⟩
    · exact .inr ((hin.cons _).cons _)
  | case6 p q' d ds _ ih =>
    rcases ih h with ⟨hq, -⟩ | hin
    · cases hq
    · exact .inr (hin.cons _)
  | case7 p c cs q' hc ih =>
    rcases ih h with ⟨hq, hopen⟩ | hin
    · obtain rfl := Option.some.inj hq
      left
      exact ⟨rfl, by rwa [Body.quoted_cons_of_ne hc]⟩
    · exact .inr (hin.cons c)

end Quote

/-! ## The scan from an open quote on -/

variable {cs : List Char}

theorem Begins.behind {p b i : Nat} {d o m : Char} (h : Begins cs p d b o) (hi : p ≤ i)
    (hb : i < b) (hm : cs[i]? = some m) : Begins cs (i + 1) m b o := by
  refine ⟨hb, fun j c hj => h.skipped j c (by omega), h.first, ?_⟩
  have hbefore := h.before
  rw [if_neg (by omega)] at hbefore
  by_cases hnext : b = i + 1
  · rw [hnext, Nat.add_sub_cancel, hm] at hbefore
    rw [if_pos hnext, Option.some.inj hbefore]
  · rwa [if_neg hnext]

/-- **A character in no token begins the scan anew.** What is left over at
the end does not depend on what stands before it, and the tokens behind it
are tokens of the whole scan. -/
theorem Scans.behind {p i : Nat} {d m : Char} {tokens : List Token} {leftover : Option Token}
    (h : Scans cs p d tokens leftover) (hi : p ≤ i) (hm : cs[i]? = some m)
    (hout : ∀ t ∈ tokens ++ leftover.toList, t.holds i = false) :
    ∃ behind, Scans cs (i + 1) m behind leftover ∧ ∀ t ∈ behind, t ∈ tokens := by
  induction h with
  | @token p b e d o closer text tokens leftover hb hc hcloser hs ih =>
    have hout' : ∀ t ∈ tokens ++ leftover.toList, t.holds i = false :=
      fun t ht => hout t (List.mem_cons_of_mem _ ht)
    have hholds := hout _ List.mem_cons_self
    simp only [Token.holds, Bool.and_eq_false_iff, decide_eq_false_iff_not] at hholds
    rcases Nat.lt_or_ge i b with hlt | hge
    · exact ⟨_, .token (hb.behind hi hlt hm) hc hcloser hs, fun t ht => ht⟩
    · -- outside its span it is the closing delimiter or stands behind that
      rcases Nat.eq_or_lt_of_le (show e ≤ i by omega) with rfl | hlt
      · obtain rfl := Option.some.inj (hcloser.symm.trans hm)
        exact ⟨_, hs, fun t ht => List.mem_cons_of_mem _ ht⟩
      · obtain ⟨behind, hbehind, hsub⟩ := ih hlt hout'
        exact ⟨behind, hbehind, fun t ht => List.mem_cons_of_mem _ (hsub t ht)⟩
  | @leftover p b d o text hb hno ha =>
    have hlen := (List.getElem?_eq_some_iff.1 hm).1
    have hholds := hout _ (List.mem_append_right _ (Option.mem_toList.2 rfl))
    simp only [Token.holds, Bool.and_eq_false_iff, decide_eq_false_iff_not] at hholds
    exact ⟨_, .leftover (hb.behind hi (by omega) hm) hno ha, fun t ht => ht⟩
  | nothing hall => exact ⟨_, .nothing fun j c hj => hall j c (by omega), fun t ht => ht⟩

/-- **What begins at a place is a token or is left over**, and it is a token
just if something closes it. -/
theorem Scans.cases_of_begins {p b : Nat} {d o : Char} {tokens : List Token}
    {leftover : Option Token} (h : Scans cs p d tokens leftover) (hb : Begins cs p d b o) :
    ((∃ e text, Closed cs o b e text) ∧ ∃ t ∈ tokens, t.span.start = b) ∨
      (∀ e text, ¬ Closed cs o b e text) ∧
        ∃ t, leftover = some t ∧ t.grouping = Grouping.of o ∧ t.span.start = b := by
  cases h with
  | token hb' hc _ _ =>
    obtain ⟨rfl, rfl⟩ := hb.unique hb'
    exact .inl ⟨⟨_, _, hc⟩, _, List.mem_cons_self, rfl⟩
  | leftover hb' hno _ =>
    obtain ⟨rfl, rfl⟩ := hb.unique hb'
    exact .inr ⟨hno, _, rfl, rfl, rfl⟩
  | nothing hall => exact absurd hall hb.not_all

/-- A scan without tokens leaves over what begins there. -/
theorem Scans.leftover_begins {p : Nat} {d : Char} {t : Token} (h : Scans cs p d [] (some t)) :
    ∃ o, Begins cs p d t.span.start o ∧ t.grouping = Grouping.of o := by
  cases h with
  | leftover hb _ _ => exact ⟨_, hb, rfl⟩

namespace Body

/-- What nothing closes is open from any other character on: no pair of
quotes reaches over it. -/
theorem rest_quoted_append {quote c : Char} (hc : c ≠ quote) (before behind : List Char)
    (h : (quoted quote (before ++ c :: behind)).rest = []) :
    (quoted quote (c :: behind)).rest = [] := by
  match before with
  | [] => exact h
  | [d] =>
    by_cases hd : d = quote
    · subst hd
      rw [List.singleton_append, quoted_of_head?_ne (by simpa using hc)] at h
      cases h
    · rwa [List.singleton_append, quoted_cons_of_ne hd] at h
  | d :: e :: before =>
    rw [List.cons_append] at h
    by_cases hd : d = quote
    · subst hd
      by_cases he : e = d
      · subst he
        rw [List.cons_append, quoted_pair] at h
        exact rest_quoted_append hc before behind h
      · rw [quoted_of_head?_ne (by simpa using he)] at h
        cases h
    · rw [quoted_cons_of_ne hd] at h
      exact rest_quoted_append hc (e :: before) behind h

end Body

variable {q : Quote} {b : Nat} {o : Char}

/-- What begins behind a quote that nothing closes is not closed either. -/
theorem Quote.rest_quoted (hmark : (Grouping.of q.mark).isQuoted)
    (hopen : (Body.quoted q.mark (cs.drop (q.position + 1))).rest = [])
    (hb : Begins cs (q.position + 1) q.mark b o) :
    (Body.quoted q.mark (cs.drop b)).rest = [] := by
  obtain ⟨c, hc, hsep⟩ := hb.first
  have hne : c ≠ q.mark := by
    rintro rfl
    simp [isSeparator_of_isQuoted hmark] at hsep
  obtain ⟨hlen, hget⟩ := List.getElem?_eq_some_iff.1 hc
  have hrest : cs.drop b = c :: cs.drop (b + 1) := by
    rw [List.drop_eq_getElem_cons hlen, hget]
  have hskip : (cs.drop (q.position + 1)).drop (b - (q.position + 1)) = cs.drop b := by
    rw [List.drop_drop, Nat.add_sub_cancel' hb.le]
  rw [← List.take_append_drop (b - (q.position + 1)) (cs.drop (q.position + 1)), hskip,
    hrest] at hopen
  rw [hrest]
  exact Body.rest_quoted_append hne _ _ hopen

/-- **The open quote stands where it says**, and no token that it delimits
is closed. -/
theorem Quote.open_ofStatement {s : String} (hq : Quote.ofStatement s = some q) :
    s.toList[q.position]? = some q.mark ∧ (Grouping.of q.mark).isQuoted ∧
      ∀ b, Begins s.toList (q.position + 1) q.mark b q.mark →
        ∀ e text, ¬ Closed s.toList q.mark b e text := by
  obtain ⟨before, behind, htext, hposition, hmark, hopen⟩ :=
    (Quote.open_of_atEnd hq).resolve_left (by simp)
  rw [Nat.zero_add] at hposition
  have hbehind : s.toList.drop (q.position + 1) = behind := by simp [htext, hposition]
  refine ⟨by simp [htext, hposition], hmark, fun b hb => ?_⟩
  obtain ⟨c, hc, -⟩ := hb.first
  have hlen : b ≤ s.toList.length := Nat.le_of_lt (List.getElem?_eq_some_iff.1 hc).1
  have hrest : (Body.quoted q.mark (s.toList.drop b)).rest = [] :=
    Quote.rest_quoted hmark (by rwa [hbehind]) hb
  exact ((readsAt_quoted hmark hlen).unclosed hrest).2.1

section

variable {s : String} (hq : Quote.ofStatement s = some q)
  (hout : ∀ t ∈ (scan s).tokens ++ (scan s).leftover.toList, t.holds q.position = false)

include hq hout

/-- **What begins behind an open quote in no token** is left over as a quoted
token just if the separator before it is the quote's character, or a quote
of the other kind that nothing closes. -/
theorem leftover_iff_of_openQuote (hb : Begins s.toList (q.position + 1) q.mark b o) :
    (∃ t, (scan s).leftover = some t ∧ t.grouping.isQuoted ∧ t.grouping = Grouping.of o ∧
        t.span.start = b) ↔
      o = q.mark ∨ (Grouping.of o).isQuoted ∧ ∀ e text, ¬ Closed s.toList o b e text := by
  obtain ⟨hat, hmark, hnone⟩ := Quote.open_ofStatement hq
  obtain ⟨behind, hscans, hsub⟩ := (scans_scan s).behind (Nat.zero_le _) hat hout
  constructor
  · rintro ⟨t, ht, hquoted, hgrouping, hstart⟩
    rcases hscans.cases_of_begins hb with ⟨-, u, hu, hustart⟩ | ⟨hno, -⟩
    · -- the spans of a token and of the leftover do not begin at one place
      have hcovers : Covers s.toList 0 (scan s).tokens (scan s).leftover := covers_scan s
      have hmem : t ∈ (scan s).leftover.toList := Option.mem_toList.2 ht
      have hlt := (List.pairwise_append.1 hcovers.ordered).2.2 u (hsub u hu) t hmem
      have hne := (hcovers.spelt u (List.mem_append_left _ (hsub u hu))).nonempty
      omega
    · exact .inr ⟨hgrouping ▸ hquoted, hno⟩
  · intro ho
    have hopen : (Grouping.of o).isQuoted ∧ ∀ e text, ¬ Closed s.toList o b e text := by
      rcases ho with rfl | ho
      · exact ⟨hmark, hnone b hb⟩
      · exact ho
    rcases hscans.cases_of_begins hb with ⟨⟨e, text, hc⟩, -⟩ | ⟨-, t, ht, hgrouping, hstart⟩
    · exact absurd hc (hopen.2 e text)
    · exact ⟨t, ht, hgrouping ▸ hopen.1, hgrouping, hstart⟩

/-- **If all tokens are in front of it**, what is left over is what begins
behind it. -/
theorem exists_begins_of_openQuote (hfront : ∀ t ∈ (scan s).tokens, t.span.stop ≤ q.position)
    {t : Token} (ht : (scan s).leftover = some t) :
    ∃ o, Begins s.toList (q.position + 1) q.mark t.span.start o ∧
      t.grouping = Grouping.of o := by
  obtain ⟨hat, hmark, -⟩ := Quote.open_ofStatement hq
  obtain ⟨behind, hscans, hsub⟩ := (scans_scan s).behind (Nat.zero_le _) hat hout
  have hbefore : charBefore s.toList (q.position + 1) = q.mark := by
    simp [charBefore, List.getD, hat]
  have hrest : Covers s.toList (q.position + 1) behind (scan s).leftover :=
    hscans.covers (isSeparator_of_isQuoted hmark) hbefore
  -- a token behind the quote would not be in front of it
  have hnil : behind = [] := by
    refine List.eq_nil_iff_forall_not_mem.2 fun u hu => ?_
    have hstart := hrest.start u (List.mem_append_left _ hu)
    have hne := (hrest.spelt u (List.mem_append_left _ hu)).nonempty
    have hstop := hfront u (hsub u hu)
    omega
  rw [hnil, ht] at hscans
  exact hscans.leftover_begins

end

end TableStruct
