import TableStruct.Proofs.Scan.Reference

/-!
# The tokens cover a text

Nothing of a text is lost in the scan and nothing is read twice. The spans
of the tokens, and of the one left over, follow each other with a delimiter
between; each character that is no separator lies in exactly one of them;
and each token is spelt by what its span holds (`Spelt`). `Covers` says so
of the text from a position on, so that the induction goes over the scan:
what one token adds is `Covers.cons`.
-/

namespace TableStruct

variable {cs : List Char}

/-- The character just before a position, a blank before the first one. -/
def charBefore (cs : List Char) : Nat → Char
  | 0 => ' '
  | i + 1 => cs.getD i ' '

/-- A text with each adjacent pair of quotes taken once. -/
def undouble (q : Char) : List Char → List Char
  | [] => []
  | [c] => [c]
  | c :: d :: cs =>
    if c = q ∧ d = q then q :: undouble q cs else c :: undouble q (d :: cs)

/-- A token as its span spells it. -/
structure Spelt (cs : List Char) (t : Token) : Prop where
  nonempty : t.span.start < t.span.stop
  inside : t.span.stop ≤ cs.length
  delimited : t.grouping ≠ .unclassified
  /-- The delimiter stands just before the span. -/
  opened : t.grouping = Grouping.of (charBefore cs t.span.start)
  text_ne : t.text ≠ ""
  /-- The text is what the span holds, doubled delimiters of a quoted one
  taken once. -/
  text_eq : t.text.toList =
    if t.grouping.isQuoted then
      undouble (charBefore cs t.span.start) (slice cs t.span.start t.span.stop)
    else slice cs t.span.start t.span.stop

/-- The span holds the position. -/
def Token.holds (t : Token) (i : Nat) : Bool :=
  t.span.start ≤ i && i < t.span.stop

/-- **The tokens and the leftover cover the text from position `p` on.** -/
structure Covers (cs : List Char) (p : Nat) (tokens : List Token) (leftover : Option Token) :
    Prop where
  start : ∀ t ∈ tokens ++ leftover.toList, p ≤ t.span.start
  /-- Between two spans there is at least one position. -/
  ordered : (tokens ++ leftover.toList).Pairwise fun t u => t.span.stop < u.span.start
  spelt : ∀ t ∈ tokens ++ leftover.toList, Spelt cs t
  /-- Behind a token stands a separator of its own grouping. -/
  closed : ∀ t ∈ tokens, t.span.stop < cs.length ∧
    ∃ c, cs[t.span.stop]? = some c ∧ isSeparator c ∧ Grouping.of c = t.grouping
  unclosed : ∀ t ∈ leftover, t.span.stop = cs.length
  /-- Each character that is no separator lies in one span. -/
  once : ∀ i c, p ≤ i → cs[i]? = some c → isSeparator c = false →
    (tokens ++ leftover.toList).countP (·.holds i) = 1

/-! ## Slices and quotes -/

theorem slice_self (b : Nat) : slice cs b b = [] := by
  simp [slice]

theorem slice_eq_cons {b e : Nat} {c : Char} (hc : cs[b]? = some c) (hbe : b < e) :
    slice cs b e = c :: slice cs (b + 1) e := by
  obtain ⟨hlen, hget⟩ := List.getElem?_eq_some_iff.1 hc
  rw [slice, slice, List.drop_eq_getElem_cons hlen, hget,
    show e - b = (e - (b + 1)) + 1 by omega, List.take_succ_cons]

theorem undouble_cons_of_ne {q c : Char} (h : c ≠ q) (l : List Char) :
    undouble q (c :: l) = c :: undouble q l := by
  cases l with
  | nil => rfl
  | cons d l => rw [undouble, if_neg fun hp => h hp.1]

/-- **The text of a quoted stretch is the stretch with its pairs of quotes
taken once.** -/
theorem Unquotes.undouble_slice {q : Char} {b e : Nat} {text : List Char}
    (h : Unquotes cs q b text e) : undouble q (slice cs b e) = text := by
  induction h with
  | done => rw [slice_self]; rfl
  | pair hb hb1 h ih =>
    have hle := h.le
    rw [slice_eq_cons hb (by omega), slice_eq_cons hb1 (by omega), undouble, if_pos ⟨rfl, rfl⟩, ih]
  | char hc hne h ih =>
    have hle := h.le
    rw [slice_eq_cons hc (by omega), undouble_cons_of_ne hne, ih]

/-! ## What stands around a token -/

/-- The separator before a token stands just before its span. -/
theorem Begins.charBefore_eq {p b : Nat} {d o : Char} (h : Begins cs p d b o)
    (hd : charBefore cs p = d) : charBefore cs b = o := by
  have hbefore := h.before
  have hle := h.le
  by_cases hp : b = p
  · rw [if_pos hp] at hbefore
    rw [hp, hd, hbefore]
  · rw [if_neg hp] at hbefore
    obtain ⟨i, rfl⟩ : ∃ i, b = i + 1 := ⟨b - 1, by omega⟩
    rw [Nat.add_sub_cancel] at hbefore
    simp [charBefore, List.getD, hbefore]

/-- It is a separator, since skipping goes from separator to separator. -/
theorem Begins.isSeparator {p b : Nat} {d o : Char} (h : Begins cs p d b o)
    (hd : isSeparator d) : TableStruct.isSeparator o := by
  have hbefore := h.before
  have hle := h.le
  by_cases hp : b = p
  · rw [if_pos hp] at hbefore
    rwa [hbefore]
  · rw [if_neg hp] at hbefore
    exact h.skipped (b - 1) o (by omega) (by omega) hbefore

/-- A separator of the token's grouping stands where it ends. -/
theorem Closed.closer {o : Char} {b e : Nat} {text : List Char} (h : Closed cs o b e text) :
    ∃ c, cs[e]? = some c ∧ Grouping.of c = Grouping.of o := by
  cases h with
  | quoted _ _ hc _ => exact ⟨o, hc, rfl⟩
  | bare ho hends _ =>
    obtain ⟨-, ⟨c, hc, hbare⟩, -⟩ := hends
    exact ⟨c, hc, hbare.trans ho.symm⟩

theorem Closed.text_eq {o : Char} {b e : Nat} {text : List Char} (h : Closed cs o b e text) :
    text = if (Grouping.of o).isQuoted then undouble o (slice cs b e) else slice cs b e := by
  cases h with
  | quoted hq hu _ _ => rw [if_pos hq, hu.undouble_slice]
  | bare ho _ _ => rw [ho]; rfl

theorem Accumulated.text_eq {o : Char} {b : Nat} {text : List Char}
    (h : Accumulated cs o b text) :
    text = if (Grouping.of o).isQuoted then undouble o (slice cs b cs.length)
      else slice cs b cs.length := by
  cases h with
  | quoted hq hu => rw [if_pos hq, hu.undouble_slice]
  | bare ho => rw [ho]; rfl

/-- **A token behind a separator is spelt by its span**, once its text is
what the stretch spells. -/
theorem spelt_of_begins {p b e : Nat} {d o : Char} {text : List Char} (h : Begins cs p d b o)
    (hd : isSeparator d) (hp : charBefore cs p = d) (hbe : b < e) (he : e ≤ cs.length)
    (ht : text = if (Grouping.of o).isQuoted then undouble o (slice cs b e) else slice cs b e) :
    Spelt cs ⟨Grouping.of o, String.ofList text, ⟨b, e⟩⟩ := by
  have hbefore := h.charBefore_eq hp
  have hsep := isSeparator_iff.1 (h.isSeparator hd)
  obtain ⟨c, hc, hns⟩ := h.first
  have hne : text ≠ [] := by
    rw [ht, slice_eq_cons hc hbe]
    split
    · -- the first character is no separator, and so not the quote
      have hco : c ≠ o := by
        rintro rfl
        exact hsep (not_isSeparator_iff.1 hns)
      simp [undouble_cons_of_ne hco]
    · simp
  refine ⟨hbe, he, hsep, by rw [hbefore], ?_, by rw [hbefore, ← ht]; simp⟩
  simpa [String.ext_iff] using hne

/-! ## The induction over the scan -/

theorem covers_nil {p : Nat} (h : ∀ i c, p ≤ i → cs[i]? = some c → isSeparator c) :
    Covers cs p [] none := by
  refine ⟨by simp, by simp, by simp, by simp, by simp, ?_⟩
  intro i c hi hc hns
  have := h i c hi hc
  simp [hns] at this

theorem covers_leftover {p b : Nat} {d o : Char} {t : Token} (h : Begins cs p d b o)
    (hspelt : Spelt cs t) (hstart : t.span.start = b) (hstop : t.span.stop = cs.length) :
    Covers cs p [] (some t) := by
  refine ⟨?_, by simp, by simpa using hspelt, by simp, by simpa using hstop, ?_⟩
  · simpa [hstart] using h.le
  · intro i c hi hc hns
    have hbi : b ≤ i := h.le_of_text hi hc hns
    have hlen := (List.getElem?_eq_some_iff.1 hc).1
    have hholds : t.holds i := by simp [Token.holds, hstart, hstop, hbi, hlen]
    simp [hholds]

theorem Covers.countP_eq_zero {p i : Nat} {tokens : List Token} {leftover : Option Token}
    (h : Covers cs p tokens leftover) (hi : i < p) :
    (tokens ++ leftover.toList).countP (·.holds i) = 0 := by
  rw [List.countP_eq_zero]
  intro t ht hholds
  have := h.start t ht
  simp only [Token.holds, Bool.and_eq_true, decide_eq_true_eq] at hholds
  omega

/-- **One token more.** The characters before it are separators, its own
are in its span alone, the next is its delimiter, and the rest is covered
already. -/
theorem Covers.cons {p b e : Nat} {d o : Char} {t : Token} {tokens : List Token}
    {leftover : Option Token} (hrest : Covers cs (e + 1) tokens leftover)
    (h : Begins cs p d b o) (hspelt : Spelt cs t) (hspan : t.span = ⟨b, e⟩)
    (hcloser : ∃ c, cs[e]? = some c ∧ isSeparator c ∧ Grouping.of c = t.grouping) :
    Covers cs p (t :: tokens) leftover := by
  have hle := h.le
  have hbe : b < e := by simpa [hspan] using hspelt.nonempty
  refine ⟨?_, ?_, ?_, ?_, hrest.unclosed, ?_⟩
  · intro u hu
    rcases List.mem_cons.1 hu with rfl | hu
    · rwa [hspan]
    · have := hrest.start u hu
      omega
  · refine List.pairwise_cons.2 ⟨fun u hu => ?_, hrest.ordered⟩
    rw [hspan]
    exact hrest.start u hu
  · intro u hu
    rcases List.mem_cons.1 hu with rfl | hu
    · exact hspelt
    · exact hrest.spelt u hu
  · intro u hu
    rcases List.mem_cons.1 hu with rfl | hu
    · obtain ⟨c, hc, hsep, hof⟩ := hcloser
      rw [hspan]
      exact ⟨(List.getElem?_eq_some_iff.1 hc).1, c, hc, hsep, hof⟩
    · exact hrest.closed u hu
  · intro i c hi hc hns
    have hbi : b ≤ i := h.le_of_text hi hc hns
    -- the closing delimiter is in no span, but it is a separator
    have hne : i ≠ e := by
      rintro rfl
      obtain ⟨c', hc', hsep, -⟩ := hcloser
      obtain rfl := Option.some.inj (hc.symm.trans hc')
      simp [hns] at hsep
    rw [List.cons_append, List.countP_cons]
    rcases Nat.lt_or_ge i e with hlt | hge
    · have hholds : t.holds i := by simp [Token.holds, hspan, hbi, hlt]
      rw [hrest.countP_eq_zero (by omega), if_pos hholds]
    · have hnot : t.holds i = false := by
        simp only [Token.holds, hspan, Bool.and_eq_false_iff, decide_eq_false_iff_not]
        omega
      rw [hrest.once i c (by omega) hc hns, hnot]
      rfl

/-- **A scan by positions covers the text it goes over.** The invariant of
the scan is that the character it goes on behind is a separator. -/
theorem Scans.covers {p : Nat} {d : Char} {tokens : List Token} {leftover : Option Token}
    (h : Scans cs p d tokens leftover) (hd : isSeparator d) (hp : charBefore cs p = d) :
    Covers cs p tokens leftover := by
  induction h with
  | @token p b e d o closer text tokens leftover hb hc hcloser _ ih =>
    obtain ⟨c, hc', hof⟩ := hc.closer
    obtain rfl := Option.some.inj (hcloser.symm.trans hc')
    have hlen := (List.getElem?_eq_some_iff.1 hcloser).1
    have hsep : isSeparator closer := isSeparator_of_of_eq (hb.isSeparator hd) hof
    have hbe : b < e := by
      cases hc with
      | quoted _ hu hq _ =>
        -- an empty stretch would begin with its closing quote
        obtain ⟨x, hx, hns⟩ := hb.first
        refine Nat.lt_of_le_of_ne hu.le ?_
        rintro rfl
        obtain rfl := Option.some.inj (hx.symm.trans hcloser)
        simp [hns] at hsep
      | bare _ hends _ => exact hends.1
    have hbefore : charBefore cs (e + 1) = closer := by
      simp [charBefore, List.getD, hcloser]
    exact (ih hsep hbefore).cons hb
      (spelt_of_begins hb hd hp hbe (Nat.le_of_lt hlen) hc.text_eq) rfl ⟨closer, hcloser, hsep, hof⟩
  | leftover hb _ ha =>
    obtain ⟨x, hx, -⟩ := hb.first
    have hlen := (List.getElem?_eq_some_iff.1 hx).1
    exact covers_leftover hb (spelt_of_begins hb hd hp hlen (Nat.le_refl _) ha.text_eq) rfl rfl
  | nothing hall => exact covers_nil hall

theorem text_ne_of_mem_scan {text : String} {t : Token} (h : t ∈ (scan text).tokens) :
    t.text ≠ "" :=
  (((scans_scan text).covers rfl rfl).spelt t (List.mem_append_left _ h)).text_ne

/-- **The tokens of a scan and its leftover cover the text.** -/
theorem covers_scan (text : String) :
    Covers text.toList 0 (scan text).tokens (scan text).leftover :=
  (scans_scan text).covers rfl rfl

end TableStruct
