import TableStruct.Proofs.Text.CaseRun
import TableStruct.Proofs.Text.Letters
import TableStruct.Token

/-!
# Lower case is settled in one pass

Lower-casing a character leaves nothing to lower-case (`lowerChar_of_mem`),
and neither makes a separator nor unmakes one (`isSeparator_of_mem_lowerChar`,
`lowerChar_of_isSeparator`). Within ASCII this is seen letter by letter; for
the runs beyond, it is read off their ends: no run takes a code point into
another run, into ASCII or onto a separator.

With it a lower-cased text is its own lower case (`lower_lower`), and is
longer than the text by one for each dotted capital I (`length_lowerEach`).
-/

namespace TableStruct

namespace Text

/-- Code points that no run beyond ASCII holds or is taken to: those of
ASCII but one, the separators beyond ASCII, the dotted capital I and the
surrogates. The one is the small k, which the Kelvin sign becomes. -/
def plainRanges : List (Nat × Nat) :=
  [(0, 0x6A), (0x6C, 0xA0), (0x130, 0x130), (0x1680, 0x1680), (0x2000, 0x205F), (0x3000, 0x3000),
    (0xD800, 0xDFFF)]

theorem capitalRuns_avoid : ∀ run ∈ capitalRuns,
    run.imageLast < 0x110000 ∧ ∀ range ∈ plainRanges, run.avoids range := by
  decide +kernel

theorem capitalRuns_miss {run other : CaseRun} (hrun : run ∈ capitalRuns)
    (hother : other ∈ capitalRuns) : run.misses other := by
  have hall : (capitalRuns.all fun run => capitalRuns.all run.misses) := by decide +kernel
  exact List.all_eq_true.1 (List.all_eq_true.1 hall run hrun) other hother

theorem exists_plainRange_of_isSeparator {c : Char} (h : isSeparator c) :
    ∃ range ∈ plainRanges, range.1 ≤ c.toNat ∧ c.toNat ≤ range.2 := by
  simp only [isSeparator, isBlank, Bool.or_eq_true, Bool.and_eq_true, decide_eq_true_eq,
    beq_iff_eq] at h
  simp only [plainRanges, List.mem_cons, List.not_mem_nil, or_false, exists_eq_or_imp,
    exists_eq_left]
  rcases h with ((((h | rfl) | rfl) | rfl) | rfl) | rfl
  · omega
  all_goals decide

/-- What a run of capitals holds is no separator. -/
theorem isSeparator_of_holds {run : CaseRun} {c : Char} (hrun : run ∈ capitalRuns)
    (h : run.holds c.toNat) : isSeparator c = false := by
  rw [← Bool.not_eq_true]
  intro hsep
  obtain ⟨range, hmem, hin⟩ := exists_plainRange_of_isSeparator hsep
  exact (CaseRun.outside_of_avoids ((capitalRuns_avoid run hrun).2 range hmem) h).1 hin

/-- What a run of capitals becomes is a character with that code point. -/
theorem toNat_ofNat_image {run : CaseRun} {n : Nat} (hrun : run ∈ capitalRuns) (h : run.holds n) :
    (Char.ofNat (run.image n)).toNat = run.image n := by
  obtain ⟨hlast, havoid⟩ := capitalRuns_avoid run hrun
  exact CaseRun.toNat_ofNat_image hlast (havoid CaseRun.surrogates (by decide)) h

theorem isSeparator_image {run : CaseRun} {n : Nat} (hrun : run ∈ capitalRuns)
    (h : run.holds n) : isSeparator (Char.ofNat (run.image n)) = false := by
  rw [← Bool.not_eq_true]
  intro hsep
  obtain ⟨range, hmem, hin⟩ := exists_plainRange_of_isSeparator hsep
  rw [toNat_ofNat_image hrun h] at hin
  exact (CaseRun.outside_of_avoids ((capitalRuns_avoid run hrun).2 range hmem) h).2 hin

/-- **What a run of capitals becomes has no lower case but itself.** -/
theorem lowerChar_image {run : CaseRun} {n : Nat} (hrun : run ∈ capitalRuns) (h : run.holds n) :
    lowerChar (Char.ofNat (run.image n)) = [Char.ofNat (run.image n)] := by
  have hcode := toNat_ofNat_image hrun h
  have havoid := (capitalRuns_avoid run hrun).2
  have hlow := (CaseRun.outside_of_avoids (havoid (0, 0x6A) (by decide)) h).2
  have hhigh := (CaseRun.outside_of_avoids (havoid (0x6C, 0xA0) (by decide)) h).2
  have hdotted := (CaseRun.outside_of_avoids (havoid (0x130, 0x130) (by decide)) h).2
  dsimp only at hlow hhigh hdotted
  by_cases hascii : run.image n < 0x80
  · have hk : run.image n = 0x6B := by omega
    rw [hk]
    rfl
  · have hne : Char.ofNat (run.image n) ≠ 'İ' := by
      intro heq
      have : run.image n = 0x130 := by rw [← hcode, heq]; rfl
      omega
    rw [lowerChar, hcode, if_neg hascii, if_neg hne,
      CaseRun.apply_image (fun other hother => capitalRuns_miss hrun hother) hcode h]

/-! ## Single characters -/

/-- **The ways to lower-case a character.** -/
theorem lowerChar_cases (c : Char) :
    lowerChar c = [c.toLower] ∨ (c = 'İ' ∧ lowerChar c = ['i', '\u0307']) ∨ lowerChar c = [c] ∨
      ∃ run ∈ capitalRuns, run.holds c.toNat ∧
        lowerChar c = [Char.ofNat (run.image c.toNat)] := by
  rw [lowerChar]
  split
  · exact .inl rfl
  · split
    · next heq => exact .inr (.inl ⟨heq, rfl⟩)
    · rcases CaseRun.apply_cases capitalRuns c with happly | ⟨run, hrun, hholds, happly⟩
      · exact .inr (.inr (.inl (by rw [happly])))
      · exact .inr (.inr (.inr ⟨run, hrun, hholds, by rw [happly]⟩))

/-- **Lower-casing a character leaves nothing to lower-case.** -/
theorem lowerChar_of_mem {c d : Char} (h : d ∈ lowerChar c) : lowerChar d = [d] := by
  rcases lowerChar_cases c with heq | ⟨-, heq⟩ | heq | ⟨run, hrun, hholds, heq⟩
  · obtain rfl : d = c.toLower := by simpa [heq] using h
    rw [lowerChar_toLower, heq]
  · have hd : d = 'i' ∨ d = '\u0307' := by simpa [heq] using h
    rcases hd with rfl | rfl <;> decide
  · obtain rfl : d = c := by simpa [heq] using h
    exact heq
  · obtain rfl : d = Char.ofNat (run.image c.toNat) := by simpa [heq] using h
    exact lowerChar_image hrun hholds

/-- **Separators become separators, and nothing else does.** -/
theorem isSeparator_of_mem_lowerChar {c d : Char} (h : d ∈ lowerChar c) :
    isSeparator d = isSeparator c := by
  rcases lowerChar_cases c with heq | ⟨rfl, heq⟩ | heq | ⟨run, hrun, hholds, heq⟩
  · obtain rfl : d = c.toLower := by simpa [heq] using h
    exact blind_toLower (by decide) c
  · have hd : d = 'i' ∨ d = '\u0307' := by simpa [heq] using h
    rcases hd with rfl | rfl <;> decide
  · obtain rfl : d = c := by simpa [heq] using h
    rfl
  · obtain rfl : d = Char.ofNat (run.image c.toNat) := by simpa [heq] using h
    rw [isSeparator_image hrun hholds, isSeparator_of_holds hrun hholds]

/-- A separator is its own lower case. -/
theorem lowerChar_of_isSeparator {c : Char} (h : isSeparator c) : lowerChar c = [c] := by
  rcases lowerChar_cases c with heq | ⟨rfl, -⟩ | heq | ⟨run, hrun, hholds, -⟩
  · rcases toLower_eq_or_capital c with hsame | ⟨i, rfl⟩
    · rw [heq, hsame]
    · have hnot : ∀ i, isSeparator (capital i) = false := by decide
      simp [hnot i] at h
  · exact absurd h (by decide)
  · exact heq
  · simp [isSeparator_of_holds hrun hholds] at h

/-- Blanks become blanks, and nothing else does. -/
theorem isBlank_of_mem_lowerChar {c d : Char} (h : d ∈ lowerChar c) : isBlank d = isBlank c := by
  have hblank : ∀ x, isBlank x → isSeparator x := fun x hx => by simp [isSeparator, hx]
  by_cases hsep : isSeparator c
  · obtain rfl : d = c := by simpa [lowerChar_of_isSeparator hsep] using h
    rfl
  · have hd : ¬ isBlank d := fun hd =>
      hsep ((isSeparator_of_mem_lowerChar h).symm.trans (hblank d hd))
    have hc : ¬ isBlank c := fun hc => hsep (hblank c hc)
    rw [Bool.not_eq_true] at hd hc
    rw [hd, hc]

theorem length_lowerChar (c : Char) : (lowerChar c).length = if c = 'İ' then 2 else 1 := by
  rw [lowerChar]
  split
  · next hascii =>
    have hne : c ≠ 'İ' := by
      rintro rfl
      exact absurd hascii (by decide)
    rw [if_neg hne]
    rfl
  · split
    · rfl
    · rfl

theorem lowerChar_ne_nil (c : Char) : lowerChar c ≠ [] := by
  intro h
  have hlen := length_lowerChar c
  rw [h] at hlen
  split at hlen
  · cases hlen
  · cases hlen

/-! ## Texts -/

/-- Lower-cases each character on its own. -/
def lowerEach (cs : List Char) : List Char :=
  cs.flatMap lowerChar

@[simp] theorem lowerEach_nil : lowerEach [] = [] := rfl

@[simp] theorem lowerEach_cons (c : Char) (cs : List Char) :
    lowerEach (c :: cs) = lowerChar c ++ lowerEach cs := rfl

@[simp] theorem lowerEach_append (a b : List Char) :
    lowerEach (a ++ b) = lowerEach a ++ lowerEach b :=
  List.flatMap_append

/-- The two mappings differ on the capital sigma alone. -/
theorem lower_eq_lowerEach {cs : List Char} (h : 'Σ' ∉ cs) : lower cs = lowerEach cs :=
  lowerAfter_eq_flatMap h

theorem lowerEach_eq_self {cs : List Char} (h : ∀ c ∈ cs, lowerChar c = [c]) :
    lowerEach cs = cs :=
  (List.flatMap_congr h).trans (List.flatMap_singleton' cs)

theorem lowerChar_of_mem_lowerAfter {before cs : List Char} {d : Char}
    (h : d ∈ lowerAfter before cs) : lowerChar d = [d] := by
  induction cs generalizing before with
  | nil => cases h
  | cons c cs ih =>
    rw [lowerAfter] at h
    split at h
    · rcases List.mem_cons.1 h with rfl | h
      · split <;> decide
      · exact ih h
    · rcases List.mem_append.1 h with h | h
      · exact lowerChar_of_mem h
      · exact ih h

/-- **A lower-cased text is its own lower case.** -/
theorem lower_lower (cs : List Char) : lower (lower cs) = lower cs := by
  have hfixed : ∀ d ∈ lower cs, lowerChar d = [d] := fun d hd => lowerChar_of_mem_lowerAfter hd
  have hsigma : 'Σ' ∉ lower cs := fun h => absurd (hfixed _ h) (by decide)
  rw [lower_eq_lowerEach hsigma, lowerEach_eq_self hfixed]

theorem length_lowerEach (cs : List Char) : (lowerEach cs).length = cs.length + cs.count 'İ' := by
  induction cs with
  | nil => rfl
  | cons c cs ih =>
    rw [lowerEach_cons, List.length_append, length_lowerChar, ih, List.length_cons,
      List.count_cons]
    by_cases hc : c = 'İ'
    · simp only [hc, if_pos, beq_self_eq_true]
      omega
    · simp only [hc, if_neg, beq_iff_eq, not_false_eq_true]
      omega

theorem lowerAfter_eq_nil {before cs : List Char} : lowerAfter before cs = [] ↔ cs = [] := by
  cases cs with
  | nil => simp [lowerAfter]
  | cons c cs =>
    rw [lowerAfter]
    split
    · simp
    · simp [lowerChar_ne_nil]

/-- **One character at a time**: the first is lower-cased to some, which are
blank if it is, and then the rest. -/
theorem exists_lowerAfter_cons (before : List Char) (c : Char) (cs : List Char) :
    ∃ lowered, lowered ≠ [] ∧ (∀ d ∈ lowered, isBlank d = isBlank c) ∧
      lowerAfter before (c :: cs) = lowered ++ lowerAfter (c :: before) cs := by
  rw [lowerAfter]
  split
  · next hc =>
    refine ⟨[_], List.cons_ne_nil _ _, fun d hd => ?_, rfl⟩
    rw [List.mem_singleton.1 hd, hc]
    split
    · decide
    · decide
  · exact ⟨lowerChar c, lowerChar_ne_nil c, fun d hd => isBlank_of_mem_lowerChar hd, rfl⟩

/-- A text that does not begin in a blank does not when lower-cased. -/
theorem isBlank_of_head?_lowerAfter {before cs : List Char} {d : Char}
    (hcs : ∀ c, cs.head? = some c → isBlank c = false)
    (h : (lowerAfter before cs).head? = some d) : isBlank d = false := by
  cases cs with
  | nil => cases h
  | cons c cs =>
    obtain ⟨lowered, hne, hblank, heq⟩ := exists_lowerAfter_cons before c cs
    rw [heq, List.head?_append_of_ne_nil _ hne] at h
    rw [hblank d (List.mem_of_head? h)]
    exact hcs c rfl

/-- A text that does not end in a blank does not when lower-cased. -/
theorem isBlank_of_getLast?_lowerAfter {before cs : List Char} {d : Char}
    (hcs : ∀ c, cs.getLast? = some c → isBlank c = false)
    (h : (lowerAfter before cs).getLast? = some d) : isBlank d = false := by
  induction cs generalizing before with
  | nil => cases h
  | cons c cs ih =>
    obtain ⟨lowered, hne, hblank, heq⟩ := exists_lowerAfter_cons before c cs
    rw [heq] at h
    by_cases hnil : cs = []
    · subst hnil
      rw [lowerAfter, List.append_nil] at h
      rw [hblank d (List.mem_of_getLast? h)]
      exact hcs c rfl
    · have hrest : lowerAfter (c :: before) cs ≠ [] := mt lowerAfter_eq_nil.1 hnil
      rw [List.getLast?_append_of_ne_nil _ hrest] at h
      exact ih (fun x hx => hcs x (by rwa [List.getLast?_cons_of_ne_nil hnil])) h

/-- No text has a shorter lower case. -/
theorem length_le_length_lowerAfter (before cs : List Char) :
    cs.length ≤ (lowerAfter before cs).length := by
  induction cs generalizing before with
  | nil => exact Nat.le_refl _
  | cons c cs ih =>
    have hrest := ih (c :: before)
    have hfirst := List.length_pos_iff.2 (lowerChar_ne_nil c)
    rw [lowerAfter]
    split
    · simp only [List.length_cons]
      omega
    · simp only [List.length_cons, List.length_append]
      omega

@[simp] theorem lowerCase_lowerCase (s : String) : lowerCase (lowerCase s) = lowerCase s := by
  rw [lowerCase, lowerCase, String.toList_ofList, lower_lower]

/-- Nothing but the empty string has an empty lower case. -/
@[simp] theorem lowerCase_eq_empty {s : String} : lowerCase s = "" ↔ s = "" := by
  rw [String.ext_iff, String.ext_iff, lowerCase, String.toList_ofList]
  exact lowerAfter_eq_nil

end Text

end TableStruct
