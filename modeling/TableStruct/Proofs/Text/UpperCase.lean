import TableStruct.Proofs.Text.CaseRun
import TableStruct.Proofs.Text.Letters
import TableStruct.Text.Upper

/-!
# Upper case is settled in one pass

Upper-casing a character leaves nothing to upper-case (`upperChar_of_mem`),
and never the empty text (`upperChar_ne_nil`); and only an underscore becomes
one (`eq_underscore_of_mem_upperChar`). For the runs beyond ASCII all of this
is read off their ends, for the characters that become several it is looked
up.
-/

namespace TableStruct

namespace Text

/-- Code points that no run of small letters holds or is taken to: the
underscore with the small ASCII letters, and the surrogates. -/
def smallLimits : List (Nat × Nat) :=
  [(0x5F, 0x7F), CaseRun.surrogates]

theorem smallRuns_avoid : ∀ run ∈ smallRuns,
    run.imageLast < 0x110000 ∧ ∀ range ∈ smallLimits, run.avoids range := by
  decide +kernel

theorem smallRuns_miss {run other : CaseRun} (hrun : run ∈ smallRuns)
    (hother : other ∈ smallRuns) : run.misses other := by
  have hall : (smallRuns.all fun run => smallRuns.all run.misses) := by decide +kernel
  exact List.all_eq_true.1 (List.all_eq_true.1 hall run hrun) other hother

/-- No run leads to a character that becomes several. -/
theorem smallRuns_miss_expansions {run : CaseRun} (hrun : run ∈ smallRuns)
    {e : Nat × List Nat} (he : e ∈ upperExpansions) : run.misses (CaseRun.lone e.1) := by
  have hall : (smallRuns.all fun run =>
      upperExpansions.all fun e => run.misses (CaseRun.lone e.1)) := by decide +kernel
  exact List.all_eq_true.1 (List.all_eq_true.1 hall run hrun) e he

/-- The characters that others expand to are in upper case, and no
underscores. -/
theorem expansions_settled : ∀ e ∈ upperExpansions, e.2 ≠ [] ∧ ∀ n ∈ e.2,
    upperChar (Char.ofNat n) = [Char.ofNat n] ∧ Char.ofNat n ≠ '_' := by
  decide +kernel

/-- What a run of small letters becomes is a character with that code
point. -/
theorem toNat_ofNat_image_small {run : CaseRun} {n : Nat} (hrun : run ∈ smallRuns)
    (h : run.holds n) : (Char.ofNat (run.image n)).toNat = run.image n := by
  obtain ⟨hlast, havoid⟩ := smallRuns_avoid run hrun
  exact CaseRun.toNat_ofNat_image hlast (havoid CaseRun.surrogates (by simp [smallLimits])) h

/-- It is no underscore and no small ASCII letter. -/
theorem image_small {run : CaseRun} {n : Nat} (hrun : run ∈ smallRuns) (h : run.holds n) :
    run.image n < 0x5F ∨ 0x80 ≤ run.image n := by
  have havoid := (smallRuns_avoid run hrun).2 (0x5F, 0x7F) (by simp [smallLimits])
  have hlimits := (CaseRun.outside_of_avoids havoid h).2
  dsimp only at hlimits
  omega

theorem upperChar_of_ascii {c : Char} (h : c.toNat < 0x80) : upperChar c = [c.toUpper] :=
  if_pos h

/-- A character below the small letters has no upper case but itself. -/
theorem upperChar_of_toNat_lt {c : Char} (h : c.toNat < 0x5F) : upperChar c = [c] := by
  rw [upperChar_of_ascii (by omega)]
  rcases toUpper_eq_or_small c with heq | ⟨i, rfl⟩
  · rw [heq]
  · exact absurd h ((by decide : ∀ i, ¬ (small i).toNat < 0x5F) i)

/-- **What a run of small letters becomes has no upper case but itself.** -/
theorem upperChar_image {run : CaseRun} {n : Nat} (hrun : run ∈ smallRuns) (h : run.holds n) :
    upperChar (Char.ofNat (run.image n)) = [Char.ofNat (run.image n)] := by
  have hcode := toNat_ofNat_image_small hrun h
  rcases image_small hrun h with hlow | hhigh
  · exact upperChar_of_toNat_lt (by omega)
  · have hnone : upperExpansions.lookup (run.image n) = none := by
      rw [List.lookup_eq_none_iff]
      intro e he
      rw [bne_iff_ne]
      intro heq
      have hmiss := CaseRun.holds_image_of_misses (smallRuns_miss_expansions hrun he) h
      rw [heq, CaseRun.holds_lone] at hmiss
      cases hmiss
    rw [upperChar, hcode, if_neg (by omega), hnone]
    dsimp only
    rw [CaseRun.apply_image (fun other hother => smallRuns_miss hrun hother) hcode h]

/-! ## Single characters -/

/-- **The ways to upper-case a character.** -/
theorem upperChar_cases (c : Char) :
    (c.toNat < 0x80 ∧ upperChar c = [c.toUpper]) ∨
      (∃ e ∈ upperExpansions, upperChar c = e.2.map Char.ofNat) ∨ upperChar c = [c] ∨
      ∃ run ∈ smallRuns, run.holds c.toNat ∧
        upperChar c = [Char.ofNat (run.image c.toNat)] := by
  by_cases hascii : c.toNat < 0x80
  · exact .inl ⟨hascii, upperChar_of_ascii hascii⟩
  · rw [upperChar, if_neg hascii]
    cases hlookup : upperExpansions.lookup c.toNat with
    | some codes =>
      obtain ⟨before, after, hmem, -⟩ := List.lookup_eq_some_iff.1 hlookup
      exact .inr (.inl ⟨(c.toNat, codes), by simp [hmem], rfl⟩)
    | none =>
      rcases CaseRun.apply_cases smallRuns c with happly | ⟨run, hrun, hholds, happly⟩
      · exact .inr (.inr (.inl (by simp [happly])))
      · exact .inr (.inr (.inr ⟨run, hrun, hholds, by simp [happly]⟩))

/-- **Upper-casing a character leaves nothing to upper-case.** -/
theorem upperChar_of_mem {c d : Char} (h : d ∈ upperChar c) : upperChar d = [d] := by
  rcases upperChar_cases c with ⟨hascii, heq⟩ | ⟨e, he, heq⟩ | heq | ⟨run, hrun, hholds, heq⟩
  · obtain rfl : d = c.toUpper := by simpa [heq] using h
    rcases toUpper_eq_or_small c with hsame | ⟨i, rfl⟩
    · rw [hsame, heq, hsame]
    · exact (by decide : ∀ i, upperChar (small i).toUpper = [(small i).toUpper]) i
  · rw [heq] at h
    obtain ⟨n, hn, rfl⟩ := List.mem_map.1 h
    exact ((expansions_settled e he).2 n hn).1
  · obtain rfl : d = c := by simpa [heq] using h
    exact heq
  · obtain rfl : d = Char.ofNat (run.image c.toNat) := by simpa [heq] using h
    exact upperChar_image hrun hholds

/-- **Only an underscore becomes one.** -/
theorem eq_underscore_of_mem_upperChar {c : Char} (h : '_' ∈ upperChar c) : c = '_' := by
  rcases upperChar_cases c with ⟨-, heq⟩ | ⟨e, he, heq⟩ | heq | ⟨run, hrun, hholds, heq⟩
  · have hupper : c.toUpper = '_' := by simpa [heq, eq_comm] using h
    rcases toUpper_eq_or_small c with hsame | ⟨i, rfl⟩
    · rw [← hsame, hupper]
    · exact absurd hupper ((by decide : ∀ i, (small i).toUpper ≠ '_') i)
  · rw [heq] at h
    obtain ⟨n, hn, hcode⟩ := List.mem_map.1 h
    exact absurd hcode ((expansions_settled e he).2 n hn).2
  · simpa [heq, eq_comm] using h
  · have himage : Char.ofNat (run.image c.toNat) = '_' := by simpa [heq, eq_comm] using h
    have hcode := toNat_ofNat_image_small hrun hholds
    have hnot := image_small hrun hholds
    rw [himage] at hcode
    have hunder : '_'.toNat = 0x5F := rfl
    omega

theorem upperChar_ne_nil (c : Char) : upperChar c ≠ [] := by
  rcases upperChar_cases c with ⟨-, heq⟩ | ⟨e, he, heq⟩ | heq | ⟨run, -, -, heq⟩
  · simp [heq]
  · simpa [heq] using (expansions_settled e he).1
  · simp [heq]
  · simp [heq]

/-! ## Texts -/

theorem upper_eq_self {cs : List Char} (h : ∀ c ∈ cs, upperChar c = [c]) : upper cs = cs :=
  (List.flatMap_congr h).trans (List.flatMap_singleton' cs)

/-- **An upper-cased text is its own upper case.** -/
theorem upper_upper (cs : List Char) : upper (upper cs) = upper cs := by
  refine upper_eq_self fun d hd => ?_
  obtain ⟨c, -, hd⟩ := List.mem_flatMap.1 hd
  exact upperChar_of_mem hd

theorem underscore_not_mem_upper {cs : List Char} (h : '_' ∉ cs) : '_' ∉ upper cs := by
  intro hmem
  obtain ⟨c, hc, hupper⟩ := List.mem_flatMap.1 hmem
  rw [eq_underscore_of_mem_upperChar hupper] at hc
  exact h hc

theorem smallLetters_upperChar {c : Char} (h : c.toNat < 0x80) :
    smallLetters (upperChar c) = [c.toLower] := by
  rw [upperChar_of_ascii h, smallLetters_cons, toLower_toUpper, smallLetters_nil]

/-- Upper-casing an ASCII text changes the case of its letters alone. -/
theorem smallLetters_upper {cs : List Char} (h : ∀ c ∈ cs, c.toNat < 0x80) :
    smallLetters (upper cs) = smallLetters cs := by
  induction cs with
  | nil => rfl
  | cons c cs ih =>
    have hrest := ih fun d hd => h d (List.mem_cons_of_mem _ hd)
    rw [upper, List.flatMap_cons, smallLetters_append, ← upper, hrest,
      smallLetters_upperChar (h c List.mem_cons_self), List.singleton_append, smallLetters_cons]

end Text

end TableStruct
