import TableStruct.Proofs.Statement.Bodies
import TableStruct.Proofs.Text.Letters
import TableStruct.Proofs.Text.Splitting
import Mathlib.Data.List.Forall2

/-!
# Statements joined again

Whether a text can be a statement of a source text is seen from the text
alone (`IsStatement`): no semicolon is in it, it begins with `create` in any
case, and it does not end in a blank. Every statement of a source text is
such a text. The other way around, texts of this kind that are joined with
semicolons, whatever blanks stand around them, are a source text of just
these statements, since nothing is trimmed off them and none begins with a
comment (`body_padded`). `ofSource_joined` says both, and with them that the
statements of a source text, joined, are cut the same again.
-/

namespace TableStruct

namespace Statement

open Text

/-! ## Texts that are statements -/

/-- The text is a statement of some source text, as far as can be seen from
it. -/
structure IsStatement (s : String) : Prop where
  /-- No semicolon cuts it. -/
  whole : ';' ∉ s.toList
  /-- Its first word is `create`, in any case. -/
  opening : sameLetters (s.toList.take 6) "create".toList
  /-- It does not end in a blank. -/
  ending : ∀ c, s.toList.getLast? = some c → isBlank c = false

/-- The first text stands in the second with nothing but blanks around
it. -/
def PaddedTo (s padded : String) : Prop :=
  ∃ front back : String, (∀ c ∈ front.toList, isBlank c) ∧ (∀ c ∈ back.toList, isBlank c) ∧
    padded = front ++ s ++ back

theorem isStatement_of_mem {source s : String} (h : s ∈ ofSource source) : IsStatement s := by
  rw [ofSource_eq, List.mem_map] at h
  obtain ⟨cs, hcs, rfl⟩ := h
  rw [statements, List.mem_filter, List.mem_map] at hcs
  obtain ⟨⟨fragment, hfragment, rfl⟩, hcreate⟩ := hcs
  refine ⟨?_, ?_, ?_⟩
  · rw [String.toList_ofList]
    exact fun hmem => not_mem_of_mem_splitOn hfragment ((body_isInfix fragment).subset hmem)
  · rwa [String.toList_ofList]
  · rw [String.toList_ofList]
    exact fun c => isBlank_of_getLast?_body

/-- A statement begins with a letter. -/
theorem exists_cons_of_opening {cs : List Char} (h : sameLetters (cs.take 6) "create".toList) :
    ∃ c rest, cs = c :: rest ∧ c.toLower = 'c' := by
  rw [sameLetters_iff] at h
  cases cs with
  | nil => cases h
  | cons c rest => exact ⟨c, rest, rfl, (List.cons.inj h).1⟩

/-- **A statement with blanks around it is read as it is.** -/
theorem body_padded {s padded : String} (hs : IsStatement s) (h : PaddedTo s padded) :
    body padded.toList = s.toList := by
  obtain ⟨front, back, hfront, hback, rfl⟩ := h
  obtain ⟨c, rest, hcons, hc⟩ := exists_cons_of_opening hs.opening
  have hblank : isBlank c = false := by
    rw [← isBlank_toLower, hc]
    decide
  have htrim : trim (front ++ s ++ back).toList = s.toList := by
    rw [String.toList_append, String.toList_append, List.append_assoc]
    refine trim_surrounded hfront hback ?_ hs.ending (by simp [hcons])
    intro d hd
    rw [hcons, List.head?_cons, Option.some.injEq] at hd
    exact hd ▸ hblank
  rw [body, htrim, hcons]
  -- no comment begins with the letter
  refine dropComments_of_head ?_ ?_
  · intro more hmore
    rw [(List.cons.inj hmore).1] at hc
    exact absurd hc (by decide)
  · intro more hmore
    rw [(List.cons.inj hmore).1] at hc
    exact absurd hc (by decide)

theorem semicolon_not_mem_padded {s padded : String} (hs : IsStatement s) (h : PaddedTo s padded) :
    ';' ∉ padded.toList := by
  obtain ⟨front, back, hfront, hback, rfl⟩ := h
  have hblank : ∀ {cs : List Char}, (∀ c ∈ cs, isBlank c) → ';' ∉ cs := fun h hmem =>
    absurd (h ';' hmem) (by decide)
  simp [String.toList_append, hblank hfront, hblank hback, hs.whole]

/-! ## Joining -/

/-- What is joined with semicolons is cut into what was joined. -/
theorem statements_intercalate {fragments : List (List Char)}
    (h : ∀ fragment ∈ fragments, ';' ∉ fragment) :
    statements ([';'].intercalate fragments) = (fragments.map body).filter isCreate := by
  by_cases hnil : fragments = []
  · subst hnil
    have hbody : body [] = [] := dropComments_nil
    rw [List.intercalate_nil, statements_of_not_mem List.not_mem_nil, hbody]
    rfl
  · rw [statements, List.splitOn_intercalate ';' h hnil]

/-- Statements with blanks around each are read as they are. -/
theorem map_body_padded {ss padded : List String} (hss : ∀ s ∈ ss, IsStatement s)
    (h : List.Forall₂ PaddedTo ss padded) :
    (∀ p ∈ padded, ';' ∉ p.toList) ∧
      (padded.map String.toList).map body = ss.map String.toList := by
  induction h with
  | nil => simp
  | cons hp _ ih =>
    obtain ⟨hs, hss⟩ := List.forall_mem_cons.1 hss
    obtain ⟨hwhole, hbody⟩ := ih hss
    refine ⟨List.forall_mem_cons.2 ⟨semicolon_not_mem_padded hs hp, hwhole⟩, ?_⟩
    rw [List.map_cons, List.map_cons, body_padded hs hp, hbody, List.map_cons]

/-- Statements joined with semicolons, with blanks around each, are the
statements of what they are joined to. -/
theorem ofSource_intercalate {ss padded : List String} (hss : ∀ s ∈ ss, IsStatement s)
    (h : List.Forall₂ PaddedTo ss padded) : ofSource (";".intercalate padded) = ss := by
  obtain ⟨hwhole, hbody⟩ := map_body_padded hss h
  have hcreate : ∀ cs ∈ ss.map String.toList, isCreate cs := by
    intro cs hcs
    obtain ⟨s, hs, rfl⟩ := List.mem_map.1 hcs
    exact (hss s hs).opening
  have hsource : (";".intercalate padded).toList = [';'].intercalate (padded.map String.toList) :=
    String.toList_intercalate
  rw [ofSource_eq, hsource, statements_intercalate (by simpa using hwhole), hbody,
    List.filter_eq_self.2 hcreate, List.map_map]
  simp [Function.comp_def]

/-- **Statements are just the texts that look like one, and joining undoes
the cutting.** Each statement of a source text has no semicolon, begins with
`create` and does not end in a blank; texts like that, joined with
semicolons and with any blanks around each, are a source text of just these
statements. So the statements of a source text, joined, have themselves as
statements. -/
theorem ofSource_joined :
    (∀ source, ∀ s ∈ ofSource source, IsStatement s) ∧
    (∀ ss padded : List String, (∀ s ∈ ss, IsStatement s) → List.Forall₂ PaddedTo ss padded →
      ofSource (";".intercalate padded) = ss) ∧
    ∀ source, ofSource (";".intercalate (ofSource source)) = ofSource source := by
  refine ⟨fun _ _ => isStatement_of_mem, fun _ _ => ofSource_intercalate, fun source => ?_⟩
  have hbare : ∀ s : String, PaddedTo s s := fun s => ⟨"", "", by simp, by simp, by simp⟩
  exact ofSource_intercalate (fun _ => isStatement_of_mem)
    (List.forall₂_same.2 fun s _ => hbare s)

/-- Two statements, the second with a comment at its end. -/
def script : List String :=
  ["CREATE TABLE `t` (`a` int)", "Create/* no table */"]

/-- The same with blanks around them. -/
def paddedScript : List String :=
  ["\n CREATE TABLE `t` (`a` int)", "Create/* no table */\u00a0"]

theorem ofSource_joined_script : (∀ s ∈ script, IsStatement s) ∧
    List.Forall₂ PaddedTo script paddedScript ∧
    ofSource (";".intercalate paddedScript) = script ∧
    "Create/* no table */" ∈ ofSource (";".intercalate paddedScript) ∧
    IsStatement "Create/* no table */" := by
  have hscript : ∀ s ∈ script, IsStatement s := by
    have hall : ∀ s ∈ script, ';' ∉ s.toList ∧ sameLetters (s.toList.take 6) "create".toList ∧
        s.toList.getLast?.all fun c => !isBlank c := by decide
    intro s hs
    obtain ⟨hwhole, hopening, hending⟩ := hall s hs
    refine ⟨hwhole, hopening, fun c hc => ?_⟩
    simpa [hc] using hending
  have hpadded : List.Forall₂ PaddedTo script paddedScript :=
    .cons ⟨"\n ", "", List.all_eq_true.1 (by decide), by simp, by decide⟩
      (.cons ⟨"", "\u00a0", by simp, List.all_eq_true.1 (by decide), by decide⟩ .nil)
  have hjoined := ofSource_joined.2.1 script paddedScript hscript hpadded
  have hmem : "Create/* no table */" ∈ ofSource (";".intercalate paddedScript) := by
    rw [hjoined]
    decide
  exact ⟨hscript, hpadded, hjoined, hmem, ofSource_joined.1 _ _ hmem⟩

end Statement

end TableStruct
