import TableStruct.Name.Abbreviations
import TableStruct.Proofs.Text.Blank
import TableStruct.Proofs.Text.LowerCase
import TableStruct.Proofs.Text.Ordered

/-!
# Sets of abbreviations

A set of abbreviations is made by adding words, one or several at a time.
Each word is kept trimmed and in lower case, and what is kept is a word that
would be kept as it is (`isKept_normalize`): lower-casing brings no blank to
the ends, and done again it changes nothing. Whether a segment is an
abbreviation depends on which words were given, up to blanks around them and
case, and on nothing else; so sets of the same words are one set, in whatever
order and however often they were added (`words_addAll`).
-/

namespace TableStruct

namespace Abbreviations

open Text

variable {a : Abbreviations} {word w x : String} {ws : List String}

/-! ## Words as they are kept -/

/-- A word that can stand in a set. -/
structure IsKept (w : String) : Prop where
  /-- There is something of it. -/
  filled : w ≠ ""
  /-- It does not begin in a blank. -/
  opening : ∀ c, w.toList.head? = some c → isBlank c = false
  /-- It does not end in a blank. -/
  ending : ∀ c, w.toList.getLast? = some c → isBlank c = false
  /-- It is its own lower case. -/
  small : lowerCase w = w

/-- Nothing is left of blank words, and only of them. -/
theorem normalize_eq_empty : normalize word = "" ↔ trimmed word = "" :=
  lowerCase_eq_empty

/-- **What is left of a word can stand in a set.** -/
theorem isKept_normalize (h : normalize word ≠ "") : IsKept (normalize word) := by
  have hlist : (normalize word).toList = lower (trim word.toList) := by
    rw [normalize, lowerCase, trimmed, String.toList_ofList, String.toList_ofList]
  refine ⟨h, fun c hc => ?_, fun c hc => ?_, lowerCase_lowerCase _⟩
  · rw [hlist] at hc
    exact isBlank_of_head?_lowerAfter (fun d => isBlank_of_head?_trim) hc
  · rw [hlist] at hc
    exact isBlank_of_getLast?_lowerAfter (fun d => isBlank_of_getLast?_trim) hc

/-! ## One word and several -/

theorem insert_of_blank (h : normalize word = "") : a.insert word = a := by
  rw [insert, if_pos h]

theorem words_insert_of_filled (h : normalize word ≠ "") :
    (a.insert word).words = insertWord (normalize word) a.words := by
  rw [insert, if_neg h]

theorem mem_words_insert :
    w ∈ (a.insert word).words ↔ normalize word = w ∧ w ≠ "" ∨ w ∈ a.words := by
  by_cases hblank : normalize word = ""
  · rw [insert_of_blank hblank]
    refine ⟨.inr, fun h => h.resolve_left ?_⟩
    rintro ⟨rfl, hne⟩
    exact hne hblank
  · rw [words_insert_of_filled hblank, mem_insertWord]
    refine or_congr_left ⟨?_, fun h => h.1.symm⟩
    rintro rfl
    exact ⟨rfl, hblank⟩

theorem mem_words_insertAll :
    w ∈ (a.insertAll ws).words ↔ (∃ word ∈ ws, normalize word = w) ∧ w ≠ "" ∨ w ∈ a.words := by
  rw [insertAll]
  induction ws generalizing a with
  | nil => simp
  | cons word ws ih =>
    rw [List.foldl_cons, ih, mem_words_insert, List.exists_mem_cons_iff, or_and_right,
      or_left_comm, or_assoc]

/-- A set of words that can stand in it, in order. -/
structure WellFormed (a : Abbreviations) : Prop where
  /-- The words increase. -/
  increasing : Increasing a.words
  /-- Each can stand in a set. -/
  kept : ∀ w ∈ a.words, IsKept w

namespace WellFormed

theorem empty : Abbreviations.empty.WellFormed :=
  ⟨List.Pairwise.nil, fun _ hw => by cases hw⟩

theorem insert (h : a.WellFormed) (word : String) : (a.insert word).WellFormed := by
  refine ⟨?_, fun w hw => ?_⟩
  · by_cases hblank : normalize word = ""
    · rw [insert_of_blank hblank]
      exact h.increasing
    · rw [words_insert_of_filled hblank]
      exact h.increasing.insertWord _
  · rcases mem_words_insert.1 hw with ⟨rfl, hne⟩ | hw
    · exact isKept_normalize hne
    · exact h.kept w hw

theorem insertAll (h : a.WellFormed) (ws : List String) : (a.insertAll ws).WellFormed := by
  rw [Abbreviations.insertAll]
  induction ws generalizing a with
  | nil => exact h
  | cons word ws ih =>
    rw [List.foldl_cons]
    exact ih (h.insert word)

end WellFormed

/-- **A segment is an abbreviation if a word is**, trimmed and up to case. -/
theorem contains_insertAll_empty : (empty.insertAll ws).contains x ↔
    ∃ word ∈ ws, trimmed word ≠ "" ∧ lowerCase (trimmed word) = lowerCase x := by
  rw [contains, List.contains_iff_mem, mem_words_insertAll]
  constructor
  · rintro (⟨⟨word, hword, heq⟩, hne⟩ | hnone)
    · exact ⟨word, hword, fun hblank => hne (heq ▸ normalize_eq_empty.2 hblank), heq⟩
    · exact absurd hnone List.not_mem_nil
  · rintro ⟨word, hword, hne, heq⟩
    exact .inl ⟨⟨word, hword, heq⟩, fun hempty => hne (normalize_eq_empty.1 (heq.trans hempty))⟩

/-! ## Any number of additions -/

/-- What is added to a set at a time. -/
inductive Addition where
  /-- One word. -/
  | insert (word : String)
  /-- One word, while the set is put together. -/
  | including (word : String)
  /-- Several words. -/
  | extend (words : List String)
  deriving DecidableEq, Repr

namespace Addition

/-- The words of an addition, as they are given. -/
def words : Addition → List String
  | insert word | including word => [word]
  | extend words => words

end Addition

/-- The set after an addition. -/
def add (a : Abbreviations) : Addition → Abbreviations
  | .insert word | .including word => a.insert word
  | .extend words => a.insertAll words

/-- The set after one addition after the other. -/
def addAll (a : Abbreviations) (additions : List Addition) : Abbreviations :=
  additions.foldl add a

/-- The words of some additions, as they are given. -/
def given (additions : List Addition) : List String :=
  additions.flatMap Addition.words

theorem add_eq (a : Abbreviations) (addition : Addition) :
    a.add addition = a.insertAll addition.words := by
  cases addition with
  | insert word => rw [add, Addition.words, insertAll, List.foldl_cons, List.foldl_nil]
  | including word => rw [add, Addition.words, insertAll, List.foldl_cons, List.foldl_nil]
  | extend ws => rw [add, Addition.words]

/-- **Additions are words, one after the other.** -/
theorem addAll_eq (a : Abbreviations) (additions : List Addition) :
    a.addAll additions = a.insertAll (given additions) := by
  rw [addAll, insertAll, given, List.foldl_flatMap]
  congr 1
  funext a addition
  exact add_eq a addition

/-- **Sets of the same words are one set.** -/
theorem insertAll_congr {others : List String} (h : a.WellFormed)
    (hsame : ∀ word, word ∈ ws ↔ word ∈ others) : a.insertAll ws = a.insertAll others := by
  have hwords : (a.insertAll ws).words = (a.insertAll others).words := by
    refine (h.insertAll ws).increasing.ext (h.insertAll others).increasing fun w => ?_
    simp only [mem_words_insertAll, hsame]
  exact congrArg mk hwords

/-- **What is in a set of abbreviations.** From the empty set or the standard
one, any additions leave words in order that are trimmed, in lower case and
not blank. A segment is one of them, up to case, exactly if it is a word that
was given, up to case and the blanks around it. The same words given in
another way leave the same set. -/
theorem words_addAll {start : Abbreviations} {first : List String}
    (hstart : (start, first) ∈ [(empty, []), (standard, ["id"])]) (additions : List Addition) :
    Increasing (start.addAll additions).words ∧
    (∀ w ∈ (start.addAll additions).words, IsKept w) ∧
    (∀ x, (start.addAll additions).contains x ↔ ∃ word ∈ first ++ given additions,
      trimmed word ≠ "" ∧ lowerCase (trimmed word) = lowerCase x) ∧
    ∀ others, (∀ word, word ∈ given others ↔ word ∈ given additions) →
      start.addAll others = start.addAll additions := by
  have hfirst : start = empty.insertAll first := by
    simp only [List.mem_cons, List.not_mem_nil, or_false, Prod.mk.injEq] at hstart
    rcases hstart with ⟨rfl, rfl⟩ | ⟨rfl, rfl⟩
    · rw [insertAll, List.foldl_nil]
    · rw [standard, insertAll, List.foldl_cons, List.foldl_nil]
  have hwell : start.WellFormed := hfirst ▸ WellFormed.empty.insertAll first
  have hafter : (start.addAll additions).WellFormed :=
    addAll_eq start additions ▸ hwell.insertAll _
  have hall : start.addAll additions = empty.insertAll (first ++ given additions) := by
    rw [addAll_eq, hfirst, insertAll, insertAll, insertAll, List.foldl_append]
  refine ⟨hafter.increasing, hafter.kept, fun x => ?_, fun others hsame => ?_⟩
  · rw [hall]
    exact contains_insertAll_empty
  · rw [addAll_eq, addAll_eq]
    exact insertAll_congr hwell hsame

/-- Words with blanks and capitals, one of them blank and one given twice. -/
def streetAdditions : List Addition :=
  [.insert " URL\t", .extend ["ΟΔΟΣ", " ", "url"], .including "No"]

/-- The same words the other way around. -/
def reversedAdditions : List Addition :=
  [.extend ["No", "url"], .insert "ΟΔΟΣ", .extend [" ", " URL\t"]]

/-- The capital sigma at the end of a word is kept as a final one, and found
as that. -/
theorem words_addAll_streets : (standard, ["id"]) ∈ [(empty, []), (standard, ["id"])] ∧
    (standard.addAll streetAdditions).words = ["id", "no", "url", "οδος"] ∧
    (standard.addAll streetAdditions).contains "ΟδοΣ" ∧
    ¬ (standard.addAll streetAdditions).contains "ΟδοΣα" ∧
    standard.addAll reversedAdditions = standard.addAll streetAdditions := by
  have hstart : (standard, ["id"]) ∈ [(empty, []), (standard, ["id"])] :=
    List.mem_cons_of_mem _ List.mem_cons_self
  obtain ⟨-, -, hcontains, hsame⟩ := words_addAll hstart streetAdditions
  refine ⟨hstart, by decide +kernel, (hcontains _).2 ⟨"ΟΔΟΣ", ?_, ?_⟩, fun hmem => ?_, ?_⟩
  · decide
  · decide +kernel
  · exact absurd ((hcontains _).1 hmem) (by decide +kernel)
  · refine hsame reversedAdditions fun word => ?_
    have hgiven : (given reversedAdditions).Perm (given streetAdditions) := by decide
    exact hgiven.mem_iff

end Abbreviations

end TableStruct
