import TableStruct.Proofs.Statement.Comments
import TableStruct.Proofs.Text.Letters
import Mathlib.Data.List.Forall2

/-!
# Statements whatever the case of their letters

Where a source text is cut, what is blank, and where a comment begins and
ends depend on no letter, and a statement is known by its first word in any
case. So the statements of a source text in small letters are its statements
in small letters (`statements_smallLetters`), and source texts equal up to
case have statements equal up to case, one by one (`forall₂_ofSource`).
-/

namespace TableStruct

namespace Statement

open Text

theorem trimStart_smallLetters (cs : List Char) :
    trimStart (smallLetters cs) = smallLetters (trimStart cs) :=
  dropWhile_smallLetters isBlank_toLower cs

theorem trimEnd_smallLetters (cs : List Char) :
    trimEnd (smallLetters cs) = smallLetters (trimEnd cs) := by
  induction cs with
  | nil => rfl
  | cons c cs ih =>
    rw [smallLetters_cons]
    by_cases hnil : trimEnd cs = []
    · have hnil' : trimEnd (smallLetters cs) = [] := by rw [ih, hnil]; rfl
      rw [trimEnd_cons_of_nil hnil, trimEnd_cons_of_nil hnil', isBlank_toLower]
      split <;> rfl
    · have hne : trimEnd (smallLetters cs) ≠ [] := by
        rw [ih]
        simpa [smallLetters] using hnil
      rw [trimEnd_cons_of_ne_nil hnil, trimEnd_cons_of_ne_nil hne, ih, smallLetters_cons]

/-! ## Comments -/

theorem afterLine_smallLetters (cs : List Char) :
    afterLine (smallLetters cs) = smallLetters (afterLine cs) := by
  induction cs with
  | nil => rfl
  | cons c cs ih =>
    have hc : c.toLower = '\n' ↔ c = '\n' := toLower_eq_iff (by decide) c
    rw [smallLetters_cons, afterLine, afterLine]
    simp only [hc]
    split
    · rfl
    · exact ih

theorem afterBlock_smallLetters (cs : List Char) :
    afterBlock (smallLetters cs) = smallLetters (afterBlock cs) := by
  fun_induction afterBlock cs with
  | case1 cs => rfl
  | case2 c cs hnot ih =>
    rw [smallLetters_cons, ← ih]
    refine afterBlock_cons ?_
    rintro ⟨hstar, hslash⟩
    rw [toLower_eq_iff (by decide)] at hstar
    cases cs with
    | nil => cases hslash
    | cons d cs =>
      rw [smallLetters_cons, List.head?_cons, Option.some.injEq, toLower_eq_iff (by decide)]
        at hslash
      exact hnot cs hstar (congrArg (· :: cs) hslash)
  | case3 => rfl

/-- A text in small letters begins as the text does, if no letter stands
there. -/
theorem exists_of_smallLetters_eq {cs rest : List Char} {x y : Char}
    (hx : ∀ i, (capital i).toLower ≠ x ∧ capital i ≠ x)
    (hy : ∀ i, (capital i).toLower ≠ y ∧ capital i ≠ y)
    (h : smallLetters cs = x :: y :: rest) : ∃ rest, cs = x :: y :: rest := by
  match cs with
  | [] => cases h
  | [c] => cases h
  | c :: d :: cs =>
    simp only [smallLetters_cons, List.cons.injEq, toLower_eq_iff hx, toLower_eq_iff hy] at h
    exact ⟨cs, by rw [h.1, h.2.1]⟩

theorem dropComments_smallLetters (cs : List Char) :
    dropComments (smallLetters cs) = smallLetters (dropComments cs) := by
  fun_induction dropComments cs with
  | case1 cs ih =>
    have hline : smallLetters ('-' :: '-' :: cs) = '-' :: '-' :: smallLetters cs := rfl
    rw [hline, dropComments, afterLine_smallLetters, trimStart_smallLetters, ih]
  | case2 cs ih =>
    have hblock : smallLetters ('/' :: '*' :: cs) = '/' :: '*' :: smallLetters cs := rfl
    rw [hblock, dropComments, afterBlock_smallLetters, trimStart_smallLetters, ih]
  | case3 cs hline hblock =>
    refine dropComments_of_head ?_ ?_
    · intro rest h
      obtain ⟨rest, rfl⟩ := exists_of_smallLetters_eq (by decide) (by decide) h
      exact hline _ rfl
    · intro rest h
      obtain ⟨rest, rfl⟩ := exists_of_smallLetters_eq (by decide) (by decide) h
      exact hblock _ rfl

/-! ## Source texts -/

theorem body_smallLetters (fragment : List Char) :
    body (smallLetters fragment) = smallLetters (body fragment) := by
  rw [body, trim, trimStart_smallLetters, trimEnd_smallLetters, dropComments_smallLetters]
  rfl

/-- A statement is one in any case. -/
theorem isCreate_smallLetters (cs : List Char) : isCreate (smallLetters cs) = isCreate cs := by
  have htwice : ∀ c : Char, c.toLower.toLower = c.toLower := blind_toLower (by decide)
  have htake : (smallLetters cs).take 6 = smallLetters (cs.take 6) := List.map_take.symm
  rw [isCreate, isCreate, htake, sameLetters, sameLetters, smallLetters, List.map_map]
  congr 2
  exact funext htwice

theorem splitOn_smallLetters (cs : List Char) :
    (smallLetters cs).splitOn ';' = (cs.splitOn ';').map smallLetters := by
  induction cs with
  | nil => rfl
  | cons c cs ih =>
    have hc : c.toLower = ';' ↔ c = ';' := toLower_eq_iff (by decide) c
    obtain ⟨fragment, rest, hsplit⟩ := List.exists_cons_of_ne_nil (List.splitOn_ne_nil ';' cs)
    rw [smallLetters_cons, List.splitOn_cons_eq_if_modifyHead, List.splitOn_cons_eq_if_modifyHead,
      ih, hsplit]
    simp only [beq_iff_eq, hc]
    split
    · rfl
    · rfl

/-- **The statements of a source text in small letters** are its statements
in small letters. -/
theorem statements_smallLetters (cs : List Char) :
    statements (smallLetters cs) = (statements cs).map smallLetters := by
  have hbody : body ∘ smallLetters = smallLetters ∘ body := funext body_smallLetters
  have hcreate : isCreate ∘ smallLetters = isCreate := funext isCreate_smallLetters
  rw [statements, statements, splitOn_smallLetters, List.map_map, hbody, ← List.map_map,
    List.filter_map, hcreate]

/-- **Source texts that are equal up to case have statements that are**, as
many and one by one. -/
theorem forall₂_ofSource {a b : String} (h : sameLetters a.toList b.toList) :
    List.Forall₂ (fun x y : String => sameLetters x.toList y.toList) (ofSource a) (ofSource b) := by
  have hmap : (statements a.toList).map smallLetters = (statements b.toList).map smallLetters := by
    rw [← statements_smallLetters, sameLetters_iff_smallLetters.1 h, statements_smallLetters]
  have hsmall : List.Forall₂ (· = ·) ((statements a.toList).map smallLetters)
      ((statements b.toList).map smallLetters) := by
    rw [hmap, List.forall₂_same]
    exact fun _ _ => rfl
  rw [List.forall₂_map_left_iff, List.forall₂_map_right_iff] at hsmall
  rw [ofSource_eq, ofSource_eq, List.forall₂_map_left_iff, List.forall₂_map_right_iff]
  simp only [String.toList_ofList, sameLetters_iff_smallLetters]
  exact hsmall

end Statement

end TableStruct
