import TableStruct.Text.Blank
import Mathlib.Data.List.Basic

/-!
# Texts with their blanks off

What trimming leaves is told from what it is given: nothing at all if there
are only blanks (`trimEnd_eq_nil_iff`), and the text itself if it does not
end in one (`trimEnd_eq_self_iff`). A text in the midst of blanks is trimmed
to itself (`trim_surrounded`).
-/

namespace TableStruct

namespace Text

variable {xs ys : List Char}

/-- What stands before a character that stays is not trimmed. -/
theorem trimEnd_append (xs : List Char) (h : trimEnd ys ≠ []) :
    trimEnd (xs ++ ys) = xs ++ trimEnd ys := by
  induction xs with
  | nil => rfl
  | cons x xs ih =>
    have hne : trimEnd (xs ++ ys) ≠ [] := by simp [ih, h]
    rw [List.cons_append, trimEnd_cons_of_ne_nil hne, ih, List.cons_append]

/-- Blanks at the end do not matter. -/
theorem trimEnd_append_of_nil (xs : List Char) (h : trimEnd ys = []) :
    trimEnd (xs ++ ys) = trimEnd xs := by
  induction xs with
  | nil => exact h
  | cons x xs ih =>
    rw [List.cons_append, trimEnd, ih]
    rfl

theorem trimEnd_of_not_blank (h : ∀ c ∈ xs, isBlank c = false) : trimEnd xs = xs := by
  induction xs with
  | nil => rfl
  | cons x xs ih =>
    rw [trimEnd_cons_of_not_blank (h x List.mem_cons_self),
      ih fun c hc => h c (List.mem_cons_of_mem _ hc)]

theorem trimEnd_replicate (n : Nat) : trimEnd (List.replicate n ' ') = [] := by
  induction n with
  | zero => rfl
  | succ n ih =>
    rw [List.replicate_succ, trimEnd_cons_of_nil ih]
    rfl

/-- Nothing is left of blanks, and only of them. -/
theorem trimEnd_eq_nil_iff : trimEnd xs = [] ↔ ∀ c ∈ xs, isBlank c := by
  induction xs with
  | nil => simp [trimEnd]
  | cons x xs ih =>
    rw [List.forall_mem_cons, ← ih]
    by_cases hx : isBlank x
    · by_cases hnil : trimEnd xs = []
      · simp [trimEnd_cons_of_nil hnil, hx, hnil]
      · simp [trimEnd_cons_of_ne_nil hnil, hnil]
    · rw [trimEnd_cons_of_not_blank (by simpa using hx)]
      simp [hx]

/-- What is left does not end in a blank. -/
theorem isBlank_of_getLast?_trimEnd {c : Char} (h : (trimEnd xs).getLast? = some c) :
    isBlank c = false := by
  induction xs with
  | nil => cases h
  | cons x xs ih =>
    by_cases hnil : trimEnd xs = []
    · rw [trimEnd_cons_of_nil hnil] at h
      split at h
      · cases h
      · next hx =>
        obtain rfl : x = c := by simpa using h
        simpa using hx
    · rw [trimEnd_cons_of_ne_nil hnil, List.getLast?_cons_of_ne_nil hnil] at h
      exact ih h

/-- **A text that does not end in a blank** is trimmed to itself, and no
other. -/
theorem trimEnd_eq_self_iff :
    trimEnd xs = xs ↔ ∀ c, xs.getLast? = some c → isBlank c = false := by
  constructor
  · intro h c hc
    rw [← h] at hc
    exact isBlank_of_getLast?_trimEnd hc
  · intro h
    rcases List.eq_nil_or_concat xs with rfl | ⟨front, c, rfl⟩
    · rfl
    · have hc : isBlank c = false := h c (by simp)
      have hlast : trimEnd [c] = [c] := trimEnd_of_not_blank (by simpa using hc)
      rw [List.concat_eq_append, trimEnd_append front (by simp [hlast]), hlast]

/-- What is left at the front is no blank. -/
theorem isBlank_of_head?_trimStart {c : Char} (h : (trimStart xs).head? = some c) :
    isBlank c = false := by
  obtain ⟨rest, hrest⟩ := List.head?_eq_some_iff.1 h
  exact isBlank_of_trimStart hrest

/-- A text that does not begin in a blank is left as it is at the front. -/
theorem trimStart_eq_self (h : ∀ c, xs.head? = some c → isBlank c = false) :
    trimStart xs = xs := by
  cases xs with
  | nil => rfl
  | cons x xs => exact List.dropWhile_cons_of_neg (by simp [h x rfl])

/-- A trimmed text does not begin in a blank. -/
theorem isBlank_of_head?_trim {c : Char} (h : (trim xs).head? = some c) : isBlank c = false := by
  rw [trim, trimEnd_trimStart] at h
  exact isBlank_of_head?_trimStart h

/-- A trimmed text does not end in a blank. -/
theorem isBlank_of_getLast?_trim {c : Char} (h : (trim xs).getLast? = some c) :
    isBlank c = false :=
  isBlank_of_getLast?_trimEnd h

/-- **Blanks around a text are trimmed**, and nothing of the text, if it
neither begins nor ends in one. -/
theorem trim_surrounded {front back : List Char} (hfront : ∀ c ∈ front, isBlank c)
    (hback : ∀ c ∈ back, isBlank c) (hhead : ∀ c, xs.head? = some c → isBlank c = false)
    (hlast : ∀ c, xs.getLast? = some c → isBlank c = false) (hxs : xs ≠ []) :
    trim (front ++ (xs ++ back)) = xs := by
  obtain ⟨c, rest, rfl⟩ := List.exists_cons_of_ne_nil hxs
  have hc : isBlank c = false := hhead c rfl
  have hstart : trimStart (front ++ (c :: rest ++ back)) = c :: rest ++ back := by
    rw [trimStart, List.dropWhile_append_of_pos hfront, List.cons_append,
      List.dropWhile_cons_of_neg (by simp [hc])]
  rw [trim, hstart, trimEnd_append_of_nil _ (trimEnd_eq_nil_iff.2 hback),
    trimEnd_eq_self_iff.2 hlast]

end Text

end TableStruct
