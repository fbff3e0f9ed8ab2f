/-!
# Blank characters

Blank is the `White_Space` property: the ASCII controls from tab to
carriage return, the space, and the spaces of other scripts. The
zero-width space, the byte-order mark and the information separators are
not blank. Trimming removes blank characters from the ends of a text and
nothing else.
-/

namespace TableStruct

namespace Text

/-- Characters of the `White_Space` property. -/
def isBlank (c : Char) : Bool :=
  let n := c.toNat
  (0x09 ≤ n && n ≤ 0x0D) || n == 0x20 || n == 0x85 || n == 0xA0 || n == 0x1680 ||
    (0x2000 ≤ n && n ≤ 0x200A) || n == 0x2028 || n == 0x2029 || n == 0x202F || n == 0x205F ||
    n == 0x3000

/-- Drops the blank characters at the front. -/
def trimStart (cs : List Char) : List Char :=
  cs.dropWhile isBlank

/-- Drops the blank characters at the end. -/
def trimEnd : List Char → List Char
  | [] => []
  | c :: cs =>
    match trimEnd cs with
    | [] => if isBlank c then [] else [c]
    | rest => c :: rest

/-- Drops the blank characters at both ends. -/
def trim (cs : List Char) : List Char :=
  trimEnd (trimStart cs)

/-- A character that is not blank stays, and with it what stands before. -/
theorem trimEnd_cons_of_not_blank {c : Char} (h : isBlank c = false) (cs : List Char) :
    trimEnd (c :: cs) = c :: trimEnd cs := by
  rw [trimEnd]
  split
  · next hnil => simp [h, hnil]
  · rfl

theorem trimEnd_cons_of_ne_nil {c : Char} {cs : List Char} (h : trimEnd cs ≠ []) :
    trimEnd (c :: cs) = c :: trimEnd cs := by
  rw [trimEnd]
  split
  · next hnil => exact absurd hnil h
  · rfl

/-- What stands before nothing but blanks is trimmed alone. -/
theorem trimEnd_cons_of_nil {c : Char} {cs : List Char} (h : trimEnd cs = []) :
    trimEnd (c :: cs) = if isBlank c then [] else [c] := by
  rw [trimEnd, h]

/-- **The two ends are trimmed in any order.** -/
theorem trimEnd_trimStart (cs : List Char) : trimEnd (trimStart cs) = trimStart (trimEnd cs) := by
  induction cs with
  | nil => rfl
  | cons c cs ih =>
    by_cases hc : isBlank c
    · have hskip : ∀ rest, trimStart (c :: rest) = trimStart rest := fun rest => by
        simp [trimStart, hc]
      by_cases hnil : trimEnd cs = []
      · rw [hskip, ih, hnil, trimEnd_cons_of_nil hnil, if_pos hc]
      · rw [hskip, ih, trimEnd_cons_of_ne_nil hnil, hskip]
    · have hkeep : ∀ rest, trimStart (c :: rest) = c :: rest := fun rest => by
        simp [trimStart, hc]
      have hend : ∀ rest, trimEnd (c :: rest) = c :: trimEnd rest :=
        trimEnd_cons_of_not_blank (by simpa using hc)
      rw [hkeep, hend, hkeep]

/-- **A front trim leaves no blank at the front.** -/
theorem isBlank_of_trimStart {cs rest : List Char} {c : Char} (h : trimStart cs = c :: rest) :
    isBlank c = false := by
  have := List.head?_dropWhile_not isBlank cs
  rw [trimStart] at h
  simpa [h] using this

/-- What a trim of the end drops is blank. -/
theorem exists_append_of_trimEnd (cs : List Char) :
    ∃ blanks, cs = trimEnd cs ++ blanks ∧ blanks.all isBlank := by
  induction cs with
  | nil => exact ⟨[], rfl, rfl⟩
  | cons c cs ih =>
    obtain ⟨blanks, heq, hall⟩ := ih
    rw [trimEnd]
    split
    · next hnil =>
      rw [hnil, List.nil_append] at heq
      by_cases hc : isBlank c
      · exact ⟨c :: cs, by simp [hc], by rw [heq]; simp [hc, hall]⟩
      · exact ⟨blanks, by simp [hc, heq], hall⟩
    · exact ⟨blanks, by rw [List.cons_append, ← heq], hall⟩

/-- Drops the blank characters at both ends of a string. -/
def trimmed (s : String) : String :=
  String.ofList (trim s.toList)

end Text

end TableStruct
