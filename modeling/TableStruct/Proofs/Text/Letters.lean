import TableStruct.Text.Ascii
import TableStruct.Text.Blank
import TableStruct.Text.Lower

/-!
# The case of ASCII letters

Of all characters the ASCII mapping changes 26 capitals and no other. What
takes each of these for its small letter does not see the case of letters
at all (`blind_toLower`). Blanks do not, nor do the two properties that the
end of a word depends on, and so neither does the full lower-case mapping
(`lower_smallLetters`), its rule for the capital sigma included.
-/

namespace TableStruct

namespace Text

/-- The ASCII capitals. -/
def capital (i : Fin 26) : Char :=
  Char.ofNat (0x41 + i)

/-- A character is a capital or stays as it is. -/
theorem toLower_eq_or_capital (c : Char) : c.toLower = c ∨ ∃ i, capital i = c := by
  by_cases h : c.val ≥ 'A'.val ∧ c.val ≤ 'Z'.val
  · have hlo : 0x41 ≤ c.toNat := UInt32.le_iff_toNat_le.1 h.1
    have hhi : c.toNat ≤ 0x5A := UInt32.le_iff_toNat_le.1 h.2
    refine .inr ⟨⟨c.toNat - 0x41, by omega⟩, ?_⟩
    rw [capital, Nat.add_sub_cancel' hlo, Char.ofNat_toNat]
  · exact .inl (dif_neg h)

/-- **What takes each capital for its small letter does not see case.** -/
theorem blind_toLower {α : Type} {f : Char → α} (h : ∀ i, f (capital i).toLower = f (capital i))
    (c : Char) : f c.toLower = f c := by
  rcases toLower_eq_or_capital c with heq | ⟨i, rfl⟩
  · rw [heq]
  · exact h i

@[simp] theorem isBlank_toLower (c : Char) : isBlank c.toLower = isBlank c :=
  blind_toLower (by decide) c

@[simp] theorem isCased_toLower (c : Char) : isCased c.toLower = isCased c :=
  blind_toLower (by decide) c

@[simp] theorem isCaseIgnorable_toLower (c : Char) :
    isCaseIgnorable c.toLower = isCaseIgnorable c :=
  blind_toLower (by decide +kernel) c

@[simp] theorem lowerChar_toLower (c : Char) : lowerChar c.toLower = lowerChar c :=
  blind_toLower (by decide) c

/-- A character that is no letter is not the lower case of another one. -/
theorem toLower_eq_iff {x : Char} (h : ∀ i, (capital i).toLower ≠ x ∧ capital i ≠ x) (c : Char) :
    c.toLower = x ↔ c = x := by
  rcases toLower_eq_or_capital c with heq | ⟨i, rfl⟩
  · rw [heq]
  · exact iff_of_false (h i).1 (h i).2

/-- The small ASCII letters. -/
def small (i : Fin 26) : Char :=
  Char.ofNat (0x61 + i)

/-- A character is a small letter or is its own upper case. -/
theorem toUpper_eq_or_small (c : Char) : c.toUpper = c ∨ ∃ i, small i = c := by
  by_cases h : 'a'.val ≤ c.val ∧ c.val ≤ 'z'.val
  · have hlo : 0x61 ≤ c.toNat := UInt32.le_iff_toNat_le.1 h.1
    have hhi : c.toNat ≤ 0x7A := UInt32.le_iff_toNat_le.1 h.2
    refine .inr ⟨⟨c.toNat - 0x61, by omega⟩, ?_⟩
    rw [small, Nat.add_sub_cancel' hlo, Char.ofNat_toNat]
  · exact .inl (dif_neg h)

@[simp] theorem toLower_toUpper (c : Char) : c.toUpper.toLower = c.toLower := by
  rcases toUpper_eq_or_small c with heq | ⟨i, rfl⟩
  · rw [heq]
  · exact (by decide : ∀ i, (small i).toUpper.toLower = (small i).toLower) i

@[simp] theorem toUpper_toUpper (c : Char) : c.toUpper.toUpper = c.toUpper := by
  rcases toUpper_eq_or_small c with heq | ⟨i, rfl⟩
  · rw [heq, heq]
  · exact (by decide : ∀ i, (small i).toUpper.toUpper = (small i).toUpper) i

/-- What is in ASCII capitals stays as it is. -/
@[simp] theorem asciiUpper_asciiUpper (s : String) : asciiUpper (asciiUpper s) = asciiUpper s := by
  rw [asciiUpper, asciiUpper, String.toList_ofList, List.map_map]
  congr 2
  exact funext toUpper_toUpper

/-- A text in small ASCII letters. -/
def smallLetters (cs : List Char) : List Char :=
  cs.map Char.toLower

@[simp] theorem smallLetters_nil : smallLetters [] = [] := rfl

@[simp] theorem smallLetters_cons (c : Char) (cs : List Char) :
    smallLetters (c :: cs) = c.toLower :: smallLetters cs := rfl

@[simp] theorem smallLetters_append (xs ys : List Char) :
    smallLetters (xs ++ ys) = smallLetters xs ++ smallLetters ys :=
  List.map_append

/-- Texts are equal up to case if they are equal in small letters. -/
theorem sameLetters_iff_smallLetters {a b : List Char} :
    sameLetters a b ↔ smallLetters a = smallLetters b :=
  sameLetters_iff

theorem dropWhile_smallLetters {p : Char → Bool} (hp : ∀ c, p c.toLower = p c) (cs : List Char) :
    (smallLetters cs).dropWhile p = smallLetters (cs.dropWhile p) := by
  rw [smallLetters, List.dropWhile_map, smallLetters]
  congr 2
  exact funext hp

/-- **The end of a word is found whatever the case of its letters.** -/
theorem leadsCased_smallLetters (cs : List Char) :
    leadsCased (smallLetters cs) = leadsCased cs := by
  unfold leadsCased
  rw [dropWhile_smallLetters isCaseIgnorable_toLower]
  cases cs.dropWhile isCaseIgnorable with
  | nil => rfl
  | cons c rest => exact isCased_toLower c

theorem lowerAfter_smallLetters (before cs : List Char) :
    lowerAfter (smallLetters before) (smallLetters cs) = lowerAfter before cs := by
  induction cs generalizing before with
  | nil => rfl
  | cons c cs ih =>
    have hsigma : c.toLower = 'Σ' ↔ c = 'Σ' := toLower_eq_iff (by decide) c
    rw [smallLetters_cons, lowerAfter, lowerAfter, leadsCased_smallLetters,
      leadsCased_smallLetters, lowerChar_toLower, ← smallLetters_cons, ih]
    simp only [hsigma]

/-- **Lower-casing does not see the case of ASCII letters.** -/
theorem lower_smallLetters (cs : List Char) : lower (smallLetters cs) = lower cs :=
  lowerAfter_smallLetters [] cs

/-- Texts that are equal up to the case of ASCII letters have one lower
case. -/
theorem lower_eq_of_sameLetters {a b : List Char} (h : sameLetters a b) : lower a = lower b := by
  rw [← lower_smallLetters a, sameLetters_iff_smallLetters.1 h, lower_smallLetters]

end Text

end TableStruct
