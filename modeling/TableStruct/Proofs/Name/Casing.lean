import TableStruct.Proofs.Name.Affix
import TableStruct.Proofs.Text.LowerCase
import TableStruct.Proofs.Text.UpperCase

/-!
# Names in Pascal case

Of two names with an underscore between them each is cased on its own
(`pascal_joined`). So a name of any number of segments is cased segment by
segment, wherever underscores stand in it (`pascalCase_intercalate`), and
what holds of a segment and is kept by joining holds of every name
(`name_induction`).

In this way a name in Pascal case is seen to be a single segment that begins
in upper case. Cased again it stays as it is, but for a word of the set that
two segments have made by accident (`pascalCase_pascalCase`). A set of which
no word has more than two letters has no such accidents in ASCII
(`upper_pascal_of_contains`), and the standard one is such a set.
-/

namespace TableStruct

namespace Abbreviations

open Text

variable {a : Abbreviations} {cs : List Char}

/-! ## Names and their segments -/

/-- The characters of a name in Pascal case. -/
def pascal (a : Abbreviations) (cs : List Char) : List Char :=
  (cs.splitOn '_').flatMap a.pascalSegment

@[simp] theorem toList_pascalCase (a : Abbreviations) (raw : String) :
    (a.pascalCase raw).toList = a.pascal raw.toList :=
  String.toList_ofList

theorem pascal_of_segment (a : Abbreviations) (h : '_' ∉ cs) :
    a.pascal cs = a.pascalSegment cs := by
  rw [pascal, List.splitOn_eq_singleton h, List.flatMap_singleton]

/-- **An underscore joins what is cased on its own.** -/
theorem pascal_joined (a : Abbreviations) (xs ys : List Char) :
    a.pascal (xs ++ '_' :: ys) = a.pascal xs ++ a.pascal ys := by
  rw [pascal, List.splitOn_append_cons_self, List.flatMap_append, pascal, pascal]

@[simp] theorem pascalSegment_nil (a : Abbreviations) : a.pascalSegment [] = [] := by
  unfold pascalSegment
  split
  · rfl
  · rfl

@[simp] theorem pascal_nil (a : Abbreviations) : a.pascal [] = [] := by
  rw [pascal_of_segment a List.not_mem_nil, pascalSegment_nil]

/-- **Names are segments joined by underscores.** What holds of segments and
is kept by joining holds of every name. -/
theorem name_induction {motive : List Char → Prop} (segment : ∀ cs, '_' ∉ cs → motive cs)
    (joined : ∀ xs ys, motive xs → motive ys → motive (xs ++ '_' :: ys)) (cs : List Char) :
    motive cs := by
  induction hlen : cs.length using Nat.strongRecOn generalizing cs with
  | _ n ih =>
    by_cases hmem : '_' ∈ cs
    · obtain ⟨xs, ys, rfl⟩ := List.append_of_mem hmem
      simp only [List.length_append, List.length_cons] at hlen
      exact joined xs ys (ih xs.length (by omega) xs rfl) (ih ys.length (by omega) ys rfl)
    · exact segment cs hmem

/-! ## Underscores -/

/-- A row of underscores. -/
def underscores (n : Nat) : String :=
  String.ofList (List.replicate n '_')

theorem pascal_underscores_append (a : Abbreviations) (n : Nat) (cs : List Char) :
    a.pascal (List.replicate n '_' ++ cs) = a.pascal cs := by
  induction n with
  | zero => rfl
  | succ n ih =>
    have hjoined := pascal_joined a [] (List.replicate n '_' ++ cs)
    rw [pascal_nil, List.nil_append, List.nil_append, ih] at hjoined
    rw [List.replicate_succ, List.cons_append, hjoined]

theorem pascal_append_underscores (a : Abbreviations) (cs : List Char) (n : Nat) :
    a.pascal (cs ++ List.replicate n '_') = a.pascal cs := by
  cases n with
  | zero => rw [List.replicate_zero, List.append_nil]
  | succ n =>
    have hrest := pascal_underscores_append a n []
    rw [List.append_nil, pascal_nil] at hrest
    rw [List.replicate_succ, pascal_joined, hrest, List.append_nil]

theorem pascal_intercalate (a : Abbreviations) (parts : List (List Char)) :
    a.pascal (['_'].intercalate parts) = parts.flatMap a.pascal := by
  induction parts with
  | nil => exact pascal_nil a
  | cons part parts ih =>
    cases parts with
    | nil => rw [List.intercalate_singleton, List.flatMap_singleton]
    | cons next parts =>
      rw [List.intercalate_cons_cons, List.append_assoc, List.singleton_append, pascal_joined, ih]
      rfl

/-- **Casing takes underscores to nothing and what is between them to
itself.** Two names with an underscore between them are cased each on its
own; so underscores at the ends, or several in a row, make no difference, and
in a name of any number of segments each segment is cased as it is alone. -/
theorem pascalCase_intercalate (a : Abbreviations) :
    (∀ x y : String, a.pascalCase (x ++ "_" ++ y) = a.pascalCase x ++ a.pascalCase y) ∧
    (∀ (m n : Nat) (x : String),
      a.pascalCase (underscores m ++ x ++ underscores n) = a.pascalCase x) ∧
    (∀ (n : Nat) (x y : String),
      a.pascalCase (x ++ underscores (n + 1) ++ y) = a.pascalCase (x ++ "_" ++ y)) ∧
    ∀ parts : List String,
      a.pascalCase ("_".intercalate parts) = String.join (parts.map a.pascalCase) := by
  refine ⟨fun x y => ?_, fun m n x => ?_, fun n x y => ?_, fun parts => ?_⟩
  · rw [← String.toList_inj]
    simp [pascal_joined]
  · rw [← String.toList_inj]
    simp [underscores, pascal_underscores_append, pascal_append_underscores]
  · rw [← String.toList_inj]
    simp [underscores, List.replicate_succ, pascal_joined, pascal_underscores_append]
  · rw [← String.toList_inj, String.toList_join, toList_pascalCase, String.toList_intercalate,
      List.flatMap_map]
    simp [pascal_intercalate, List.flatMap_map]

/-! ## One segment, in upper case at the front -/

theorem pascalSegment_of_contains (h : a.contains (String.ofList cs)) :
    a.pascalSegment cs = upper cs :=
  if_pos h

theorem pascalSegment_cons (c : Char) (h : ¬ a.contains (String.ofList (c :: cs))) :
    a.pascalSegment (c :: cs) = upperChar c ++ cs :=
  if_neg h

/-- **The ways to case a segment.** -/
theorem pascalSegment_cases (a : Abbreviations) (cs : List Char) :
    a.pascalSegment cs = upper cs ∨
      ∃ c rest, cs = c :: rest ∧ a.pascalSegment cs = upperChar c ++ rest := by
  by_cases hin : a.contains (String.ofList cs)
  · exact .inl (pascalSegment_of_contains hin)
  · cases cs with
    | nil => exact .inl (pascalSegment_nil a)
    | cons c rest => exact .inr ⟨c, rest, rfl, pascalSegment_cons c hin⟩

/-- Either way its first character is in upper case. -/
theorem exists_pascalSegment_cons (a : Abbreviations) (c : Char) (cs : List Char) :
    ∃ rest, a.pascalSegment (c :: cs) = upperChar c ++ rest := by
  rcases pascalSegment_cases a (c :: cs) with heq | ⟨_, rest, hcons, heq⟩
  · exact ⟨upper cs, heq⟩
  · obtain ⟨rfl, rfl⟩ := List.cons.inj hcons
    exact ⟨cs, heq⟩

/-- **No underscore is left.** -/
theorem underscore_not_mem_pascal (a : Abbreviations) (cs : List Char) : '_' ∉ a.pascal cs := by
  induction cs using name_induction with
  | segment cs hcs =>
    rw [pascal_of_segment a hcs]
    rcases pascalSegment_cases a cs with heq | ⟨c, rest, rfl, heq⟩
    · rw [heq]
      exact underscore_not_mem_upper hcs
    · rw [heq, List.mem_append]
      rintro (hmem | hmem)
      · exact hcs (by simp [eq_underscore_of_mem_upperChar hmem])
      · exact hcs (List.mem_cons_of_mem _ hmem)
  | joined xs ys ihx ihy => simp [pascal_joined, ihx, ihy]

theorem pascalSegment_eq_nil_iff : a.pascalSegment cs = [] ↔ cs = [] := by
  cases cs with
  | nil => simp
  | cons c cs =>
    obtain ⟨rest, heq⟩ := exists_pascalSegment_cons a c cs
    simp [heq, upperChar_ne_nil]

/-- **Nothing is left of underscores**, and only of them. -/
theorem pascal_eq_nil_iff : a.pascal cs = [] ↔ ∀ c ∈ cs, c = '_' := by
  induction cs using name_induction with
  | segment cs hcs =>
    rw [pascal_of_segment a hcs, pascalSegment_eq_nil_iff]
    constructor
    · rintro rfl
      simp
    · intro hall
      exact List.eq_nil_iff_forall_not_mem.2 fun c hc => hcs (hall c hc ▸ hc)
  | joined xs ys ihx ihy =>
    rw [pascal_joined, List.append_eq_nil_iff, ihx, ihy]
    simp only [List.mem_append, List.mem_cons]
    constructor
    · rintro ⟨hx, hy⟩ c (hc | rfl | hc)
      · exact hx c hc
      · rfl
      · exact hy c hc
    · exact fun h => ⟨fun c hc => h c (.inl hc), fun c hc => h c (.inr (.inr hc))⟩

/-- **A cased name begins in upper case.** -/
theorem upperChar_of_head?_pascal {d : Char} (h : (a.pascal cs).head? = some d) :
    upperChar d = [d] := by
  induction cs using name_induction generalizing d with
  | segment cs hcs =>
    rw [pascal_of_segment a hcs] at h
    cases cs with
    | nil => simp at h
    | cons c cs =>
      obtain ⟨rest, heq⟩ := exists_pascalSegment_cons a c cs
      rw [heq, List.head?_append_of_ne_nil _ (upperChar_ne_nil c)] at h
      exact upperChar_of_mem (List.mem_of_head? h)
  | joined xs ys ihx ihy =>
    rw [pascal_joined, List.head?_append, Option.or_eq_some_iff] at h
    rcases h with h | ⟨-, h⟩
    · exact ihx h
    · exact ihy h

/-- **A cased name is cased the same again** if it is no word of the set or
is in capitals, and only then. -/
theorem pascal_pascal_iff : a.pascal (a.pascal cs) = a.pascal cs ↔
    ¬ a.contains (String.ofList (a.pascal cs)) ∨ upper (a.pascal cs) = a.pascal cs := by
  rw [pascal_of_segment a (underscore_not_mem_pascal a cs)]
  by_cases hin : a.contains (String.ofList (a.pascal cs))
  · simp [pascalSegment_of_contains hin, hin]
  · have hsame : a.pascalSegment (a.pascal cs) = a.pascal cs := by
      cases hcased : a.pascal cs with
      | nil => simp
      | cons d rest =>
        have hd : upperChar d = [d] := upperChar_of_head?_pascal (by rw [hcased]; rfl)
        rw [hcased] at hin
        rw [pascalSegment_cons d hin, hd, List.singleton_append]
    simp [hsame, hin]

/-! ## Sets of short words -/

/-- Whether a text is a word of the set is seen whatever the case of its
ASCII letters. -/
theorem contains_of_smallLetters {xs ys : List Char} (h : smallLetters xs = smallLetters ys) :
    a.contains (String.ofList xs) = a.contains (String.ofList ys) := by
  have hlower : lower xs = lower ys := by rw [← lower_smallLetters, h, lower_smallLetters]
  simp only [contains, lowerCase, String.toList_ofList, hlower]

/-- A segment in ASCII changes no more than the case of its letters. -/
theorem smallLetters_pascalSegment (h : ∀ c ∈ cs, c.toNat < 0x80) :
    smallLetters (a.pascalSegment cs) = smallLetters cs := by
  rcases pascalSegment_cases a cs with heq | ⟨c, rest, rfl, heq⟩
  · rw [heq, smallLetters_upper h]
  · rw [heq, smallLetters_append, smallLetters_upperChar (h c List.mem_cons_self),
      List.singleton_append, smallLetters_cons]

theorem length_le_of_contains {n : Nat} (hwords : ∀ w ∈ a.words, w.length ≤ n)
    (h : a.contains (String.ofList cs)) : cs.length ≤ n := by
  have hword := hwords _ (List.contains_iff_mem.1 h)
  rw [lowerCase, String.toList_ofList, String.length_ofList] at hword
  exact Nat.le_trans (length_le_length_lowerAfter [] cs) hword

theorem upper_pascal_of_length (h : (a.pascal cs).length = 1) :
    upper (a.pascal cs) = a.pascal cs := by
  obtain ⟨d, hd⟩ := List.length_eq_one_iff.1 h
  have hfirst : upperChar d = [d] := upperChar_of_head?_pascal (by rw [hd]; rfl)
  rw [hd]
  exact upper_eq_self (by simpa using hfirst)

/-- **No word of two letters is made by accident.** If a name in ASCII, cased,
is in a set of such short words, then either one segment of it is the word
and in capitals already, or it is two segments of one letter each. -/
theorem upper_pascal_of_contains (hwords : ∀ w ∈ a.words, w.length ≤ 2)
    (hascii : ∀ c ∈ cs, c.toNat < 0x80) (hin : a.contains (String.ofList (a.pascal cs))) :
    upper (a.pascal cs) = a.pascal cs := by
  induction cs using name_induction with
  | segment cs hcs =>
    rw [pascal_of_segment a hcs] at hin ⊢
    rw [contains_of_smallLetters (smallLetters_pascalSegment hascii)] at hin
    rw [pascalSegment_of_contains hin, upper_upper]
  | joined xs ys ihx ihy =>
    have hlen := length_le_of_contains hwords hin
    rw [pascal_joined] at hin hlen ⊢
    rw [List.length_append] at hlen
    by_cases hx : a.pascal xs = []
    · rw [hx, List.nil_append] at hin ⊢
      exact ihy (fun c hc => hascii c (by simp [hc])) hin
    · by_cases hy : a.pascal ys = []
      · rw [hy, List.append_nil] at hin ⊢
        exact ihx (fun c hc => hascii c (by simp [hc])) hin
      · have hxlen := List.length_pos_iff.2 hx
        have hylen := List.length_pos_iff.2 hy
        rw [upper_append, upper_pascal_of_length (by omega), upper_pascal_of_length (by omega)]

theorem words_standard : standard.words = ["id"] := by
  decide +kernel

/-- **A name cased twice.** No underscore is left the first time, and nothing
at all of underscores alone. What is left stays the second time exactly if it
is no word of the set or is in capitals throughout; with the standard set, and
a name in ASCII, it always does. -/
theorem pascalCase_pascalCase (a : Abbreviations) (raw : String) :
    '_' ∉ (a.pascalCase raw).toList ∧
    (a.pascalCase raw = "" ↔ ∀ c ∈ raw.toList, c = '_') ∧
    (a.pascalCase (a.pascalCase raw) = a.pascalCase raw ↔
      ¬ a.contains (a.pascalCase raw) ∨
        upper (a.pascalCase raw).toList = (a.pascalCase raw).toList) ∧
    ((∀ c ∈ raw.toList, c.toNat < 0x80) →
      identifier ⟨"", ""⟩ (identifier ⟨"", ""⟩ raw) = identifier ⟨"", ""⟩ raw) := by
  have hidentifier : ∀ name, identifier ⟨"", ""⟩ name = standard.pascalCase name := fun name =>
    congrArg standard.pascalCase (Affix.strip_empty name)
  refine ⟨?_, ?_, ?_, fun hascii => ?_⟩
  · rw [toList_pascalCase]
    exact underscore_not_mem_pascal a _
  · rw [← String.toList_inj, toList_pascalCase]
    exact pascal_eq_nil_iff
  · rw [← String.toList_inj, toList_pascalCase, toList_pascalCase, pascal_pascal_iff]
    rfl
  · rw [hidentifier, hidentifier, ← String.toList_inj, toList_pascalCase, toList_pascalCase,
      pascal_pascal_iff]
    refine Decidable.not_or_of_imp fun hin => ?_
    refine upper_pascal_of_contains (fun w hw => ?_) hascii hin
    rw [words_standard, List.mem_singleton] at hw
    rw [hw]
    decide

/-- Cased with a set that has `userid` in it, `user_id` is `UserID`, which is
that word and would be `USERID` the second time. With the standard set it
stays. -/
theorem pascalCase_pascalCase_userID :
    ((standard.insert "userid").pascalCase "user_id" = "UserID" ∧
      (standard.insert "userid").pascalCase "UserID" ≠ "UserID") ∧
    (∀ c ∈ "user_id".toList, c.toNat < 0x80) ∧
      identifier ⟨"", ""⟩ (identifier ⟨"", ""⟩ "user_id") = identifier ⟨"", ""⟩ "user_id" := by
  have hascii : ∀ c ∈ "user_id".toList, c.toNat < 0x80 := by simp
  have hcased : (standard.insert "userid").pascalCase "user_id" = "UserID" := by decide +kernel
  obtain ⟨-, -, hagain, -⟩ := pascalCase_pascalCase (standard.insert "userid") "user_id"
  refine ⟨⟨hcased, fun hsame => ?_⟩, hascii, (pascalCase_pascalCase standard _).2.2.2 hascii⟩
  rw [hcased] at hagain
  rcases hagain.1 hsame with hnot | hupper
  · exact hnot (by decide +kernel)
  · exact absurd hupper (by decide +kernel)

end Abbreviations

end TableStruct
