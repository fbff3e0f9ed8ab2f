import TableStruct.Proofs.GoStruct.Layout

/-!
# The columns of a struct

The fields of a struct stand in columns: a tab, the names, the types and the
tag blocks, with a space between each and the next. Where a column begins
depends on the widest name and the widest type alone and not on the field
(`typeText_prefix_drop_row`, `drop_row_of_tag`). No more room is taken than
that, as some name and some type fill their columns, and blanks are written
to get to the next column and nowhere else (`inColumns`).
-/

namespace TableStruct

namespace GoField

/-- The tag block as it is shown, without the blanks at its end. -/
def shownTag (f : GoField) : List Char :=
  Text.trimEnd f.tagBlock.toList

/-- What is not shown is all the blanks at the end, and nothing else. -/
theorem exists_blanks (f : GoField) : ∃ blanks, f.tagBlock.toList = f.shownTag ++ blanks ∧
    (∀ c ∈ blanks, Text.isBlank c) ∧
    ∀ c, f.shownTag.getLast? = some c → Text.isBlank c = false := by
  obtain ⟨blanks, heq, hall⟩ := Text.exists_append_of_trimEnd f.tagBlock.toList
  exact ⟨blanks, heq, List.all_eq_true.1 hall, fun c => Text.isBlank_of_getLast?_trimEnd⟩

end GoField

namespace Layout

open Text

/-! ## Widths -/

variable {α : Type} {xs : List α}

theorem length_le_width (text : α → List Char) {x : α} (h : x ∈ xs) :
    (text x).length ≤ width (xs.map text) := by
  induction xs with
  | nil => cases h
  | cons y xs ih =>
    have hwidth : width ((y :: xs).map text) = max (text y).length (width (xs.map text)) := rfl
    rcases List.mem_cons.1 h with rfl | h
    · omega
    · have := ih h
      omega

/-- **No column is wider than it must be.** -/
theorem exists_length_eq_width (text : α → List Char) (h : xs ≠ []) :
    ∃ x ∈ xs, (text x).length = width (xs.map text) := by
  induction xs with
  | nil => exact absurd rfl h
  | cons y xs ih =>
    have hwidth : width ((y :: xs).map text) = max (text y).length (width (xs.map text)) := rfl
    by_cases hle : width (xs.map text) ≤ (text y).length
    · exact ⟨y, List.mem_cons_self, by omega⟩
    · have hne : xs ≠ [] := by
        rintro rfl
        exact hle (Nat.zero_le _)
      obtain ⟨x, hx, hlen⟩ := ih hne
      exact ⟨x, List.mem_cons_of_mem _ hx, by omega⟩

theorem length_pad {n : Nat} {cs : List Char} (h : cs.length ≤ n) : (pad n cs).length = n := by
  rw [pad, List.length_append, List.length_replicate]
  omega

/-! ## Rows -/

/-- The row of a field: a tab, the name filled up to its column, and the type.
If there is a tag block to show, the type is filled up too, and the block
follows. -/
def row (nameWidth typeWidth : Nat) (f : GoField) : List Char :=
  '\t' :: (pad nameWidth f.name.toList ++ ' ' ::
    if f.shownTag = [] then f.typeText else pad typeWidth f.typeText ++ ' ' :: f.shownTag)

variable {nameWidth typeWidth : Nat} {f : GoField}

theorem fieldLine_eq_row (nameWidth typeWidth : Nat) (f : GoField) :
    fieldLine nameWidth typeWidth f = row nameWidth typeWidth f :=
  fieldLine_eq nameWidth typeWidth f

/-- **No row ends in a blank.** -/
theorem isBlank_of_getLast?_row {c : Char} (h : (row nameWidth typeWidth f).getLast? = some c) :
    isBlank c = false := by
  rw [← fieldLine_eq_row] at h
  exact isBlank_of_getLast?_trimEnd h

/-- **The type stands in its column.** -/
theorem typeText_prefix_drop_row (hname : f.name.toList.length ≤ nameWidth) :
    f.typeText <+: (row nameWidth typeWidth f).drop (nameWidth + 2) := by
  have hlen : ('\t' :: (pad nameWidth f.name.toList ++ [' '])).length = nameWidth + 2 := by
    simp [length_pad hname]
  have hrow : row nameWidth typeWidth f = ('\t' :: (pad nameWidth f.name.toList ++ [' '])) ++
      if f.shownTag = [] then f.typeText
      else pad typeWidth f.typeText ++ ' ' :: f.shownTag := by
    simp [row]
  rw [hrow, ← hlen, List.drop_left]
  split
  · exact List.prefix_refl _
  · rw [pad, List.append_assoc]
    exact List.prefix_append _ _

/-- **The tag block stands in its column**, if it is shown. -/
theorem drop_row_of_tag (hname : f.name.toList.length ≤ nameWidth)
    (htype : f.typeText.length ≤ typeWidth) (htag : f.shownTag ≠ []) :
    (row nameWidth typeWidth f).drop (nameWidth + typeWidth + 3) = f.shownTag := by
  have hlen : ('\t' :: (pad nameWidth f.name.toList ++ ' ' ::
      (pad typeWidth f.typeText ++ [' ']))).length = nameWidth + typeWidth + 3 := by
    simp only [List.length_cons, List.length_append, length_pad hname, length_pad htype,
      List.length_nil]
    omega
  have hrow : row nameWidth typeWidth f = ('\t' :: (pad nameWidth f.name.toList ++ ' ' ::
      (pad typeWidth f.typeText ++ [' ']))) ++ f.shownTag := by
    simp [row, htag]
  rw [hrow, ← hlen, List.drop_left]

end Layout

namespace GoStruct

open Layout

/-- **The struct is laid out in columns** of the given widths. -/
structure InColumns (s : GoStruct) (nameWidth typeWidth : Nat) : Prop where
  /-- The source text is a header line, a row for each field, and a brace. -/
  source_eq : s.source = "type " ++ s.name ++ " struct \x7b\n" ++
    String.join (s.fields.map fun f => String.ofList (row nameWidth typeWidth f) ++ "\n") ++ "\x7d"
  /-- The columns have room for all names and types. -/
  room : ∀ f ∈ s.fields,
    f.name.toList.length ≤ nameWidth ∧ f.goType.spelling.toList.length ≤ typeWidth
  /-- Some name fills its column, and so does some type. -/
  full : s.fields ≠ [] → (∃ f ∈ s.fields, f.name.toList.length = nameWidth) ∧
    ∃ f ∈ s.fields, f.goType.spelling.toList.length = typeWidth
  /-- What is shown of a tag block is all of it but the blanks at its end. -/
  shown : ∀ f ∈ s.fields, ∃ blanks, f.tagBlock.toList = f.shownTag ++ blanks ∧
    (∀ c ∈ blanks, Text.isBlank c) ∧
    ∀ c, f.shownTag.getLast? = some c → Text.isBlank c = false
  /-- No row ends in a blank. -/
  ending : ∀ f ∈ s.fields, ∀ c, (row nameWidth typeWidth f).getLast? = some c →
    Text.isBlank c = false
  /-- All types begin in one column. -/
  types : ∀ f ∈ s.fields,
    f.goType.spelling.toList <+: (row nameWidth typeWidth f).drop (nameWidth + 2)
  /-- All tag blocks that are shown begin in one column. -/
  tags : ∀ f ∈ s.fields, f.shownTag ≠ [] →
    (row nameWidth typeWidth f).drop (nameWidth + typeWidth + 3) = f.shownTag

theorem source_eq_rows (s : GoStruct) : s.source = "type " ++ s.name ++ " struct \x7b\n" ++
    String.join (s.fields.map fun f =>
      String.ofList (row (width (s.fields.map fun f => f.name.toList))
        (width (s.fields.map GoField.typeText)) f) ++ "\n") ++ "\x7d" := by
  have hlines := structLines_append s []
  rw [List.append_nil] at hlines
  rw [← String.toList_inj, source, String.toList_ofList, hlines, fieldLines]
  simp [List.flatMap_map, fieldLine_eq_row]

/-- **Every struct is laid out in columns**, as wide as its widest name and
its widest type. -/
theorem inColumns (s : GoStruct) : s.InColumns (width (s.fields.map fun f => f.name.toList))
    (width (s.fields.map fun f => f.goType.spelling.toList)) := by
  have hname := fun f (hf : f ∈ s.fields) => length_le_width (fun f => f.name.toList) hf
  have htype := fun f (hf : f ∈ s.fields) => length_le_width GoField.typeText hf
  exact {
    source_eq := source_eq_rows s
    room := fun f hf => ⟨hname f hf, htype f hf⟩
    full := fun hne => ⟨exists_length_eq_width _ hne, exists_length_eq_width _ hne⟩
    shown := fun f _ => f.exists_blanks
    ending := fun f _ c => isBlank_of_getLast?_row
    types := fun f hf => typeText_prefix_drop_row (hname f hf)
    tags := fun f hf => drop_row_of_tag (hname f hf) (htype f hf) }

/-- The block of the second field is blank and not shown, and the widths count
characters. -/
example : (⟨"Haus", [⟨"Größe", .float64, "\x60db:\"g\"\x60 "⟩, ⟨"", .string, " \t"⟩,
      ⟨"At", .time, "\x60\x60"⟩]⟩ : GoStruct).source =
    "type Haus struct \x7b\n" ++ "\tGröße float64   \x60db:\"g\"\x60\n" ++ "\t      string\n" ++
      "\tAt    time.Time \x60\x60\n" ++ "\x7d" := by
  decide +kernel

end GoStruct

end TableStruct
