import TableStruct.GoStruct.Layout
import TableStruct.Proofs.GoStruct.Tag
import TableStruct.Proofs.Text.Blank

/-!
# What a laid out file shows

A layout pads names and types to columns of which the width depends on the
whole struct, takes the blanks off the end of each line, and writes the
line that imports dates and times where it is needed. All of it can be
undone. The line of a field is its name, its type and its tag block with
spaces between them (`fieldLine_eq`), so that a line shows its field
whatever the columns are (`fieldLine_inj`); no line of a field begins like
the end of a struct, and no struct like an import. `source_eq_iff` puts this
together: two files of which the names have no blanks and the tag blocks are
raw strings on one line have the same source text only if they are the same
file.

`GoFile.source_eq` spells the text of a file out from the definitions of its
structs.
-/

namespace TableStruct

namespace GoType

/-- No two types are spelt alike. -/
theorem find?_spelling (t : GoType) : all.find? (fun u => u.spelling == t.spelling) = some t := by
  cases t <;> decide +kernel

theorem spelling_inj {t u : GoType} (h : t.spelling = u.spelling) : t = u := by
  have ht := find?_spelling t
  rw [h, find?_spelling u] at ht
  exact (Option.some.inj ht).symm

/-- A spelling has characters and no blanks. -/
theorem spelling_plain (t : GoType) :
    t.spelling.toList ≠ [] ∧ ∀ c ∈ t.spelling.toList, Text.isBlank c = false := by
  have hall : t.spelling.toList.all fun c => !Text.isBlank c := by cases t <;> decide
  refine ⟨by cases t <;> decide, fun c hc => ?_⟩
  simpa using List.all_eq_true.1 hall c hc

end GoType

namespace Layout

open Text

/-! ## The line of a field -/

/-- Padding goes behind the space that follows it. -/
theorem pad_append_space (n : Nat) (cs rest : List Char) :
    pad n cs ++ ' ' :: rest = cs ++ ' ' :: (List.replicate (n - cs.length) ' ' ++ rest) := by
  rw [pad, List.append_assoc, List.append_cons, ← List.replicate_succ', List.replicate_succ,
    List.cons_append]

/-- **The line of a field** is its name and its type, each filled up to its
column, and its tag block. Where there is none, the line ends with the
type. -/
theorem fieldLine_eq (nameWidth typeWidth : Nat) (f : GoField) :
    fieldLine nameWidth typeWidth f = '\t' :: (pad nameWidth f.name.toList ++ ' ' ::
      if trimEnd f.tagBlock.toList = [] then f.typeText
      else pad typeWidth f.typeText ++ ' ' :: trimEnd f.tagBlock.toList) := by
  obtain ⟨htype, hblank⟩ : f.typeText ≠ [] ∧ ∀ c ∈ f.typeText, isBlank c = false :=
    f.goType.spelling_plain
  have hparts : ∀ rest, '\t' :: (pad nameWidth f.name.toList ++ ' ' :: rest) =
      ('\t' :: (pad nameWidth f.name.toList ++ [' '])) ++ rest := fun rest => by simp
  rw [fieldLine, hparts]
  by_cases htag : trimEnd f.tagBlock.toList = []
  · have hspaces : trimEnd (List.replicate (typeWidth - f.typeText.length) ' ' ++
        ' ' :: f.tagBlock.toList) = [] := by
      rw [trimEnd_append_of_nil _ (by rw [trimEnd_cons_of_nil htag]; rfl), trimEnd_replicate]
    have hend : trimEnd (pad typeWidth f.typeText ++ ' ' :: f.tagBlock.toList) = f.typeText := by
      rw [pad, List.append_assoc, trimEnd_append_of_nil _ hspaces, trimEnd_of_not_blank hblank]
    rw [if_pos htag, trimEnd_append _ (by rw [hend]; exact htype), hend]
    exact (hparts _).symm
  · have hspace : trimEnd (' ' :: f.tagBlock.toList) = ' ' :: trimEnd f.tagBlock.toList :=
      trimEnd_cons_of_ne_nil htag
    have hend : trimEnd (pad typeWidth f.typeText ++ ' ' :: f.tagBlock.toList) =
        pad typeWidth f.typeText ++ ' ' :: trimEnd f.tagBlock.toList := by
      rw [trimEnd_append _ (by rw [hspace]; exact List.cons_ne_nil _ _), hspace]
    rw [if_neg htag, trimEnd_append _ (by rw [hend]; simp), hend]
    exact (hparts _).symm

end Layout

/-! ## Files that can be read back -/

/-- The block is a raw string on one line. -/
def Tag.IsRaw (block : String) : Prop :=
  ∃ inside, block.toList = '\x60' :: (inside ++ ['\x60']) ∧ ∀ c ∈ inside, Tag.fitsRaw c

/-- No blank is in the name, and the tag block, if there is one, is a raw
string on one line. -/
structure GoField.Plain (f : GoField) : Prop where
  name : ∀ c ∈ f.name.toList, Text.isBlank c = false
  tagBlock : f.tagBlock = "" ∨ Tag.IsRaw f.tagBlock

/-- No blank is in the name, and all fields are plain. -/
structure GoStruct.Plain (s : GoStruct) : Prop where
  name : ∀ c ∈ s.name.toList, Text.isBlank c = false
  fields : ∀ f ∈ s.fields, f.Plain

/-- The package name can be used, and all structs are plain. -/
structure GoFile.Plain (f : GoFile) : Prop where
  package : Settings.isIdentifier f.package
  structs : ∀ s ∈ f.structs, s.Plain

namespace Layout

open Text

theorem not_mem_of_not_blank {cs : List Char} (h : ∀ c ∈ cs, isBlank c = false) {b : Char}
    (hb : isBlank b) : b ∉ cs :=
  fun hmem => by simp [h b hmem] at hb

/-- A text can be cut at the first of a character that is not in what stands
before it. -/
theorem append_cons_inj {c : Char} {as bs rest rest' : List Char} (ha : c ∉ as) (hb : c ∉ bs)
    (h : as ++ c :: rest = bs ++ c :: rest') : as = bs ∧ rest = rest' := by
  induction as generalizing bs with
  | nil =>
    cases bs with
    | nil => exact ⟨rfl, (List.cons.inj h).2⟩
    | cons b bs => exact absurd (List.cons.inj h).1 fun hc => hb (hc ▸ List.mem_cons_self)
  | cons a as ih =>
    cases bs with
    | nil => exact absurd (List.cons.inj h).1 fun hc => ha (hc ▸ List.mem_cons_self)
    | cons b bs =>
      obtain ⟨rfl, htail⟩ := List.cons.inj h
      obtain ⟨rfl, hrest⟩ := ih (fun hmem => ha (List.mem_cons_of_mem _ hmem))
        (fun hmem => hb (List.mem_cons_of_mem _ hmem)) htail
      exact ⟨rfl, hrest⟩

theorem dropWhile_spaces (n : Nat) {rest : List Char} (h : rest.head? ≠ some ' ') :
    (List.replicate n ' ' ++ rest).dropWhile (· == ' ') = rest := by
  have hspaces : ∀ c ∈ List.replicate n ' ', (c == ' ') = true := fun c hc => by
    simp [List.eq_of_mem_replicate hc]
  rw [List.dropWhile_append_of_pos hspaces]
  cases rest with
  | nil => rfl
  | cons c rest =>
    have hc : c ≠ ' ' := by simpa using h
    simp [hc]

/-- Spaces in front hide nothing. -/
theorem spaces_append_inj {m n : Nat} {rest rest' : List Char} (h : rest.head? ≠ some ' ')
    (h' : rest'.head? ≠ some ' ')
    (heq : List.replicate m ' ' ++ rest = List.replicate n ' ' ++ rest') : rest = rest' := by
  rw [← dropWhile_spaces m h, heq, dropWhile_spaces n h']

variable {f g : GoField} {nameWidth typeWidth nameWidth' typeWidth' : Nat}

theorem trimEnd_of_isRaw {block : String} (h : Tag.IsRaw block) :
    trimEnd block.toList = block.toList ∧ block.toList ≠ [] := by
  obtain ⟨inside, hblock, -⟩ := h
  have hlast : trimEnd ['\x60'] = ['\x60'] := by decide
  rw [hblock, ← List.cons_append, trimEnd_append _ (by rw [hlast]; exact List.cons_ne_nil _ _),
    hlast]
  exact ⟨rfl, by simp⟩

/-- What stands behind the type in the line of a plain field. -/
def behindType (typeWidth : Nat) (f : GoField) : List Char :=
  if f.tagBlock = "" then []
  else ' ' :: (List.replicate (typeWidth - f.typeText.length) ' ' ++ f.tagBlock.toList)

/-- The line of a plain field has a space behind the name and behind the
type, before all others. -/
theorem fieldLine_of_plain (hf : f.Plain) (nameWidth typeWidth : Nat) :
    fieldLine nameWidth typeWidth f = '\t' :: (f.name.toList ++ ' ' ::
      (List.replicate (nameWidth - f.name.toList.length) ' ' ++
        (f.typeText ++ behindType typeWidth f))) := by
  rw [fieldLine_eq, pad_append_space]
  rcases hf.tagBlock with hnone | hraw
  · simp [behindType, hnone, trimEnd]
  · obtain ⟨htrim, hne⟩ := trimEnd_of_isRaw hraw
    have hsome : f.tagBlock ≠ "" := by simpa using hne
    rw [htrim, if_neg hne, pad_append_space, behindType, if_neg hsome]

/-- No line feed is in the line of a plain field. -/
theorem newline_not_mem_fieldLine (hf : f.Plain) : '\n' ∉ fieldLine nameWidth typeWidth f := by
  have hname := not_mem_of_not_blank hf.name (b := '\n') rfl
  have htype := not_mem_of_not_blank f.goType.spelling_plain.2 (b := '\n') rfl
  have htag : '\n' ∉ f.tagBlock.toList := by
    rcases hf.tagBlock with hnone | ⟨inside, hblock, hfits⟩
    · simp [hnone]
    · have hinside : '\n' ∉ inside := fun hmem => absurd (hfits _ hmem) (by decide)
      simp [hblock, hinside]
  have hbehind : '\n' ∉ behindType typeWidth f := by
    unfold behindType
    split
    · simp
    · simp [htag, List.mem_replicate]
  simp only [fieldLine_of_plain hf, GoField.typeText, List.mem_cons, List.mem_append,
    List.mem_replicate, not_or]
  exact ⟨by decide, hname, by decide, fun h => absurd h.2 (by decide), htype, hbehind⟩

/-- **A line shows its field**, whatever the widths of the columns. -/
theorem fieldLine_inj (hf : f.Plain) (hg : g.Plain)
    (h : fieldLine nameWidth typeWidth f = fieldLine nameWidth' typeWidth' g) : f = g := by
  have hspace : ∀ {cs : List Char}, (∀ c ∈ cs, isBlank c = false) → ' ' ∉ cs :=
    fun hcs => not_mem_of_not_blank hcs rfl
  have hhead : ∀ (f : GoField) (rest : List Char), (f.typeText ++ rest).head? ≠ some ' ' := by
    intro f rest hhead
    obtain ⟨c, cs, htype⟩ := List.exists_cons_of_ne_nil f.goType.spelling_plain.1
    rw [GoField.typeText, htype] at hhead
    have hc := f.goType.spelling_plain.2 c (by simp [htype])
    obtain rfl : c = ' ' := Option.some.inj hhead
    exact absurd hc (by decide)
  rw [fieldLine_of_plain hf, fieldLine_of_plain hg] at h
  obtain ⟨hname, hrest⟩ :=
    append_cons_inj (hspace hf.name) (hspace hg.name) (List.cons.inj h).2
  have htypes := spaces_append_inj (hhead f _) (hhead g _) hrest
  have hf' := hspace f.goType.spelling_plain.2
  have hg' := hspace g.goType.spelling_plain.2
  -- the type ends with the line or at the first space, as there is a tag block or none
  obtain ⟨htype, htag⟩ : f.typeText = g.typeText ∧ f.tagBlock = g.tagBlock := by
    unfold behindType at htypes
    by_cases hfnone : f.tagBlock = "" <;> by_cases hgnone : g.tagBlock = ""
    · simp only [hfnone, hgnone, if_true, List.append_nil] at htypes
      exact ⟨htypes, hfnone.trans hgnone.symm⟩
    · simp only [hfnone, hgnone, if_true, if_false, List.append_nil] at htypes
      exact absurd (show ' ' ∈ f.typeText by rw [htypes]; simp) hf'
    · simp only [hfnone, hgnone, if_true, if_false, List.append_nil] at htypes
      exact absurd (show ' ' ∈ g.typeText by rw [← htypes]; simp) hg'
    · simp only [hfnone, hgnone, if_false] at htypes
      have hblock : ∀ {block : String}, block = "" ∨ Tag.IsRaw block →
          block.toList.head? ≠ some ' ' := by
        rintro block (rfl | ⟨inside, hblock, -⟩)
        · simp
        · simp [hblock]
      obtain ⟨htype, hrest⟩ := append_cons_inj hf' hg' htypes
      exact ⟨htype, String.toList_inj.1
        (spaces_append_inj (hblock hf.tagBlock) (hblock hg.tagBlock) hrest)⟩
  obtain ⟨name, goType, tagBlock⟩ := f
  obtain ⟨name', goType', tagBlock'⟩ := g
  obtain rfl : name = name' := String.toList_inj.1 hname
  obtain rfl : goType = goType' := GoType.spelling_inj (String.toList_inj.1 htype)
  obtain rfl : tagBlock = tagBlock' := htag
  rfl

/-! ## Structs -/

/-- The lines of fields, each with a line feed behind it. -/
def fieldLines (nameWidth typeWidth : Nat) (fields : List GoField) : List Char :=
  fields.flatMap fun f => fieldLine nameWidth typeWidth f ++ ['\n']

theorem fieldLines_cons (nameWidth typeWidth : Nat) (f : GoField) (fields : List GoField)
    (rest : List Char) : fieldLines nameWidth typeWidth (f :: fields) ++ rest =
      fieldLine nameWidth typeWidth f ++ '\n' :: (fieldLines nameWidth typeWidth fields ++ rest) := by
  simp [fieldLines]

/-- A line of a field begins with a tab, and so not like the end of a
struct. -/
theorem fieldLines_cons_ne (nameWidth typeWidth : Nat) (f : GoField) (fields : List GoField)
    (rest rest' : List Char) :
    fieldLines nameWidth typeWidth (f :: fields) ++ rest ≠ '\x7d' :: rest' := by
  rw [fieldLines_cons, fieldLine_eq]
  simp

/-- **Lines show their fields**, up to the end of the struct. -/
theorem fieldLines_inj {fs gs : List GoField} (hfs : ∀ f ∈ fs, f.Plain) (hgs : ∀ g ∈ gs, g.Plain)
    {rest rest' : List Char}
    (h : fieldLines nameWidth typeWidth fs ++ '\x7d' :: rest =
      fieldLines nameWidth' typeWidth' gs ++ '\x7d' :: rest') : fs = gs ∧ rest = rest' := by
  induction fs generalizing gs with
  | nil =>
    cases gs with
    | nil => exact ⟨rfl, (List.cons.inj h).2⟩
    | cons g gs => exact absurd h.symm (fieldLines_cons_ne _ _ g gs _ _)
  | cons f fs ih =>
    cases gs with
    | nil => exact absurd h (fieldLines_cons_ne _ _ f fs _ _)
    | cons g gs =>
      have hf := hfs f List.mem_cons_self
      have hg := hgs g List.mem_cons_self
      rw [fieldLines_cons, fieldLines_cons] at h
      obtain ⟨hline, hmore⟩ :=
        append_cons_inj (newline_not_mem_fieldLine hf) (newline_not_mem_fieldLine hg) h
      obtain ⟨rfl, hrest⟩ := ih (fun f' hf' => hfs f' (List.mem_cons_of_mem _ hf'))
        (fun g' hg' => hgs g' (List.mem_cons_of_mem _ hg')) hmore
      exact ⟨by rw [fieldLine_inj hf hg hline], hrest⟩

theorem structLines_append (s : GoStruct) (rest : List Char) : structLines s ++ rest =
    "type ".toList ++ (s.name.toList ++ ' ' :: ("struct \x7b\n".toList ++
      (fieldLines (width (s.fields.map fun f => f.name.toList))
        (width (s.fields.map GoField.typeText)) s.fields ++ '\x7d' :: rest))) := by
  have hheader : s!"type {s.name} struct \x7b\n".toList =
      "type ".toList ++ (s.name.toList ++ ' ' :: "struct \x7b\n".toList) := by
    show ("type " ++ s.name ++ " struct \x7b\n").toList = _
    rw [String.toList_append, String.toList_append, List.append_assoc]
    rfl
  rw [structLines, hheader]
  simp only [fieldLines, List.append_assoc, List.cons_append, List.nil_append]

/-- **A struct can be told from what follows it.** -/
theorem structLines_append_inj {s t : GoStruct} (hs : s.Plain) (ht : t.Plain)
    {rest rest' : List Char} (h : structLines s ++ rest = structLines t ++ rest') :
    s = t ∧ rest = rest' := by
  rw [structLines_append, structLines_append] at h
  obtain ⟨hname, hbody⟩ := append_cons_inj (not_mem_of_not_blank hs.name rfl)
    (not_mem_of_not_blank ht.name rfl) (List.append_cancel_left h)
  obtain ⟨hfields, hrest⟩ := fieldLines_inj hs.fields ht.fields (List.append_cancel_left hbody)
  obtain ⟨name, fields⟩ := s
  obtain ⟨name', fields'⟩ := t
  obtain rfl : name = name' := String.toList_inj.1 hname
  obtain rfl : fields = fields' := hfields
  exact ⟨rfl, hrest⟩

/-! ## Files -/

/-- The structs of a file, each with a blank line before it and a line feed
behind it. -/
def structParts (structs : List GoStruct) : List Char :=
  structs.flatMap fun s => '\n' :: (structLines s ++ ['\n'])

theorem structParts_cons (s : GoStruct) (structs : List GoStruct) :
    structParts (s :: structs) = '\n' :: (structLines s ++ '\n' :: structParts structs) := by
  simp [structParts]

theorem structParts_inj {ss ts : List GoStruct} (hss : ∀ s ∈ ss, s.Plain)
    (hts : ∀ t ∈ ts, t.Plain) (h : structParts ss = structParts ts) : ss = ts := by
  induction ss generalizing ts with
  | nil =>
    cases ts with
    | nil => rfl
    | cons t ts => rw [structParts_cons] at h; cases h
  | cons s ss ih =>
    cases ts with
    | nil => rw [structParts_cons] at h; cases h
    | cons t ts =>
      rw [structParts_cons, structParts_cons] at h
      obtain ⟨rfl, hrest⟩ := structLines_append_inj (hss s List.mem_cons_self)
        (hts t List.mem_cons_self) (List.cons.inj h).2
      rw [ih (fun s' hs' => hss s' (List.mem_cons_of_mem _ hs'))
        (fun t' ht' => hts t' (List.mem_cons_of_mem _ ht')) (List.cons.inj hrest).2]

/-- Some field is a date or a time. -/
def usesTime (structs : List GoStruct) : Bool :=
  structs.any fun s => s.fields.any fun f => f.goType == .time

/-- The import of dates and times, after a blank line. -/
def timeImport : List Char :=
  "\nimport \"time\"\n".toList

/-- A word inserted any number of times is kept once. -/
theorem foldr_insertWord_of_forall_eq {word : String} {words : List String}
    (h : ∀ w ∈ words, w = word) :
    words.foldr insertWord [] = if words = [] then [] else [word] := by
  induction words with
  | nil => rfl
  | cons w ws ih =>
    obtain rfl : w = word := h w List.mem_cons_self
    rw [List.foldr_cons, ih fun v hv => h v (List.mem_cons_of_mem _ hv),
      if_neg (List.cons_ne_nil _ _)]
    split <;> simp [insertWord]

/-- **The one import there can be** is that of dates and times, and it is
there where a field needs it. -/
theorem importLines_imports (structs : List GoStruct) :
    importLines (imports structs) = if usesTime structs then timeImport else [] := by
  have hpackage : ∀ t : GoType, t.package? = if t = .time then some "time" else none := fun t => by
    cases t <;> rfl
  have hall : ∀ path ∈ (structs.flatMap GoStruct.fields).filterMap fun f => f.goType.package?,
      path = "time" := by
    intro path hpath
    obtain ⟨f, -, hf⟩ := List.mem_filterMap.1 hpath
    rw [hpackage] at hf
    split at hf
    · exact (Option.some.inj hf).symm
    · cases hf
  have hnone : (structs.flatMap GoStruct.fields).filterMap (fun f => f.goType.package?) = [] ↔
      ¬ usesTime structs := by
    simp only [List.filterMap_eq_nil_iff, hpackage, usesTime, List.mem_flatMap, List.any_eq_true,
      beq_iff_eq, not_exists, not_and, ite_eq_right_iff, reduceCtorEq, imp_false]
    exact ⟨fun h s hs f hf => h f ⟨s, hs, hf⟩, fun h f ⟨s, hs, hf⟩ => h s hs f hf⟩
  rw [imports, foldr_insertWord_of_forall_eq hall]
  by_cases htime : usesTime structs
  · rw [if_neg fun hnil => hnone.1 hnil htime, if_pos htime]
    rfl
  · rw [if_pos (hnone.2 htime), if_neg htime]
    rfl

/-- No struct begins like an import. -/
theorem timeImport_append_ne (rest : List Char) (structs : List GoStruct) :
    timeImport ++ rest ≠ structParts structs := by
  intro h
  cases structs with
  | nil => cases h
  | cons s structs =>
    rw [structParts_cons, structLines_append] at h
    exact absurd (List.cons.inj (List.cons.inj h).2).1 (by decide)

end Layout

namespace GoFile

open Layout

theorem lines_eq (f : GoFile) : f.lines = "package ".toList ++ (f.package.toList ++ '\n' ::
    ((if usesTime f.structs then timeImport else []) ++ structParts f.structs)) := by
  have hheader : s!"package {f.package}\n".toList =
      "package ".toList ++ (f.package.toList ++ ['\n']) := by
    show ("package " ++ f.package ++ "\n").toList = _
    rw [String.toList_append, String.toList_append, List.append_assoc]
    rfl
  rw [lines, importLines_imports, hheader]
  simp only [structParts, List.append_assoc, List.cons_append, List.nil_append]

theorem newline_not_mem_of_isIdentifier {name : String} (h : Settings.isIdentifier name) :
    '\n' ∉ name.toList := by
  intro hmem
  rw [Settings.isIdentifier, Bool.and_eq_true, List.all_eq_true] at h
  have hnot : Settings.inIdentifier '\n' = false := by decide +kernel
  exact absurd (h.2 _ hmem) (by simp [hnot])

/-- The text of a file: the package line, the import of dates and times where
there are any, and the definitions, with a blank line before each part. -/
def text (package : String) (timed : Bool) (definitions : List String) : String :=
  "package " ++ package ++ "\n" ++ (if timed then "\nimport \"time\"\n" else "") ++
    String.join (definitions.map fun d => "\n" ++ d ++ "\n")

/-- **The source text of a file**, from the definitions of its structs. -/
theorem source_eq (f : GoFile) :
    f.source = text f.package (usesTime f.structs) (f.structs.map GoStruct.source) := by
  have hparts : (String.join ((f.structs.map GoStruct.source).map fun d => "\n" ++ d ++ "\n")).toList =
      structParts f.structs := by
    rw [String.toList_join, List.map_map, List.flatMap_map, structParts]
    refine List.flatMap_congr fun s _ => ?_
    simp [GoStruct.source]
  have himport : (if usesTime f.structs then "\nimport \"time\"\n" else "").toList =
      if usesTime f.structs then timeImport else [] := by
    split <;> rfl
  rw [← String.toList_inj, source, String.toList_ofList, lines_eq, text, String.toList_append,
    String.toList_append, hparts, himport]
  simp

/-- **The source text of a file determines the file**: its package, and its
structs with all their fields, in order. -/
theorem source_eq_iff {f g : GoFile} (hf : f.Plain) (hg : g.Plain) :
    f.source = g.source ↔ f = g := by
  refine ⟨fun h => ?_, fun h => h ▸ rfl⟩
  have hlines : f.lines = g.lines := String.ofList_injective h
  rw [lines_eq, lines_eq] at hlines
  obtain ⟨hpackage, hrest⟩ := append_cons_inj (newline_not_mem_of_isIdentifier hf.package)
    (newline_not_mem_of_isIdentifier hg.package) (List.append_cancel_left hlines)
  have hparts : structParts f.structs = structParts g.structs := by
    by_cases hftime : usesTime f.structs <;> by_cases hgtime : usesTime g.structs
    · rw [if_pos hftime, if_pos hgtime] at hrest
      exact List.append_cancel_left hrest
    · rw [if_pos hftime, if_neg hgtime] at hrest
      exact absurd hrest (timeImport_append_ne _ _)
    · rw [if_neg hftime, if_pos hgtime] at hrest
      exact absurd hrest.symm (timeImport_append_ne _ _)
    · rw [if_neg hftime, if_neg hgtime] at hrest
      exact hrest
  have hstructs := structParts_inj hf.structs hg.structs hparts
  obtain ⟨package, structs⟩ := f
  obtain ⟨package', structs'⟩ := g
  obtain rfl : package = package' := String.toList_inj.1 hpackage
  obtain rfl : structs = structs' := hstructs
  rfl

/-- A struct without fields, and one of which the last field has a block that
begins like a field and ends like a struct. -/
def visits (inside : String) : GoFile :=
  ⟨"model", [⟨"Empty", []⟩,
    ⟨"Visit", [⟨"At", .time, ""⟩, ⟨"Payload", .dynamic, "\x60" ++ inside ++ "\x60"⟩]⟩]⟩

theorem plain_visits {inside : String} (h : inside.toList.all Tag.fitsRaw) :
    (visits inside).Plain := by
  have hraw : Tag.IsRaw ("\x60" ++ inside ++ "\x60") :=
    ⟨inside.toList, by simp, List.all_eq_true.1 h⟩
  have hall : ["Empty", "Visit", "At", "Payload"].all fun name =>
      name.toList.all fun c => !Text.isBlank c := by decide
  have hnames : ∀ name ∈ ["Empty", "Visit", "At", "Payload"],
      ∀ c ∈ name.toList, Text.isBlank c = false := by
    intro name hname c hc
    simpa using List.all_eq_true.1 (List.all_eq_true.1 hall name hname) c hc
  have hpackage : Settings.isIdentifier "model" := by decide +kernel
  refine ⟨hpackage, fun s hs => ?_⟩
  obtain rfl | rfl : s = _ ∨ s = _ := by simpa [visits] using hs
  · exact ⟨hnames "Empty" (by simp), by simp⟩
  · refine ⟨hnames "Visit" (by simp), fun f hf => ?_⟩
    obtain rfl | rfl : f = _ ∨ f = _ := by simpa using hf
    · exact ⟨hnames "At" (by simp), .inl rfl⟩
    · exact ⟨hnames "Payload" (by simp), .inr hraw⟩

/-- One space more inside a block is seen in the text. -/
theorem source_eq_iff_visits : (visits "\tID  int \x7d").Plain ∧ (visits "\tID int \x7d").Plain ∧
    (visits "\tID  int \x7d").source ≠ (visits "\tID int \x7d").source := by
  have hwide : (visits "\tID  int \x7d").Plain := plain_visits (by decide)
  have hnarrow : (visits "\tID int \x7d").Plain := plain_visits (by decide)
  refine ⟨hwide, hnarrow, fun h => ?_⟩
  have heq := (source_eq_iff hwide hnarrow).1 h
  exact absurd heq (by decide)

end GoFile

end TableStruct
