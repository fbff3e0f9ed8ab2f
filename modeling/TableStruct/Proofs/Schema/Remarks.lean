import TableStruct.Proofs.Schema.Columns

/-!
# What comments do to a schema

A comment is a text of the one who wrote the table, and the columns should
not depend on it. They nearly do not. The separators that a comment begins
with are passed over, and if the last of them is a single quote, or there
are none, what remains is read as one quoted token (`Yields.remark`), which
names nothing and types nothing. But it is compared with the keywords: a
comment that reads `key` begins the index clauses, and the columns behind it
are lost.

`outline_extract_of_silent` says that this is all: tables that differ in
such comments only have the same outline, up to the first comment that reads
`key`. A comment of which the text follows another separator is not covered.
It is read as a bare word or as an identifier, and may take columns away or
add some (`outline_extract_ne`).
-/

namespace TableStruct

open Draft

/-! ## What a scan reads of a comment -/

/-- A comment from its first character on that is no separator. -/
def spoken (text : String) : String :=
  String.ofList (text.toList.dropWhile isSeparator)

/-- The comment is read as a quoted token or not at all: the separators it
begins with, if there are any, end with a single quote, or there is nothing
else in it. -/
def isRemark (text : String) : Bool :=
  spoken text == "" || (text.toList.takeWhile isSeparator).getLast?.all (· == '\x27')

/-- The tokens of a comment clause. -/
def remarkWords : Option String → List (Grouping × String)
  | none => []
  | some text =>
    (.bare, "comment") :: if spoken text = "" then [] else [(.singleQuoted, spoken text)]

theorem isQuotable_spoken {text : String} (h : spoken text ≠ "") : isQuotable (spoken text) := by
  have hhead := List.head?_dropWhile_not isSeparator text.toList
  unfold spoken at h ⊢
  cases hrest : text.toList.dropWhile isSeparator with
  | nil => simp [hrest] at h
  | cons c rest =>
    rw [hrest] at hhead
    simpa [isQuotable] using hhead

/-- Written out, the quote and the separators in front of a comment end with
a quote. -/
theorem exists_lead {lead : List Char} (hsep : ∀ c ∈ lead, isSeparator c)
    (hlast : lead.getLast?.all (· == '\x27')) :
    ∃ seps, '\x27' :: doubled '\x27' lead = seps ++ ['\x27'] ∧ ∀ c ∈ seps, isSeparator c := by
  rcases List.eq_nil_or_concat lead with rfl | ⟨before, q, rfl⟩
  · exact ⟨[], rfl, by simp⟩
  · rw [List.concat_eq_append] at hsep hlast ⊢
    obtain rfl : q = '\x27' := by simpa using hlast
    refine ⟨'\x27' :: (doubled '\x27' before ++ ['\x27']), ?_, ?_⟩
    · rw [doubled_append]
      simp [doubled]
    · intro c hc
      simp only [List.mem_cons, List.mem_append, List.not_mem_nil, or_false] at hc
      rcases hc with rfl | hc | rfl
      · rfl
      · exact hsep c (List.mem_append_left _ (mem_of_mem_doubled hc))
      · rfl

variable {rest : List Char} {ws : List (Grouping × String)}

/-- **A comment is read as what it says**, from its first character on that
is no separator. -/
theorem Yields.remark (opener : Char) {text : String} (ht : isRemark text)
    (h : Continues rest ws) :
    Yields opener (TableStruct.enclosed '\x27' text.toList ++ rest)
      ((if spoken text = "" then [] else [(.singleQuoted, spoken text)]) ++ ws) := by
  have hsep : ∀ c ∈ text.toList.takeWhile isSeparator, isSeparator c :=
    List.all_eq_true.1 List.all_takeWhile
  have hspoken : (spoken text).toList = text.toList.dropWhile isSeparator := by simp [spoken]
  have hparts : TableStruct.enclosed '\x27' text.toList ++ rest =
      '\x27' :: doubled '\x27' (text.toList.takeWhile isSeparator) ++
        (doubled '\x27' (spoken text).toList ++ '\x27' :: rest) := by
    rw [hspoken, enclosed_append, List.cons_append, ← List.append_assoc, ← doubled_append,
      List.takeWhile_append_dropWhile]
  rw [hparts]
  by_cases hnone : spoken text = ""
  · -- nothing but separators, up to and with the closing quote
    have hall : ∀ c ∈ '\x27' :: doubled '\x27' (text.toList.takeWhile isSeparator),
        isSeparator c := by
      intro c hc
      rcases List.mem_cons.1 hc with rfl | hc
      · rfl
      · exact hsep c (mem_of_mem_doubled hc)
    rw [if_pos hnone, hnone]
    exact Yields.skip_append hall rfl (h.yields '\x27') opener
  · have hlast : (text.toList.takeWhile isSeparator).getLast?.all (· == '\x27') := by
      simpa [isRemark, hnone] using ht
    obtain ⟨seps, hlead, hseps⟩ := exists_lead hsep hlast
    have hopened : Yields '\x27' (doubled '\x27' (spoken text).toList ++ '\x27' :: rest)
        ((.singleQuoted, spoken text) :: ws) :=
      Yields.opened rfl (isQuotable_spoken hnone) h
    rw [if_neg hnone, hlead, List.append_assoc, List.singleton_append]
    exact Yields.skip_append hseps rfl hopened opener

namespace Clause

/-- The tokens of a column whose comment is read as a remark. -/
def spokenWords (c : Clause) : List (Grouping × String) :=
  c.stemWords ++ remarkWords c.comment

theorem continues_writeRemark {comment : Option String} (hc : ∀ text ∈ comment, isRemark text)
    (h : Continues rest ws) :
    Continues (writeComment comment ++ rest) (remarkWords comment ++ ws) := by
  cases comment with
  | none => exact h
  | some text =>
    have htext := Yields.remark ' ' (hc text rfl) h
    have hkeyword : isWord "comment" := by decide
    have hword := Yields.bare ' ' rfl hkeyword (Continues.of_bare rfl htext)
    rw [writeComment, List.append_assoc, List.cons_append, List.cons_append]
    exact .of_bare rfl hword

theorem readAs_spokenWords {c : Clause} (hc : c.Stem) (ht : ∀ text ∈ c.comment, isRemark text) :
    c.ReadAs c.spokenWords := by
  intro rest ws h opener
  have hstem := yields_stem hc (continues_writeRemark ht h) opener
  rwa [← List.append_assoc] at hstem

end Clause

/-! ## Outlines -/

/-- The name and the type of a column. -/
def Column.heading (c : Column) : String × String :=
  (c.name, c.rawType)

/-- A schema without its comments. -/
def Schema.outline (s : Schema) : String × List (String × String) :=
  (s.tableName, s.fields.map Column.heading)

namespace Clause

/-- The name and the type of a column. -/
def heading (c : Clause) : String × String :=
  (c.name, c.rawType)

/-- The column without its comment. -/
def silent (c : Clause) : Clause :=
  { c with comment := none }

/-- The comment reads `key`. -/
def speaksKey (c : Clause) : Bool :=
  c.comment.any fun text => Text.lowerCase (spoken text) == "key"

/-- The number of columns up to the first whose comment reads `key`, that
one included. -/
def reach : List Clause → Nat
  | [] => 0
  | c :: cs => if c.speaksKey then 1 else reach cs + 1

end Clause

namespace Declaration

/-- The table without its comments. -/
def silent (t : Declaration) : Declaration :=
  { t with columns := t.columns.map Clause.silent }

/-- The tables that can be written but for their comments. -/
structure Stem (t : Declaration) : Prop where
  table : isQuotable t.table
  table_ne : Text.lowerCase t.table ≠ "key"
  columns : ∀ c ∈ t.columns, c.Stem

instance (t : Declaration) : Decidable t.Stem :=
  decidable_of_iff
    (isQuotable t.table ∧ Text.lowerCase t.table ≠ "key" ∧ ∀ c ∈ t.columns, c.Stem)
    ⟨fun ⟨h₁, h₂, h₃⟩ => ⟨h₁, h₂, h₃⟩, fun ⟨h₁, h₂, h₃⟩ => ⟨h₁, h₂, h₃⟩⟩

end Declaration

/-! ## What the reading gathers -/

variable {x : Context} {d : Draft}

/-- **A comment changes neither the name nor the type of its column.** -/
theorem takes_remark (hx : Inside x) (c : Clause) (d : Draft) (column : Column) :
    ∃ x' column', Finished x' c.speaksKey ∧ column'.heading = column.heading ∧
      Takes x (d.add column) (remarkWords c.comment) x' (d.add column') := by
  unfold Clause.speaksKey
  cases c.comment with
  | none =>
    exact ⟨x, column, hx.finished, rfl, takes_nil x _⟩
  | some text =>
    have hword := takes_other (g := .bare) (by decide) x d "comment" column
    rw [hx.amend_eq] at hword
    have hassigned := Nat.add_pos_left hx.assigned x.otherRoles.length
    rw [remarkWords, Option.any_some]
    by_cases hnone : spoken text = ""
    · -- the word before is then `comment` itself
      have hcomment : Text.lowerCase "comment" ≠ "key" := by decide
      have hempty : (Text.lowerCase "" == "key") = false := by decide
      rw [if_pos hnone, hnone, hempty]
      exact ⟨_, column, ⟨hassigned, rfl, by simp [Context.after, tokenWith, hcomment]⟩, rfl, hword⟩
    · have htext := takes_other (g := .singleQuoted) (by decide)
        (x.after (tokenWith (.bare, "comment")) x.otherRoles) d (spoken text) column
      rw [amend_after_comment] at htext
      rw [if_neg hnone]
      refine ⟨_, { column with comment := some (spoken text) }, ⟨?_, rfl, ?_⟩, rfl,
        hword.append htext⟩
      · exact Nat.add_pos_left hassigned _
      · simp [Context.after, tokenWith]

/-- **A column is named and typed**, whatever its comment. -/
theorem adds_spokenWords {c : Clause} (hc : c.Stem) :
    Adds Column.heading c.spokenWords c.speaksKey c.heading := by
  refine ⟨⟨c.name, _, rfl⟩, fun hx d => ?_⟩
  obtain ⟨x₁, hx₁, hstem⟩ := takes_stem hx hc d
  obtain ⟨x₂, column, hx₂, hheading, hremark⟩ := takes_remark hx₁ c d
    ⟨c.name, c.rawType, if Text.lowerCase c.name == "comment" then some c.rawType else none⟩
  exact ⟨x₂, column, hx₂, hheading, hstem.append hremark⟩

theorem upTo_speaksKey (cs : List Clause) : upTo Clause.speaksKey cs = cs.take (Clause.reach cs) := by
  induction cs with
  | nil => rfl
  | cons c cs ih =>
    rw [upTo, Clause.reach]
    split
    · rfl
    · rw [List.take_succ_cons, ih]

/-! ## The outline of a table -/

theorem Column.isComplete_of_heading {column : Column} {c : Clause} (hc : c.Stem)
    (h : column.heading = c.heading) : column.isComplete := by
  simp only [Column.heading, Clause.heading, Prod.mk.injEq] at h
  exact isComplete_of_spelt (h.1 ▸ hc.name) (h.2 ▸ hc.rawType)

/-- **The outline of a table with remarks** is its name and the names and
types of its columns, up to the first comment that reads `key`. -/
theorem outline_extract {t : Declaration} (ht : t.Stem)
    (hremarks : ∀ c ∈ t.columns, ∀ text ∈ c.comment, isRemark text) :
    (extract false t.text).map Schema.outline =
      .ok (t.table, (t.columns.take (Clause.reach t.columns)).map Clause.heading) := by
  have hwords := (Declaration.scan_text ht.table fun c hc =>
    Clause.readAs_spokenWords (ht.columns c hc) (hremarks c hc)).1
  rw [← upTo_speaksKey]
  exact extract_of_adds ht.table_ne (ne_of_isQuotable ht.table) hwords
    (fun c hc => adds_spokenWords (ht.columns c hc))
    fun c hc _ hheading => Column.isComplete_of_heading (ht.columns c hc) hheading

/-! ## Tables that differ in their comments -/

section Silent

variable {t t' : Declaration} (h : t.silent = t'.silent)

include h

theorem table_eq_of_silent : t.table = t'.table := by
  show t.silent.table = t'.silent.table
  rw [h]

theorem heading_eq_of_silent : t.columns.map Clause.heading = t'.columns.map Clause.heading := by
  have hsilent : t.columns.map Clause.silent = t'.columns.map Clause.silent :=
    congrArg Declaration.columns h
  have hheading := congrArg (List.map Clause.heading) hsilent
  rwa [List.map_map, List.map_map] at hheading

/-- The parts other than the comments can be written in both or in neither. -/
theorem Declaration.Stem.of_silent (ht : t.Stem) : t'.Stem := by
  have hsilent : t.columns.map Clause.silent = t'.columns.map Clause.silent :=
    congrArg Declaration.columns h
  refine ⟨table_eq_of_silent h ▸ ht.table, table_eq_of_silent h ▸ ht.table_ne, fun c' hc' => ?_⟩
  have hmem := List.mem_map_of_mem (f := Clause.silent) hc'
  rw [← hsilent] at hmem
  obtain ⟨c, hc, heq⟩ := List.mem_map.1 hmem
  have hc := ht.columns c hc
  simp only [Clause.silent, Clause.mk.injEq] at heq
  obtain ⟨hname, htype, hsizes, hattributes, -⟩ := heq
  exact ⟨hname ▸ hc.name, htype ▸ hc.rawType, hsizes ▸ hc.sizes, hattributes ▸ hc.attributes⟩

end Silent

/-- **Comments do not influence the outline.** Tables that differ in their
comments only have the same outline, provided that the comments are read as
remarks and that the first to read `key`, if one does before the last column,
belongs to the same column. The outline is that of the columns up to there. -/
theorem outline_extract_of_silent {t t' : Declaration} (ht : t.Stem) (h : t.silent = t'.silent)
    (hremarks : ∀ c ∈ t.columns, ∀ text ∈ c.comment, isRemark text)
    (hremarks' : ∀ c ∈ t'.columns, ∀ text ∈ c.comment, isRemark text)
    (hreach : Clause.reach t.columns = Clause.reach t'.columns) :
    (extract false t.text).map Schema.outline =
        .ok (t.table, (t.columns.take (Clause.reach t.columns)).map Clause.heading) ∧
      (extract false t'.text).map Schema.outline = (extract false t.text).map Schema.outline := by
  have ht' : t'.Stem := ht.of_silent h
  refine ⟨outline_extract ht hremarks, ?_⟩
  rw [outline_extract ht hremarks, outline_extract ht' hremarks', table_eq_of_silent h,
    List.map_take, List.map_take, heading_eq_of_silent h, hreach]

/-- A table of three columns with a comment each. -/
def accounts (first second third : String) : Declaration :=
  ⟨"t", [⟨"a", "int", [], [], some first⟩, ⟨"b", "text", [], [], some second⟩,
    ⟨"c", "date", [], [], some third⟩]⟩

/-- Comments that begin with quotes or hold nothing else, and a `key` that
cuts off the last column of both tables. -/
theorem outline_extract_of_silent_accounts :
    (accounts "\x27\x27tis" "KEY" "lost").Stem ∧
    (accounts "\x27\x27tis" "KEY" "lost").silent = (accounts "\x27" "Key" "gone").silent ∧
    Clause.reach (accounts "\x27\x27tis" "KEY" "lost").columns =
      Clause.reach (accounts "\x27" "Key" "gone").columns ∧
    (extract false (accounts "\x27\x27tis" "KEY" "lost").text).map Schema.outline =
      .ok ("t", [("a", "int"), ("b", "text")]) ∧
    (extract false (accounts "\x27" "Key" "gone").text).map Schema.outline =
      (extract false (accounts "\x27\x27tis" "KEY" "lost").text).map Schema.outline := by
  have hstem : (accounts "\x27\x27tis" "KEY" "lost").Stem := by decide
  have hreach : Clause.reach (accounts "\x27\x27tis" "KEY" "lost").columns =
      Clause.reach (accounts "\x27" "Key" "gone").columns := by decide
  have hsilent : (accounts "\x27\x27tis" "KEY" "lost").silent =
      (accounts "\x27" "Key" "gone").silent := rfl
  have h := outline_extract_of_silent hstem hsilent (by decide) (by decide) hreach
  exact ⟨hstem, hsilent, hreach, h.1, h.2⟩

/-- **Other comments do influence the outline.** A comment that reads `key`
loses the columns behind it, one that begins with a blank takes the next
column for its own text, and one that begins with a backquote can add a
column, even the last. -/
theorem outline_extract_ne :
    (accounts "x" "y" "z").Stem ∧
    ((accounts "key" "y" "z").silent = (accounts "x" "y" "z").silent ∧
      (extract false (accounts "key" "y" "z").text).map Schema.outline ≠
        (extract false (accounts "x" "y" "z").text).map Schema.outline) ∧
    ((accounts " x" "y" "z").silent = (accounts "x" "y" "z").silent ∧
      (extract false (accounts " x" "y" "z").text).map Schema.outline ≠
        (extract false (accounts "x" "y" "z").text).map Schema.outline) ∧
    ((accounts "x" "y" "\x60d\x60 int ").silent = (accounts "x" "y" "z").silent ∧
      (extract false (accounts "x" "y" "\x60d\x60 int ").text).map Schema.outline ≠
        (extract false (accounts "x" "y" "z").text).map Schema.outline) := by
  have hstem : (accounts "x" "y" "z").Stem := by decide
  have hplain : (extract false (accounts "x" "y" "z").text).map Schema.outline =
      .ok ("t", [("a", "int"), ("b", "text"), ("c", "date")]) :=
    (outline_extract hstem (by decide)).trans (by decide)
  have hkey : (extract false (accounts "key" "y" "z").text).map Schema.outline =
      .ok ("t", [("a", "int")]) :=
    (outline_extract (by decide) (by decide)).trans (by decide)
  have hblank : (extract false (accounts " x" "y" "z").text).map Schema.outline =
      .ok ("t", [("a", "int"), ("c", "date")]) := by decide +kernel
  have hname : (extract false (accounts "x" "y" "\x60d\x60 int ").text).map Schema.outline =
      .ok ("t", [("a", "int"), ("b", "text"), ("c", "date"), ("d", "int")]) := by decide +kernel
  rw [hplain, hkey, hblank, hname]
  exact ⟨hstem, ⟨rfl, by decide⟩, ⟨rfl, by decide⟩, ⟨rfl, by decide⟩⟩

end TableStruct
