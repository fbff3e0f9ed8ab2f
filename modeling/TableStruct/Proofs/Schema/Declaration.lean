import TableStruct.Schema
import TableStruct.Text.Lower
import TableStruct.Proofs.Scan.Writing

/-!
# Table declarations

A `create table` statement as it is written from its parts: identifiers in
backquotes, types with their sizes in parentheses, attributes as bare words
and comments in single quotes. `Declaration.WellFormed` names the texts that
the parts may have, and `Declaration.scan_text` says what tokens the
statement is read as.
-/

namespace TableStruct

/-- A column as a declaration spells it. -/
structure Clause where
  name : String
  rawType : String
  /-- What stands in parentheses after the type, if anything does. -/
  sizes : List String
  /-- The words after that. -/
  attributes : List String
  /-- The comment, if there is one. -/
  comment : Option String
  deriving DecidableEq, Repr

/-- A table as a declaration spells it. -/
structure Declaration where
  table : String
  columns : List Clause
  deriving DecidableEq, Repr

namespace Clause

/-- The sizes in parentheses, separated by commas. -/
def writeSizes (sizes : List String) : List Char :=
  if sizes = [] then [] else '(' :: [','].intercalate (sizes.map String.toList) ++ [')']

/-- The attributes, each after a space. -/
def writeAttributes (attributes : List String) : List Char :=
  attributes.flatMap fun w => ' ' :: w.toList

/-- The comment clause. -/
def writeComment : Option String → List Char
  | none => []
  | some text => ' ' :: "comment".toList ++ ' ' :: enclosed '\x27' text.toList

/-- The column as it is written. -/
def write (c : Clause) : List Char :=
  enclosed '\x60' c.name.toList ++ ' ' :: c.rawType.toList ++ writeSizes c.sizes ++
    writeAttributes c.attributes ++ writeComment c.comment

/-- The column that is declared. -/
def column (c : Clause) : Column :=
  ⟨c.name, c.rawType, c.comment⟩

end Clause

namespace Declaration

/-- The statement as it is written. -/
def write (t : Declaration) : List Char :=
  "create".toList ++ ' ' :: "table".toList ++ ' ' :: enclosed '\x60' t.table.toList ++ ' ' :: '(' ::
    [',', ' '].intercalate (t.columns.map Clause.write) ++ [')']

/-- The text of the statement. -/
def text (t : Declaration) : String :=
  String.ofList t.write

/-- The schema that is declared. -/
def schema (t : Declaration) : Schema :=
  ⟨t.table, t.columns.map Clause.column⟩

end Declaration

/-- The text can stand as a bare word of a column: it is neither `key`,
after which the next name would begin the index clauses, nor `comment`. -/
def isAttribute (w : String) : Bool :=
  isWord w && Text.lowerCase w != "key" && Text.lowerCase w != "comment"

/-- **The columns that can be written.** -/
structure Clause.WellFormed (c : Clause) : Prop where
  name : isQuotable c.name
  rawType : isAttribute c.rawType
  sizes : ∀ w ∈ c.sizes, isAttribute w
  attributes : ∀ w ∈ c.attributes, isAttribute w
  /-- The comment can be quoted and is not `key`. -/
  comment : ∀ text ∈ c.comment, isQuotable text ∧ Text.lowerCase text ≠ "key"
  /-- A column named `comment`, of which the type would be taken for the
  comment, has a comment. -/
  remarked : Text.lowerCase c.name = "comment" → c.comment.isSome

/-- The columns that can be written but for their comments. -/
structure Clause.Stem (c : Clause) : Prop where
  name : isQuotable c.name
  rawType : isAttribute c.rawType
  sizes : ∀ w ∈ c.sizes, isAttribute w
  attributes : ∀ w ∈ c.attributes, isAttribute w

theorem Clause.WellFormed.stem {c : Clause} (h : c.WellFormed) : c.Stem :=
  ⟨h.name, h.rawType, h.sizes, h.attributes⟩

/-- **The tables that can be written.** -/
structure Declaration.WellFormed (t : Declaration) : Prop where
  table : isQuotable t.table
  /-- It is not `key`, after which a name would begin the index clauses. -/
  table_ne : Text.lowerCase t.table ≠ "key"
  columns : ∀ c ∈ t.columns, c.WellFormed

instance (c : Clause) : Decidable c.Stem :=
  decidable_of_iff
    (isQuotable c.name ∧ isAttribute c.rawType ∧ (∀ w ∈ c.sizes, isAttribute w) ∧
      ∀ w ∈ c.attributes, isAttribute w)
    ⟨fun ⟨h₁, h₂, h₃, h₄⟩ => ⟨h₁, h₂, h₃, h₄⟩, fun ⟨h₁, h₂, h₃, h₄⟩ => ⟨h₁, h₂, h₃, h₄⟩⟩

instance (c : Clause) : Decidable c.WellFormed :=
  decidable_of_iff
    (isQuotable c.name ∧ isAttribute c.rawType ∧ (∀ w ∈ c.sizes, isAttribute w) ∧
      (∀ w ∈ c.attributes, isAttribute w) ∧
      (∀ text ∈ c.comment, isQuotable text ∧ Text.lowerCase text ≠ "key") ∧
      (Text.lowerCase c.name = "comment" → c.comment.isSome))
    ⟨fun ⟨h₁, h₂, h₃, h₄, h₅, h₆⟩ => ⟨h₁, h₂, h₃, h₄, h₅, h₆⟩,
      fun ⟨h₁, h₂, h₃, h₄, h₅, h₆⟩ => ⟨h₁, h₂, h₃, h₄, h₅, h₆⟩⟩

instance (t : Declaration) : Decidable t.WellFormed :=
  decidable_of_iff
    (isQuotable t.table ∧ Text.lowerCase t.table ≠ "key" ∧ ∀ c ∈ t.columns, c.WellFormed)
    ⟨fun ⟨h₁, h₂, h₃⟩ => ⟨h₁, h₂, h₃⟩, fun ⟨h₁, h₂, h₃⟩ => ⟨h₁, h₂, h₃⟩⟩

/-! ## What tokens they are read as -/

def bareWords (ws : List String) : List (Grouping × String) :=
  ws.map fun w => (.bare, w)

namespace Clause

def commentWords : Option String → List (Grouping × String)
  | none => []
  | some text => [(.bare, "comment"), (.singleQuoted, text)]

/-- The tokens of a column without its comment clause. -/
def stemWords (c : Clause) : List (Grouping × String) :=
  (.backquoted, c.name) :: (.bare, c.rawType) :: (bareWords c.sizes ++ bareWords c.attributes)

/-- The tokens of a column. -/
def words (c : Clause) : List (Grouping × String) :=
  (.backquoted, c.name) :: (.bare, c.rawType) ::
    (bareWords c.sizes ++ bareWords c.attributes ++ commentWords c.comment)

theorem words_eq (c : Clause) : c.words = c.stemWords ++ commentWords c.comment :=
  rfl

end Clause

/-- The tokens of a table. -/
def Declaration.words (t : Declaration) : List (Grouping × String) :=
  (.bare, "create") :: (.bare, "table") :: (.backquoted, t.table) :: t.columns.flatMap Clause.words

theorem isWord_of_isAttribute {w : String} (h : isAttribute w) : isWord w := by
  rw [isAttribute, Bool.and_eq_true, Bool.and_eq_true] at h
  exact h.1.1

variable {rest : List Char} {ws : List (Grouping × String)}

namespace Clause

theorem yields_sizes {opener : Char} (ho : Grouping.of opener = .bare) {sizes : List String}
    (hne : sizes ≠ []) (hs : ∀ w ∈ sizes, isWord w) (h : Continues rest ws) :
    Yields opener ([','].intercalate (sizes.map String.toList) ++ rest)
      (bareWords sizes ++ ws) := by
  induction sizes generalizing opener with
  | nil => exact absurd rfl hne
  | cons w sizes ih =>
    have hw : isWord w := hs w List.mem_cons_self
    cases sizes with
    | nil =>
      rw [List.map_singleton, List.intercalate_singleton]
      exact Yields.bare opener ho hw h
    | cons w' sizes =>
      have hmore : Yields ',' _ _ :=
        ih rfl (List.cons_ne_nil _ _) fun v hv => hs v (List.mem_cons_of_mem _ hv)
      rw [List.map_cons, List.map_cons, List.intercalate_cons_cons, List.append_assoc,
        List.append_assoc]
      exact Yields.bare opener ho hw (.of_bare rfl hmore)

theorem continues_writeSizes {sizes : List String} (hs : ∀ w ∈ sizes, isWord w)
    (h : Continues rest ws) : Continues (writeSizes sizes ++ rest) (bareWords sizes ++ ws) := by
  unfold writeSizes
  by_cases hne : sizes = []
  · subst hne
    exact h
  · rw [if_neg hne, List.cons_append, List.cons_append, List.append_assoc]
    have hclose : Continues ([')'] ++ rest) ws := .of_bare rfl (h.yields ')')
    exact .of_bare rfl (yields_sizes rfl hne hs hclose)

theorem continues_writeAttributes {attributes : List String} (ha : ∀ w ∈ attributes, isWord w)
    (h : Continues rest ws) :
    Continues (writeAttributes attributes ++ rest) (bareWords attributes ++ ws) := by
  induction attributes with
  | nil => exact h
  | cons w attributes ih =>
    have hmore := ih fun v hv => ha v (List.mem_cons_of_mem _ hv)
    have hw := Yields.bare ' ' rfl (ha w List.mem_cons_self) hmore
    rw [writeAttributes, List.flatMap_cons, List.cons_append, List.cons_append, List.append_assoc]
    exact .of_bare rfl hw

theorem continues_writeComment {comment : Option String} (hc : ∀ text ∈ comment, isQuotable text)
    (h : Continues rest ws) :
    Continues (writeComment comment ++ rest) (commentWords comment ++ ws) := by
  cases comment with
  | none => exact h
  | some text =>
    have htext := Yields.singleQuoted ' ' (hc text rfl) h
    have hkeyword : isWord "comment" := by decide
    have hword := Yields.bare ' ' rfl hkeyword (Continues.of_bare rfl htext)
    rw [writeComment, List.append_assoc, List.cons_append, List.cons_append]
    exact .of_bare rfl hword

/-- The column is read as the given words, wherever it stands. -/
def ReadAs (c : Clause) (words : List (Grouping × String)) : Prop :=
  ∀ {rest : List Char} {ws : List (Grouping × String)}, Continues rest ws →
    ∀ opener, Yields opener (c.write ++ rest) (words ++ ws)

/-- **A column is read part by part**, the comment clause as it is read
itself. -/
theorem yields_stem {c : Clause} (hc : c.Stem)
    (h : Continues (writeComment c.comment ++ rest) ws) (opener : Char) :
    Yields opener (c.write ++ rest) (c.stemWords ++ ws) := by
  have hattributes :=
    continues_writeAttributes (fun w hw => isWord_of_isAttribute (hc.attributes w hw)) h
  have hsizes :=
    continues_writeSizes (fun w hw => isWord_of_isAttribute (hc.sizes w hw)) hattributes
  have htype := Yields.bare ' ' rfl (isWord_of_isAttribute hc.rawType) hsizes
  have hname := Yields.backquoted opener hc.name (Continues.of_bare rfl htype)
  simpa [write, stemWords] using hname

/-- **A column is read as its words.** -/
theorem readAs_words {c : Clause} (hc : c.WellFormed) : c.ReadAs c.words := by
  intro rest ws h opener
  have hcomment := continues_writeComment (fun text ht => (hc.comment text ht).1) h
  have hstem := yields_stem hc.stem hcomment opener
  rwa [← List.append_assoc, ← words_eq] at hstem

/-- **Columns separated by commas are read one after the other.** -/
theorem yields_intercalate {words : Clause → List (Grouping × String)} {cs : List Clause}
    (hcs : ∀ c ∈ cs, c.ReadAs (words c)) (h : Continues rest ws) (opener : Char) :
    Yields opener ([',', ' '].intercalate (cs.map write) ++ rest) (cs.flatMap words ++ ws) := by
  induction cs generalizing opener with
  | nil => exact h.yields opener
  | cons c cs ih =>
    have hc : c.ReadAs (words c) := hcs c List.mem_cons_self
    cases cs with
    | nil => simpa using hc h opener
    | cons c' cs =>
      have hmore := ih (fun d hd => hcs d (List.mem_cons_of_mem _ hd)) ' '
      have hspace := hmore.skip rfl ','
      have hcolumn := hc (Continues.of_bare rfl hspace) opener
      rw [List.map_cons, List.map_cons, List.intercalate_cons_cons, List.flatMap_cons]
      simpa using hcolumn

end Clause

namespace Declaration

/-- The statement with any two words in front. -/
theorem yields_after {t : Declaration} (ht : isQuotable t.table)
    {words : Clause → List (Grouping × String)} (hcolumns : ∀ c ∈ t.columns, c.ReadAs (words c))
    {v w : String} (hv : isWord v) (hw : isWord w) :
    Yields ' ' (v.toList ++ ' ' :: w.toList ++ ' ' :: enclosed '\x60' t.table.toList ++
        ' ' :: '(' :: [',', ' '].intercalate (t.columns.map Clause.write) ++ [')'])
      ((.bare, v) :: (.bare, w) :: (.backquoted, t.table) :: t.columns.flatMap words) := by
  have hclose : Continues [')'] [] := .of_bare rfl (yields_nil ')')
  have hcolumns := Clause.yields_intercalate hcolumns hclose '('
  have hparenthesis := hcolumns.skip rfl ' '
  have hname := Yields.backquoted ' ' ht (Continues.of_bare rfl hparenthesis)
  have hsecond := Yields.bare ' ' rfl hw (Continues.of_bare rfl hname)
  have hfirst := Yields.bare ' ' rfl hv (Continues.of_bare rfl hsecond)
  simpa using hfirst

/-- **A declaration is read column by column**, each as it is read itself,
and nothing is left over. -/
theorem scan_text {t : Declaration} (ht : isQuotable t.table)
    {words : Clause → List (Grouping × String)} (hcolumns : ∀ c ∈ t.columns, c.ReadAs (words c)) :
    (scan t.text).tokens.map Token.word = (.bare, "create") :: (.bare, "table") ::
        (.backquoted, t.table) :: t.columns.flatMap words ∧
      (scan t.text).leftover = none := by
  have hyields : Yields ' ' t.write _ := yields_after ht hcolumns (by decide) (by decide)
  rw [scan_eq_scanFrom, text, String.toList_ofList]
  exact hyields 0

end Declaration

end TableStruct
