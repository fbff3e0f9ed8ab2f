import Mathlib.Data.List.Induction
import TableStruct.Proofs.Schema.Columns

/-!
# What attributes do to a schema

Between the type of a column and the comma bare words may stand, and a
reading gives them no role. But it remembers the last of them: after the
word `key` a name begins the index clauses. So `unique key` and
`primary key` end the columns if they are the last attributes of one, and
no attribute does anything else.

`extract_attributed` says so of every table and every choice of attributes:
the columns up to the first with such an end are extracted, as they are
without the attributes, and these are all of them just if none but the last
ends so.
-/

namespace TableStruct

open Draft

/-! ## Bare words behind a type -/

variable {x : Context}

/-- The words end with `key`. -/
def endsWithKey (words : List String) : Bool :=
  words.getLast?.any fun w => Text.lowerCase w == "key"

/-- **Only the last of some bare words matters**, if none of them is
`comment`. -/
theorem takes_bareWords (hx : Inside x) {words : List String}
    (hwords : ∀ w ∈ words, Text.lowerCase w ≠ "comment") (d : Draft) (c : Column) :
    ∃ x', Finished x' (endsWithKey words) ∧ x'.word ≠ "comment" ∧
      Takes x (d.add c) (bareWords words) x' (d.add c) := by
  induction words using List.reverseRecOn with
  | nil => exact ⟨x, hx.finished, hx.comment, takes_nil x _⟩
  | append_singleton words w ih =>
    obtain ⟨x', hx', hcomment, htakes⟩ := ih fun v hv => hwords v (List.mem_append_left _ hv)
    have hw : Text.lowerCase w ≠ "comment" := hwords w (by simp)
    have hword := takes_other (g := .bare) nofun x' d w c
    rw [amend_eq_self hx'.other hcomment] at hword
    refine ⟨x'.after (tokenWith (.bare, w)) x'.otherRoles, ⟨?_, rfl, ?_⟩, hw, ?_⟩
    · exact Nat.add_pos_left hx'.assigned _
    · simp [endsWithKey, Context.after, tokenWith]
    · rw [bareWords, List.map_append]
      exact htakes.append hword

namespace Clause

/-- The column up to its attributes. -/
def base (c : Clause) : Clause :=
  { c with attributes := [], comment := none }

theorem stemWords_eq (c : Clause) : c.stemWords = c.base.stemWords ++ bareWords c.attributes := by
  simp [stemWords, base, bareWords]

/-- **A column without a comment is read word by word**, whatever words its
attributes are. -/
theorem readAs_stemWords {c : Clause} (hbase : c.base.Stem) (ha : ∀ w ∈ c.attributes, isWord w)
    (hc : c.comment = none) : c.ReadAs c.stemWords := by
  intro rest ws h opener
  have hattributes := continues_writeAttributes ha h
  have hyields := yields_stem hbase hattributes opener
  have hwrite : c.write = c.base.write ++ writeAttributes c.attributes := by
    simp [write, base, hc, writeAttributes, writeComment]
  rwa [hwrite, stemWords_eq, List.append_assoc, List.append_assoc]

/-- **Words other than `comment` add nothing to a column.** -/
theorem adds_stemWords {c : Clause} (hbase : c.base.Stem)
    (ha : ∀ w ∈ c.attributes, Text.lowerCase w ≠ "comment") :
    Adds id c.stemWords (endsWithKey c.attributes) ⟨c.name, c.rawType,
      if Text.lowerCase c.name == "comment" then some c.rawType else none⟩ := by
  refine ⟨⟨c.name, _, rfl⟩, fun hx d => ?_⟩
  obtain ⟨x₁, hx₁, hstem⟩ := takes_stem hx hbase d
  obtain ⟨x₂, hx₂, -, hattributes⟩ := takes_bareWords hx₁ ha d _
  rw [stemWords_eq]
  exact ⟨x₂, _, hx₂, rfl, hstem.append hattributes⟩

end Clause

/-! ## Columns with attributes -/

/-- The attributes of a column. -/
inductive Attribute where
  | notNull
  | null
  | unsigned
  | autoIncrement
  | uniqueKey
  | primaryKey
  | onUpdate
  deriving DecidableEq, Repr

namespace Attribute

/-- The words of an attribute. -/
def words : Attribute → List String
  | notNull => ["not", "null"]
  | null => ["null"]
  | unsigned => ["unsigned"]
  | autoIncrement => ["auto_increment"]
  | uniqueKey => ["unique", "key"]
  | primaryKey => ["primary", "key"]
  | onUpdate => ["on", "update", "current_timestamp"]

/-- The attributes that end with the word `key`. -/
def isKey : Attribute → Bool
  | uniqueKey | primaryKey => true
  | notNull | null | unsigned | autoIncrement | onUpdate => false

theorem words_spec (a : Attribute) : ∀ w ∈ a.words, isWord w ∧ Text.lowerCase w ≠ "comment" := by
  cases a <;> decide

theorem words_ne_nil (a : Attribute) : a.words ≠ [] := by
  cases a <;> exact List.cons_ne_nil _ _

theorem endsWithKey_words (a : Attribute) : endsWithKey a.words = a.isKey := by
  cases a <;> decide

/-- The last attribute has the last word. -/
theorem endsWithKey_flatMap (attributes : List Attribute) :
    endsWithKey (attributes.flatMap words) = attributes.getLast?.any isKey := by
  rcases List.eq_nil_or_concat attributes with rfl | ⟨before, a, rfl⟩
  · rfl
  · rw [List.concat_eq_append, List.flatMap_append, List.flatMap_singleton, List.getLast?_concat,
      Option.any_some, ← endsWithKey_words, endsWithKey, endsWithKey,
      List.getLast?_append_of_ne_nil _ a.words_ne_nil]

end Attribute

/-- A column as a declaration with attributes and no comment spells it. -/
structure Attributed where
  name : String
  rawType : String
  sizes : List String
  attributes : List Attribute
  deriving DecidableEq, Repr

namespace Attributed

/-- The column as it is written. -/
def clause (a : Attributed) : Clause :=
  ⟨a.name, a.rawType, a.sizes, a.attributes.flatMap Attribute.words, none⟩

/-- The column without its attributes. -/
def plain (a : Attributed) : Attributed :=
  { a with attributes := [] }

/-- The last attribute is `unique key` or `primary key`. -/
def endsInKey (a : Attributed) : Bool :=
  a.attributes.getLast?.any Attribute.isKey

/-- The column that is declared. The type of one named `comment` is taken
for its comment as well. -/
def column (a : Attributed) : Column :=
  ⟨a.name, a.rawType, if Text.lowerCase a.name == "comment" then some a.rawType else none⟩

/-- The columns that can be written. -/
structure WellFormed (a : Attributed) : Prop where
  name : isQuotable a.name
  rawType : isAttribute a.rawType
  sizes : ∀ w ∈ a.sizes, isAttribute w

instance (a : Attributed) : Decidable a.WellFormed :=
  decidable_of_iff (isQuotable a.name ∧ isAttribute a.rawType ∧ ∀ w ∈ a.sizes, isAttribute w)
    ⟨fun ⟨h₁, h₂, h₃⟩ => ⟨h₁, h₂, h₃⟩, fun ⟨h₁, h₂, h₃⟩ => ⟨h₁, h₂, h₃⟩⟩

variable {a : Attributed}

theorem WellFormed.plain (h : a.WellFormed) : a.plain.WellFormed :=
  ⟨h.name, h.rawType, h.sizes⟩

theorem WellFormed.base (h : a.WellFormed) : a.clause.base.Stem :=
  ⟨h.name, h.rawType, h.sizes, fun _ hw => absurd hw List.not_mem_nil⟩

theorem words_spec (a : Attributed) :
    ∀ w ∈ a.clause.attributes, isWord w ∧ Text.lowerCase w ≠ "comment" := by
  intro w hw
  obtain ⟨b, -, hw⟩ := List.mem_flatMap.1 hw
  exact b.words_spec w hw

theorem WellFormed.readAs (h : a.WellFormed) : a.clause.ReadAs a.clause.stemWords :=
  Clause.readAs_stemWords h.base (fun w hw => (a.words_spec w hw).1) rfl

/-- **A column is added as it is without its attributes.** -/
theorem WellFormed.adds (h : a.WellFormed) :
    Adds id a.clause.stemWords a.endsInKey a.column := by
  have hadds := Clause.adds_stemWords h.base fun w hw => (a.words_spec w hw).2
  rwa [clause, Attribute.endsWithKey_flatMap] at hadds

theorem endsInKey_plain (a : Attributed) : a.plain.endsInKey = false :=
  rfl

/-- The table as a declaration spells it. -/
def declare (table : String) (columns : List Attributed) : Declaration :=
  ⟨table, columns.map clause⟩

variable {table : String} {columns : List Attributed}

theorem words_declare (ht : isQuotable table) (hcolumns : ∀ a ∈ columns, a.WellFormed) :
    (scan (declare table columns).text).tokens.map Token.word = (.bare, "create") ::
      (.bare, "table") :: (.backquoted, table) :: columns.flatMap fun a => a.clause.stemWords := by
  have hread : ∀ c ∈ (declare table columns).columns, c.ReadAs c.stemWords := by
    intro c hc
    obtain ⟨a, ha, rfl⟩ := List.mem_map.1 hc
    exact (hcolumns a ha).readAs
  have hscan := (Declaration.scan_text (t := declare table columns) ht hread).1
  rwa [declare, List.flatMap_map] at hscan

/-- Extraction reaches the first column that ends in a key. -/
theorem extract_declare (ht : isQuotable table) (hkey : Text.lowerCase table ≠ "key")
    (hcolumns : ∀ a ∈ columns, a.WellFormed) :
    extract false (declare table columns).text =
      .ok ⟨table, (upTo endsInKey columns).map column⟩ := by
  have hcomplete : ∀ a ∈ columns, ∀ c, id c = a.column → c.isComplete := by
    rintro a ha c rfl
    exact isComplete_of_spelt (hcolumns a ha).name (hcolumns a ha).rawType
  have hmap := extract_of_adds hkey (ne_of_isQuotable ht) (words_declare ht hcolumns)
    (fun a ha => (hcolumns a ha).adds) hcomplete
  cases h : extract false (declare table columns).text with
  | error p => simp [h, Except.map] at hmap
  | ok schema =>
    simp only [h, Except.map, List.map_id, Except.ok.injEq, Prod.mk.injEq] at hmap
    rw [← hmap.1, ← hmap.2]

/-- Without attributes nothing ends in a key. -/
theorem extract_declare_plain (ht : isQuotable table) (hkey : Text.lowerCase table ≠ "key")
    (hcolumns : ∀ a ∈ columns, a.WellFormed) :
    extract false (declare table (columns.map plain)).text =
      .ok ⟨table, columns.map column⟩ := by
  have hplain : ∀ a ∈ columns.map plain, a.WellFormed := by
    intro a ha
    obtain ⟨b, hb, rfl⟩ := List.mem_map.1 ha
    exact (hcolumns b hb).plain
  have hall : upTo endsInKey (columns.map plain) = columns.map plain := by
    rw [upTo_eq_self_iff]
    intro a ha
    obtain ⟨b, -, rfl⟩ := List.mem_map.1 (List.dropLast_subset _ ha)
    exact b.endsInKey_plain
  rw [extract_declare ht hkey hplain, hall, List.map_map]
  rfl

/-- **Attributes end the columns only behind a key.** The columns up to the
first that ends in a key are extracted, as they are without any attributes;
they are all of the columns exactly if none before the last ends so. -/
theorem extract_attributed (ht : isQuotable table) (hkey : Text.lowerCase table ≠ "key")
    (hcolumns : ∀ a ∈ columns, a.WellFormed) :
    extract false (declare table columns).text =
        .ok ⟨table, (upTo endsInKey columns).map column⟩ ∧
      extract false (declare table (columns.map plain)).text =
        .ok ⟨table, columns.map column⟩ ∧
      (extract false (declare table columns).text =
          extract false (declare table (columns.map plain)).text ↔
        ∀ a ∈ columns.dropLast, a.endsInKey = false) := by
  have hattributed := extract_declare ht hkey hcolumns
  have hplain := extract_declare_plain ht hkey hcolumns
  refine ⟨hattributed, hplain, ?_⟩
  rw [hattributed, hplain, ← upTo_eq_self_iff]
  constructor
  · intro h
    simp only [Except.ok.injEq, Schema.mk.injEq, true_and] at h
    -- a prefix of the same length is the whole list
    have hlength := congrArg List.length h
    rw [List.length_map, List.length_map] at hlength
    exact (upTo_isPrefix endsInKey columns).eq_of_length hlength
  · intro h
    rw [h]

/-- A key before another attribute, and one at the end of a column. -/
def members : List Attributed :=
  [⟨"id", "bigint", ["20"], [.unsigned, .primaryKey, .notNull, .autoIncrement]⟩,
    ⟨"email", "varchar", ["255"], [.notNull, .uniqueKey]⟩,
    ⟨"seen", "timestamp", [], [.null, .onUpdate]⟩]

theorem extract_attributed_members :
    (isQuotable "members" ∧ Text.lowerCase "members" ≠ "key" ∧ ∀ a ∈ members, a.WellFormed) ∧
    extract false (declare "members" members).text =
      .ok ⟨"members", [⟨"id", "bigint", none⟩, ⟨"email", "varchar", none⟩]⟩ ∧
    extract false (declare "members" (members.take 2)).text =
      extract false (declare "members" ((members.take 2).map plain)).text := by
  have ht : isQuotable "members" := by decide
  have hkey : Text.lowerCase "members" ≠ "key" := by decide
  have hcolumns : ∀ a ∈ members, a.WellFormed := by decide
  refine ⟨⟨ht, hkey, hcolumns⟩, ?_, ?_⟩
  · rw [(extract_attributed ht hkey hcolumns).1]
    decide
  · exact (extract_attributed ht hkey (by decide)).2.2.2 (by decide)

/-- **An attribute can lose the columns behind it**, as `unique key` does
here. -/
theorem extract_attributed_ne :
    (∀ a ∈ members, a.WellFormed) ∧
    extract false (declare "members" members).text ≠
      .ok ⟨"members", members.map column⟩ ∧
    extract false (declare "members" members).text ≠
      extract false (declare "members" (members.map plain)).text := by
  have ht : isQuotable "members" := by decide
  have hkey : Text.lowerCase "members" ≠ "key" := by decide
  have hcolumns : ∀ a ∈ members, a.WellFormed := by decide
  have hlost : (upTo endsInKey members).map column ≠ members.map column := by decide
  have hne : extract false (declare "members" members).text ≠
      .ok ⟨"members", members.map column⟩ := by
    rw [extract_declare ht hkey hcolumns]
    simpa using hlost
  exact ⟨hcolumns, hne, by rwa [extract_declare_plain ht hkey hcolumns]⟩

end Attributed

end TableStruct
