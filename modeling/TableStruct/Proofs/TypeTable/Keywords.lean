import TableStruct.Proofs.Text.Letters
import TableStruct.Proofs.Text.Ordered
import TableStruct.TypeTable
import Mathlib.Data.List.Induction

/-!
# Keywords and their types

A type table is read in two directions: a keyword is resolved to its type,
and the keywords of a type are listed. Of several insertions of one keyword
the last counts, and the table it started from only where there was none
(`lookup_insertAll`). Whatever is inserted, the keywords are kept in upper
case and in order (`WellFormed.insertAll`), and in a table of this kind the
two directions agree (`WellFormed.lists`).

Keywords are trimmed where they are inserted and not where they are resolved.
So a keyword with blanks around it is listed without them and resolved only
without them.
-/

namespace TableStruct

namespace TypeTable

open Text

variable {t : TypeTable} {goType other : GoType} {keyword k raw : String}

/-! ## One keyword -/

@[simp] theorem asciiUpper_normalize (keyword : String) :
    asciiUpper (normalize keyword) = normalize keyword :=
  asciiUpper_asciiUpper _

/-- **Only the keyword that is inserted gets another type.** -/
theorem lookup_insertKeyword (t : TypeTable) (goType : GoType) (keyword k : String) :
    (t.insertKeyword goType keyword).entries.lookup k =
      if k = normalize keyword then some goType else t.entries.lookup k :=
  lookup_insertEntry _ _ _ _

theorem resolve_insertKeyword (t : TypeTable) (goType : GoType) (keyword raw : String) :
    (t.insertKeyword goType keyword).resolve raw =
      if asciiUpper raw = normalize keyword then goType else t.resolve raw := by
  rw [resolve, lookup_insertKeyword]
  split
  · rfl
  · rfl

/-- The keywords of the table are in upper case and in order. -/
structure WellFormed (t : TypeTable) : Prop where
  /-- They increase. -/
  increasing : Increasing (t.entries.map Prod.fst)
  /-- Each is its own upper case. -/
  upper : ∀ key ∈ t.entries.map Prod.fst, asciiUpper key = key

namespace WellFormed

theorem empty : TypeTable.empty.WellFormed :=
  ⟨List.Pairwise.nil, fun _ hkey => by cases hkey⟩

theorem insertKeyword (h : t.WellFormed) (goType : GoType) (keyword : String) :
    (t.insertKeyword goType keyword).WellFormed := by
  constructor
  · rw [TypeTable.insertKeyword, keys_insertEntry]
    exact h.increasing.insertWord _
  · intro key hkey
    rw [TypeTable.insertKeyword, keys_insertEntry, mem_insertWord] at hkey
    rcases hkey with rfl | hkey
    · exact asciiUpper_normalize keyword
    · exact h.upper key hkey

theorem mem_keywordsFor (h : t.WellFormed) :
    k ∈ t.keywordsFor goType ↔ t.entries.lookup k = some goType := by
  rw [lookup_eq_some_iff h.increasing, keywordsFor, List.mem_map]
  constructor
  · rintro ⟨e, hfilter, rfl⟩
    obtain ⟨hmem, htype⟩ := List.mem_filter.1 hfilter
    rw [← eq_of_beq htype]
    exact hmem
  · intro hmem
    exact ⟨(k, goType), List.mem_filter.2 ⟨hmem, by simp⟩, rfl⟩

/-- A keyword that is looked up with success is in upper case. -/
theorem asciiUpper_eq_of_lookup (h : t.WellFormed) (hk : t.entries.lookup k = some goType) :
    asciiUpper k = k := by
  rw [lookup_eq_some_iff h.increasing] at hk
  exact h.upper k (List.mem_map_of_mem hk)

end WellFormed

/-! ## Rows of keywords -/

/-- Points the keywords of each row at the type of the row, one row after the
other. -/
def insertAll (t : TypeTable) (rows : List (GoType × List String)) : TypeTable :=
  rows.foldl (fun t row => t.insert row.1 row.2) t

/-- The keywords of some rows with their types, in order. -/
def assignments (rows : List (GoType × List String)) : List (String × GoType) :=
  rows.flatMap fun row => row.2.map fun keyword => (keyword, row.1)

/-- The type of the last keyword in some rows that stands for the text. -/
def lastType? (rows : List (GoType × List String)) (raw : String) : Option GoType :=
  ((assignments rows).filter fun a => normalize a.1 = asciiUpper raw).getLast?.map Prod.snd

theorem insertAll_eq (t : TypeTable) (rows : List (GoType × List String)) :
    t.insertAll rows = (assignments rows).foldl (fun t a => t.insertKeyword a.2 a.1) t := by
  rw [assignments, List.foldl_flatMap]
  simp only [List.foldl_map]
  rfl

/-- The table of MySQL is its rows, inserted one after the other. -/
theorem mysql_eq : mysql = empty.insertAll mysqlKeywords := rfl

theorem WellFormed.insertAll (h : t.WellFormed) (rows : List (GoType × List String)) :
    (t.insertAll rows).WellFormed := by
  rw [insertAll_eq]
  induction assignments rows generalizing t with
  | nil => exact h
  | cons a rest ih => exact ih (h.insertKeyword a.2 a.1)

/-- **The last of several insertions counts**, and what was there before only
if there was none. -/
theorem resolve_insertAll (t : TypeTable) (rows : List (GoType × List String)) (raw : String) :
    (t.insertAll rows).resolve raw = (lastType? rows raw).getD (t.resolve raw) := by
  rw [insertAll_eq, lastType?]
  -- from the end, since the last keyword decides
  induction assignments rows using List.reverseRecOn with
  | nil => rfl
  | append_singleton front a ih =>
    rw [List.foldl_append, List.foldl_cons, List.foldl_nil, resolve_insertKeyword,
      List.filter_append]
    by_cases ha : normalize a.1 = asciiUpper raw
    · simp [ha]
    · rw [if_neg (Ne.symm ha), ih]
      simp [ha]

@[simp] theorem resolve_empty (raw : String) : empty.resolve raw = .dynamic := rfl

/-! ## Lists of keywords -/

/-- The keywords of each type are listed in order and for this type alone,
and the lists agree with what keywords resolve to. -/
structure Lists (t : TypeTable) : Prop where
  increasing : ∀ goType, Increasing (t.keywordsFor goType)
  disjoint : ∀ goType other, goType ≠ other →
    (t.keywordsFor goType).Disjoint (t.keywordsFor other)
  mem_iff : ∀ goType, goType ≠ .dynamic → ∀ k,
    k ∈ t.keywordsFor goType ↔ asciiUpper k = k ∧ t.resolve k = goType

/-- What inserting a keyword changes: the keyword has the new type, is listed
for it and for no other, and nothing else is different. -/
structure Retargets (t : TypeTable) (goType : GoType) (keyword : String) (t' : TypeTable) :
    Prop where
  resolve : ∀ raw, t'.resolve raw =
    if asciiUpper raw = normalize keyword then goType else t.resolve raw
  keywords : t'.keywordsFor goType = insertWord (normalize keyword) (t.keywordsFor goType)
  others : ∀ other, other ≠ goType →
    t'.keywordsFor other = (t.keywordsFor other).erase (normalize keyword)

namespace WellFormed

theorem increasing_keywordsFor (h : t.WellFormed) (goType : GoType) :
    Increasing (t.keywordsFor goType) :=
  List.Pairwise.sublist (List.filter_sublist.map Prod.fst) h.increasing

/-- **What is listed and what is resolved agree.** A keyword of the dynamic
type is told from none by the list alone. -/
theorem lists (h : t.WellFormed) : t.Lists := by
  refine ⟨h.increasing_keywordsFor, fun goType other hne k hk hk' => ?_,
    fun goType hgo k => ?_⟩
  · rw [h.mem_keywordsFor] at hk hk'
    exact hne (Option.some.inj (hk.symm.trans hk'))
  · rw [h.mem_keywordsFor]
    constructor
    · intro hk
      have hupper := h.asciiUpper_eq_of_lookup hk
      exact ⟨hupper, by rw [TypeTable.resolve, hupper, hk, Option.getD_some]⟩
    · rintro ⟨hupper, hresolve⟩
      rw [TypeTable.resolve, hupper] at hresolve
      cases hk : t.entries.lookup k with
      | none =>
        rw [hk, Option.getD_none] at hresolve
        exact absurd hresolve.symm hgo
      | some type =>
        rw [hk, Option.getD_some] at hresolve
        rw [hresolve]

theorem retargets (h : t.WellFormed) (goType : GoType) (keyword : String) :
    t.Retargets goType keyword (t.insertKeyword goType keyword) := by
  have h' := h.insertKeyword goType keyword
  refine ⟨t.resolve_insertKeyword goType keyword, ?_, fun other hne => ?_⟩
  · refine (h'.increasing_keywordsFor _).ext ((h.increasing_keywordsFor _).insertWord _) fun k => ?_
    rw [h'.mem_keywordsFor, mem_insertWord, h.mem_keywordsFor, lookup_insertKeyword]
    by_cases hk : k = normalize keyword
    · simp [hk]
    · simp [hk]
  · have hnodup := (h.increasing_keywordsFor other).nodup
    refine (h'.increasing_keywordsFor _).ext
      (List.Pairwise.sublist List.erase_sublist (h.increasing_keywordsFor _)) fun k => ?_
    rw [h'.mem_keywordsFor, hnodup.mem_erase_iff, h.mem_keywordsFor, lookup_insertKeyword]
    by_cases hk : k = normalize keyword
    · simp [hk, Ne.symm hne]
    · simp [hk]

end WellFormed

/-- **Keywords are resolved as they were last inserted, and listed as they are
resolved.** Rows inserted into the empty table or that of MySQL leave a table
in which a text has the type of the last keyword that stands for it, or else
the type it had before; the lists agree with that; and a keyword inserted once
more moves to its new type alone. -/
theorem lists_insertAll {base t : TypeTable} {rows : List (GoType × List String)}
    (hbase : base = empty ∨ base = mysql) (ht : t = base.insertAll rows) :
    (∀ raw, t.resolve raw = (lastType? rows raw).getD (base.resolve raw)) ∧
    (∀ raw, empty.resolve raw = .dynamic ∧
      mysql.resolve raw = (lastType? mysqlKeywords raw).getD .dynamic) ∧
    t.Lists ∧
    ∀ goType keyword, t.Retargets goType keyword (t.insert goType [keyword]) := by
  have hbase : base.WellFormed := by
    rcases hbase with rfl | rfl
    · exact .empty
    · exact mysql_eq ▸ WellFormed.empty.insertAll _
  have hwell : t.WellFormed := ht ▸ hbase.insertAll rows
  refine ⟨fun raw => ?_, fun raw => ⟨resolve_empty raw, ?_⟩, hwell.lists, hwell.retargets⟩
  · rw [ht, resolve_insertAll]
  · rw [mysql_eq, resolve_insertAll, resolve_empty]

/-- Rows with blanks around keywords, each keyword in both. -/
def eventRows : List (GoType × List String) :=
  [(.string, [" json", "TIMESTAMP"]), (.time, ["timestamp", "Json\t"])]

/-- The second row has the last word on both keywords, and wide integers lose
the one that the table of MySQL had for them. A keyword with a blank before it
is none. -/
theorem lists_insertAll_events : (mysql = empty ∨ mysql = mysql) ∧
    (mysql.insertAll eventRows).resolve "jSON" = .time ∧
    (mysql.insertAll eventRows).resolve " json" = .dynamic ∧
    "TIMESTAMP" ∈ (mysql.insertAll eventRows).keywordsFor .time ∧
    "TIMESTAMP" ∉ (mysql.insertAll eventRows).keywordsFor .int64 ∧
    "BIGINT" ∈ (mysql.insertAll eventRows).keywordsFor .int64 ∧
    ((mysql.insertAll eventRows).insert .string ["json"]).resolve "Json" = .string ∧
    ((mysql.insertAll eventRows).insert .string ["json"]).resolve "timestamp" = .time := by
  have hbase : mysql = empty ∨ mysql = mysql := .inr rfl
  obtain ⟨hlast, hbases, hlists, hretargets⟩ := @lists_insertAll mysql _ eventRows hbase rfl
  have hresolve : ∀ raw, (mysql.insertAll eventRows).resolve raw =
      (lastType? eventRows raw).getD ((lastType? mysqlKeywords raw).getD .dynamic) := fun raw => by
    rw [hlast, (hbases raw).2]
  have hdisjoint := hlists.disjoint .time .int64 (by decide)
  have hmem : "TIMESTAMP" ∈ (mysql.insertAll eventRows).keywordsFor .time :=
    (hlists.mem_iff _ (by decide) _).2 ⟨by decide +kernel, (hresolve _).trans (by decide +kernel)⟩
  refine ⟨hbase, ?_, ?_, hmem, fun hint => hdisjoint hmem hint, ?_, ?_, ?_⟩
  · exact (hresolve _).trans (by decide +kernel)
  · exact (hresolve _).trans (by decide +kernel)
  · exact (hlists.mem_iff _ (by decide) _).2
      ⟨by decide +kernel, (hresolve _).trans (by decide +kernel)⟩
  · exact ((hretargets .string "json").resolve _).trans (if_pos (by decide +kernel))
  · rw [(hretargets .string "json").resolve, if_neg (by decide +kernel), hresolve]
    decide +kernel

end TypeTable

end TableStruct
