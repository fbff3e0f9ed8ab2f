import TableStruct.Proofs.Schema.RoundTrip

/-!
# Columns up to a word `key`

A declaration is read column by column, as long as no column ends with the
word `key`: behind it the name of the next column begins the index clauses.
What a column consists of besides its name does not matter for this. If the
words of each column add that column (`Adds`), then the words of all of them
add the columns up to the first that ends with `key`
(`gather_columns`), and lenient extraction of the whole statement gives
these (`extract_of_adds`).
-/

namespace TableStruct

open Draft

/-- The elements up to the first with a property, that one included. -/
def upTo {α : Type} (p : α → Bool) : List α → List α
  | [] => []
  | a :: as => if p a then [a] else a :: upTo p as

theorem upTo_isPrefix {α : Type} (p : α → Bool) (as : List α) : upTo p as <+: as := by
  induction as with
  | nil => exact List.prefix_rfl
  | cons a as ih =>
    rw [upTo]
    split
    · exact ⟨as, rfl⟩
    · exact List.prefix_cons_inj a |>.2 ih

theorem mem_of_mem_upTo {α : Type} {p : α → Bool} {a : α} {as : List α} (h : a ∈ upTo p as) :
    a ∈ as :=
  (upTo_isPrefix p as).subset h

/-- The last element, and nothing before it, may have the property where
none is left out. -/
theorem upTo_eq_self_iff {α : Type} {p : α → Bool} {as : List α} :
    upTo p as = as ↔ ∀ a ∈ as.dropLast, p a = false := by
  induction as with
  | nil => simp [upTo]
  | cons a as ih =>
    cases as with
    | nil => simp [upTo]
    | cons b as =>
      rw [upTo, List.dropLast_cons_cons, List.forall_mem_cons, ← ih]
      cases p a <;> simp

variable {x : Context}

/-- A column is finished. The word before decides whether another one can be
named. -/
structure Finished (x : Context) (key : Bool) : Prop where
  assigned : 0 < x.assigned
  other : x.afterName = false
  word : x.word = "key" ↔ key

theorem Inside.finished (h : Inside x) : Finished x false :=
  ⟨h.assigned, h.other, by simp [h.key]⟩

theorem Finished.ready (h : Finished x false) : Ready x := by
  refine ⟨h.assigned, fun hname => ?_, fun hword => ?_⟩
  · simp [h.other] at hname
  · exact Bool.false_ne_true (h.word.1 hword)

/-- **Behind a word `key` no column is named**: a name ends the reading. -/
theorem Finished.gather_name (h : Finished x true) (d : Draft) (w : String)
    (ws : List (Grouping × String)) :
    gather x d (((.backquoted, w) :: ws).map tokenWith) = (d, true) := by
  have hkey : (x.word == "key") = true := by simpa using h.word.2 rfl
  have hroles : x.roles? (tokenWith (.backquoted, w)) = none := by
    have hb : (tokenWith (.backquoted, w)).isBackquoted := rfl
    rw [Context.roles?, if_pos hb, hkey, Bool.or_true, Bool.and_true,
      if_pos (decide_eq_true h.assigned)]
  rw [List.map_cons, gather, hroles]

/-- The words name a column and add it, `view` of it being `shown`, wherever
a column can be named; `key` tells whether the last of them is that word. -/
structure Adds {β : Type} (view : Column → β) (words : List (Grouping × String)) (key : Bool)
    (shown : β) : Prop where
  named : ∃ w rest, words = (.backquoted, w) :: rest
  takes : ∀ {x}, Ready x → ∀ d, ∃ x' column, Finished x' key ∧ view column = shown ∧
    Takes x d words x' (d.add column)

section Columns

variable {α β : Type} {view : Column → β} {words : α → List (Grouping × String)} {key : α → Bool}
  {shown : α → β} {as : List α}

/-- **The columns up to the first that ends with `key` are gathered**, and
nothing behind it. -/
theorem gather_columns (hx : Ready x) (has : ∀ a ∈ as, Adds view (words a) (key a) (shown a))
    (d : Draft) :
    (gather x d ((as.flatMap words).map tokenWith)).1.table = d.table ∧
      (gather x d ((as.flatMap words).map tokenWith)).1.columns.map view =
        d.columns.map view ++ (upTo key as).map shown := by
  induction as generalizing x d with
  | nil => exact ⟨rfl, by simp [gather, upTo]⟩
  | cons a as ih =>
    obtain ⟨x', column, hx', hshown, htakes⟩ := (has a List.mem_cons_self).takes hx d
    have hadd : (d.add column).columns.map view = d.columns.map view ++ [shown a] := by
      rw [Draft.columns_add, List.map_append, List.map_singleton, hshown]
    rw [List.flatMap_cons, htakes, upTo]
    cases hkey : key a with
    | true =>
      rw [hkey] at hx'
      have hstop : (gather x' (d.add column) ((as.flatMap words).map tokenWith)).1 =
          d.add column := by
        cases as with
        | nil => rfl
        | cons b as =>
          obtain ⟨w, rest, hwords⟩ := (has b (by simp)).named
          rw [List.flatMap_cons, hwords, List.cons_append, hx'.gather_name]
      rw [hstop]
      exact ⟨rfl, hadd⟩
    | false =>
      rw [hkey] at hx'
      obtain ⟨htable, hcolumns⟩ :=
        ih hx'.ready (fun b hb => has b (List.mem_cons_of_mem _ hb)) (d.add column)
      refine ⟨htable, ?_⟩
      rw [hcolumns, hadd, if_neg Bool.false_ne_true, List.map_cons, List.append_assoc]
      rfl

/-- **A statement is extracted from its words**: the table and the columns
up to the first that ends with `key`, if these are complete. -/
theorem extract_of_adds {s table : String} (hkey : Text.lowerCase table ≠ "key")
    (hne : table ≠ "")
    (hwords : (scan s).tokens.map Token.word = (.bare, "create") :: (.bare, "table") ::
      (.backquoted, table) :: as.flatMap words)
    (has : ∀ a ∈ as, Adds view (words a) (key a) (shown a))
    (hcomplete : ∀ a ∈ as, ∀ column, view column = shown a → column.isComplete) :
    (extract false s).map (fun schema => (schema.tableName, schema.fields.map view)) =
      .ok (table, (upTo key as).map shown) := by
  have htext : ∀ u ∈ (scan s).tokens, u.text ≠ "" := fun u hu => text_ne_of_mem_scan hu
  obtain ⟨x, hx, hgather⟩ := exists_gather_table hkey
  obtain ⟨htable, hcolumns⟩ := gather_columns hx has { table }
  rw [← hgather, ← hwords, ← gather_words] at htable hcolumns
  have hall : (gather {} {} (scan s).tokens).1.columns.filter Column.isComplete =
      (gather {} {} (scan s).tokens).1.columns := by
    rw [List.filter_eq_self]
    intro column hcolumn
    have hmem := List.mem_map_of_mem (f := view) hcolumn
    rw [hcolumns] at hmem
    obtain ⟨a, ha, hshown⟩ := List.mem_map.1 hmem
    exact hcomplete a (mem_of_mem_upTo ha) column hshown.symm
  rw [extract, Extraction.ofStatement, Extraction.schema_ofScan_lenient htext, hall, htable,
    if_neg hne]
  simp only [Except.map, hcolumns]
  rfl

end Columns

end TableStruct
