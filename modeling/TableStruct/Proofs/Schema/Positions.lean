import TableStruct.Proofs.Schema.Gathering

/-!
# The schema by positions

What a statement declares, said of the positions of its tokens. The table
name is the first identifier. The reading stops at the next identifier that
follows the word `key` or another column's name, and each identifier in
between names a column: the token after it is the column's type, and the
last token that follows the word `comment`, before the next name, is its
comment (`declared`).

`columnsUpTo` is the same list cut off at a position, the last column as far
as it is known there. What one token does to it is said in
`columnsUpTo_of_name` and `columnsUpTo_of_other`.
-/

namespace TableStruct

/-- The token at a position is an identifier. -/
def nameAt (ts : List Token) (i : Nat) : Bool :=
  ts[i]?.any Token.isBackquoted

/-- The token at a position is the word, in lower case. -/
def wordAt (ts : List Token) (i : Nat) (word : String) : Bool :=
  ts[i]?.any fun t => Text.lowerCase t.text == word

def textAt (ts : List Token) (i : Nat) : String :=
  (ts[i]?.map Token.text).getD ""

/-- The index clauses may begin at position `i`, the table name standing at
`k`: an identifier follows the word `key` or a column name. -/
def endsAt (ts : List Token) (k i : Nat) : Bool :=
  k < i && nameAt ts i && (wordAt ts (i - 1) "key" || (nameAt ts (i - 1) && k < i - 1))

/-- Where the reading stops: at the first such position, or at the end. -/
def stopOf (ts : List Token) (k : Nat) : Nat :=
  ((List.range ts.length).find? (endsAt ts k)).getD ts.length

/-- The position of the first identifier after `i` and before `e`, or `e`. -/
def nextName (ts : List Token) (i e : Nat) : Nat :=
  ((List.range e).find? fun m => i < m && nameAt ts m).getD e

/-- A token other than an identifier follows the word `comment`. -/
def remarkAt (ts : List Token) (j : Nat) : Bool :=
  !nameAt ts j && wordAt ts (j - 1) "comment"

/-- The text of the last such token after `i` and before `e`. -/
def remarkOf (ts : List Token) (i e : Nat) : Option String :=
  ((List.range e).filter fun j => i < j && remarkAt ts j).getLast?.map (textAt ts)

/-- The columns named after `k` that have a type before `e`. -/
def columnsOf (ts : List Token) (k e : Nat) : List Column :=
  ((List.range e).filter fun i => k < i && nameAt ts i && i + 1 < e).map fun i =>
    ⟨textAt ts i, textAt ts (i + 1), remarkOf ts i (nextName ts i e)⟩

/-- **The schema that tokens declare.** There is none without an identifier,
nor where a token before the first one follows the word `comment`. -/
def declared (ts : List Token) : Except Problem Schema :=
  match ts.findIdx? Token.isBackquoted with
  | none => .error .noTableName
  | some k =>
    if (List.range k).any fun j => 1 ≤ j && wordAt ts (j - 1) "comment" then .error .noTableName
    else .ok ⟨textAt ts k, columnsOf ts k (stopOf ts k)⟩

/-! ## Cut off at a position -/

/-- The positions of the column names after `k` and before `e`. -/
def namesUpTo (ts : List Token) (k e : Nat) : List Nat :=
  (List.range e).filter fun i => k < i && nameAt ts i

/-- What is known before `e` of the column named at `m`. -/
def columnAt (ts : List Token) (e m : Nat) : Column :=
  ⟨textAt ts m, if m + 1 < e then textAt ts (m + 1) else "", remarkOf ts m (nextName ts m e)⟩

/-- What is known before `e` of the columns. -/
def columnsUpTo (ts : List Token) (k e : Nat) : List Column :=
  (namesUpTo ts k e).map (columnAt ts e)

variable {ts : List Token} {k e i m : Nat}

theorem mem_namesUpTo : m ∈ namesUpTo ts k e ↔ m < e ∧ k < m ∧ nameAt ts m := by
  simp [namesUpTo]

theorem namesUpTo_of_name (hk : k < e) (hn : nameAt ts e) :
    namesUpTo ts k (e + 1) = namesUpTo ts k e ++ [e] := by
  simp [namesUpTo, List.range_succ, List.filter_append, hk, hn]

theorem namesUpTo_of_other (hn : nameAt ts e = false) :
    namesUpTo ts k (e + 1) = namesUpTo ts k e := by
  simp [namesUpTo, List.range_succ, List.filter_append, hn]

theorem pairwise_namesUpTo (ts : List Token) (k e : Nat) :
    (namesUpTo ts k e).Pairwise (· < ·) :=
  List.pairwise_lt_range.filter _

theorem nextName_le (ts : List Token) (i e : Nat) : nextName ts i e ≤ e := by
  unfold nextName
  cases h : (List.range e).find? fun m => i < m && nameAt ts m with
  | none => exact Nat.le_refl e
  | some m => exact Nat.le_of_lt (List.mem_range.1 (List.mem_of_find?_eq_some h))

theorem nextName_of_name (hm : m < e) (hn : nameAt ts e) :
    nextName ts m (e + 1) = nextName ts m e := by
  unfold nextName
  rw [List.range_succ, List.find?_append]
  cases (List.range e).find? fun j => m < j && nameAt ts j with
  | none => simp [hm, hn]
  | some j => rfl

/-- A column that a name follows keeps its bound. -/
theorem nextName_of_between {j : Nat} (hmj : m < j) (hje : j < e) (hn : nameAt ts j) :
    nextName ts m (e + 1) = nextName ts m e := by
  unfold nextName
  rw [List.range_succ, List.find?_append]
  cases h : (List.range e).find? fun j => m < j && nameAt ts j with
  | none =>
    have := List.find?_eq_none.1 h j (List.mem_range.2 hje)
    simp [hmj, hn] at this
  | some j => rfl

/-- A column that no name follows is bounded by the cut. -/
theorem nextName_of_last (h : ∀ j, m < j → j < e → nameAt ts j = false) :
    nextName ts m e = e := by
  unfold nextName
  have hnone : ((List.range e).find? fun j => m < j && nameAt ts j) = none := by
    rw [List.find?_eq_none]
    intro j hj hp
    simp only [Bool.and_eq_true, decide_eq_true_eq] at hp
    simp [h j hp.1 (List.mem_range.1 hj)] at hp
  rw [hnone]
  rfl

theorem remarkOf_succ (hm : m < e) :
    remarkOf ts m (e + 1) = if remarkAt ts e then some (textAt ts e) else remarkOf ts m e := by
  unfold remarkOf
  rw [List.range_succ, List.filter_append]
  cases hr : remarkAt ts e with
  | true => simp [hm, hr]
  | false => simp [hr]

theorem remarkOf_eq_none (h : e ≤ m + 1) : remarkOf ts m e = none := by
  have hnil : ((List.range e).filter fun j => m < j && remarkAt ts j) = [] := by
    rw [List.filter_eq_nil_iff]
    intro j hj hp
    have := List.mem_range.1 hj
    simp only [Bool.and_eq_true, decide_eq_true_eq] at hp
    omega
  rw [remarkOf, hnil]
  rfl

/-! ## What one token adds -/

/-- **A name adds a column of which nothing else is known**, and leaves the
others as they are, unless another name stands right before it. -/
theorem columnsUpTo_of_name (hk : k < e) (hn : nameAt ts e)
    (hprev : k < e - 1 → nameAt ts (e - 1) = false) :
    columnsUpTo ts k (e + 1) = columnsUpTo ts k e ++ [⟨textAt ts e, "", none⟩] := by
  unfold columnsUpTo
  rw [namesUpTo_of_name hk hn, List.map_append]
  congr 1
  · -- no column before is named at the cut, so each has its type already
    apply List.map_congr_left
    intro m hm
    obtain ⟨hme, hkm, hname⟩ := mem_namesUpTo.1 hm
    have hne : m + 1 ≠ e := by
      rintro rfl
      have hother : nameAt ts m = false := hprev (by omega)
      simp [hother] at hname
    rw [columnAt, columnAt, nextName_of_name hme hn]
    by_cases hlt : m + 1 < e
    · rw [if_pos hlt, if_pos (by omega)]
    · omega
  · have hle := nextName_le ts e (e + 1)
    rw [List.map_singleton, columnAt, if_neg (Nat.lt_irrefl _), remarkOf_eq_none hle]

/-- **Any other token amends the column named last.** It is the type if the
name stands right before it, and the comment if it is a remark. -/
theorem columnsUpTo_of_other {ms : List Nat} (hn : nameAt ts e = false)
    (hms : namesUpTo ts k e = ms ++ [m]) :
    columnsUpTo ts k (e + 1) = ms.map (columnAt ts e) ++
      [{ columnAt ts e m with
        rawType := if m + 1 = e then textAt ts e else (columnAt ts e m).rawType
        comment := if remarkAt ts e then some (textAt ts e) else (columnAt ts e m).comment }] := by
  have hsorted := pairwise_namesUpTo ts k e
  rw [hms, List.pairwise_append] at hsorted
  have hlast : m < e ∧ k < m ∧ nameAt ts m := mem_namesUpTo.1 (hms ▸ by simp)
  rw [columnsUpTo, namesUpTo_of_other hn, hms, List.map_append]
  congr 1
  · -- the columns before the last are bounded by its name, and keep what they have
    apply List.map_congr_left
    intro m' hm'
    have hlt : m' < m := hsorted.2.2 m' hm' m (by simp)
    rw [columnAt, columnAt, nextName_of_between hlt hlast.1 hlast.2.2, if_pos (by omega),
      if_pos (by omega)]
  · -- no name follows the last one, so the cut bounds it before and after
    have hnone : ∀ j, m < j → j < e → nameAt ts j = false := by
      intro j hmj hje
      by_contra hj
      have hmem : j ∈ ms ++ [m] := by
        rw [← hms]
        exact mem_namesUpTo.2 ⟨hje, by omega, by simpa using hj⟩
      rcases List.mem_append.1 hmem with hj' | hj'
      · have := hsorted.2.2 j hj' m (by simp)
        omega
      · simp only [List.mem_singleton] at hj'
        omega
    have hbound : nextName ts m e = e := nextName_of_last hnone
    have hbound' : nextName ts m (e + 1) = e + 1 := by
      apply nextName_of_last
      intro j hmj hje
      rcases Nat.lt_succ_iff_lt_or_eq.1 hje with hlt | rfl
      · exact hnone j hmj hlt
      · exact hn
    simp only [List.map_cons, List.map_nil, columnAt, hbound, hbound', remarkOf_succ hlast.1]
    have htype : (if m + 1 < e + 1 then textAt ts (m + 1) else "") =
        if m + 1 = e then textAt ts e else if m + 1 < e then textAt ts (m + 1) else "" := by
      rw [if_pos (by omega)]
      by_cases he : m + 1 = e
      · rw [if_pos he, he]
      · rw [if_neg he, if_pos (by omega)]
    rw [htype]

/-- **The complete columns are those that have a type before the cut.** -/
theorem filter_columnsUpTo (hts : ∀ t ∈ ts, t.text ≠ "") (he : e ≤ ts.length) :
    (columnsUpTo ts k e).filter Column.isComplete = columnsOf ts k e := by
  have htext : ∀ j, j < ts.length → textAt ts j ≠ "" := by
    intro j hj
    rw [textAt, List.getElem?_eq_getElem hj]
    exact hts _ (List.getElem_mem hj)
  rw [columnsUpTo, columnsOf, namesUpTo, List.filter_map, List.filter_filter]
  have hfilter : ((List.range e).filter fun m =>
        (Column.isComplete ∘ columnAt ts e) m && (k < m && nameAt ts m)) =
      (List.range e).filter fun m => k < m && nameAt ts m && m + 1 < e := by
    apply List.filter_congr
    intro m hm
    have hme := List.mem_range.1 hm
    by_cases hlt : m + 1 < e
    · simp [columnAt, Column.isComplete, hlt, htext m (by omega), htext (m + 1) (by omega)]
    · simp [columnAt, Column.isComplete, hlt]
  rw [hfilter]
  apply List.map_congr_left
  intro m hm
  have hmem := (List.mem_filter.1 hm).2
  simp only [Bool.and_eq_true, decide_eq_true_eq] at hmem
  rw [columnAt, if_pos hmem.2]

end TableStruct
