import TableStruct.Proofs.Schema.Positions

/-!
# Extraction by positions

Extraction carries along how many roles have been given and what the last
token was. `ReadsTo` says what that comes to at a position after the table
name: the columns gathered are `columnsUpTo` that position. It is kept by
each token (`ReadsTo.step`), the reading stops exactly where `endsAt` says
(`ReadsTo.roles?_eq_none`), and so what is gathered in the end is what the
tokens declare (`extract_eq_declared`).
-/

namespace TableStruct

open Draft

variable {ts : List Token} {k i : Nat} {x : Context} {d : Draft}

theorem nameAt_getElem (hi : i < ts.length) : nameAt ts i = ts[i].isBackquoted := by
  rw [nameAt, List.getElem?_eq_getElem hi, Option.any_some]

theorem textAt_getElem (hi : i < ts.length) : textAt ts i = ts[i].text := by
  rw [textAt, List.getElem?_eq_getElem hi, Option.map_some, Option.getD_some]

/-! ## Where the reading stops -/

theorem stopOf_le (ts : List Token) (k : Nat) : stopOf ts k ≤ ts.length := by
  unfold stopOf
  cases h : (List.range ts.length).find? (endsAt ts k) with
  | none => exact Nat.le_refl _
  | some e => exact Nat.le_of_lt (List.mem_range.1 (List.mem_of_find?_eq_some h))

theorem endsAt_stopOf (h : stopOf ts k < ts.length) : endsAt ts k (stopOf ts k) := by
  unfold stopOf at h ⊢
  cases hf : (List.range ts.length).find? (endsAt ts k) with
  | none => simp [hf] at h
  | some e => exact List.find?_some hf

theorem endsAt_of_lt_stopOf (h : i < stopOf ts k) : endsAt ts k i = false := by
  have hlen : i < ts.length := Nat.lt_of_lt_of_le h (stopOf_le ts k)
  unfold stopOf at h
  cases hf : (List.range ts.length).find? (endsAt ts k) with
  | none =>
    have hnone := List.find?_eq_none.1 hf i (List.mem_range.2 hlen)
    exact Bool.not_eq_true _ ▸ hnone
  | some e =>
    rw [hf, Option.getD_some] at h
    have hbefore := (List.find?_range_eq_some.1 hf).2.2 i h
    simpa using hbefore

theorem lt_stopOf (hk : k < ts.length) : k < stopOf ts k := by
  rcases Nat.lt_or_ge (stopOf ts k) ts.length with h | h
  · have hends := endsAt_stopOf h
    simp only [endsAt, Bool.and_eq_true, decide_eq_true_eq] at hends
    exact hends.1.1
  · exact Nat.lt_of_lt_of_le hk h

/-! ## What is remembered -/

/-- The context remembers the token before a position. -/
structure Follows (ts : List Token) (i : Nat) (x : Context) : Prop where
  name : x.afterName = (0 < i && nameAt ts (i - 1))
  word : ∀ w, w ≠ "" → (x.word == w) = (0 < i && wordAt ts (i - 1) w)

theorem follows_zero (ts : List Token) : Follows ts 0 {} := by
  refine ⟨rfl, fun w hw => ?_⟩
  simp [hw.symm]

theorem follows_after (hi : i < ts.length) (x : Context) (roles : List Role) :
    Follows ts (i + 1) (x.after ts[i] roles) := by
  refine ⟨?_, fun w _ => ?_⟩
  · simp [Context.after, Context.afterName, nameAt_getElem hi, Token.isBackquoted]
  · simp [Context.after, wordAt, List.getElem?_eq_getElem hi]

namespace Follows

variable (h : Follows ts i x)

include h

theorem afterName_eq (hi : 0 < i) : x.afterName = nameAt ts (i - 1) := by
  rw [h.name, decide_eq_true hi, Bool.true_and]

theorem word_eq (hi : 0 < i) {w : String} (hw : w ≠ "") : (x.word == w) = wordAt ts (i - 1) w := by
  rw [h.word w hw, decide_eq_true hi, Bool.true_and]

end Follows

/-! ## Before the table is named -/

/-- **Only the first role can name the table.** Without an identifier, or
once a role has been given, it keeps its name. -/
theorem table_gather {us : List Token} (h : 0 < x.assigned ∨ ∀ t ∈ us, t.isBackquoted = false) :
    (gather x d us).1.table = d.table := by
  induction us generalizing x d with
  | nil => rfl
  | cons t us ih =>
    rw [gather]
    cases hr : x.roles? t with
    | none => rfl
    | some roles =>
      have hnext : 0 < (x.after t roles).assigned ∨ ∀ u ∈ us, u.isBackquoted = false := by
        refine h.imp ?_ fun h u hu => h u (List.mem_cons_of_mem _ hu)
        intro hpos
        simp only [Context.after]
        omega
      have hkept : (roles.foldl (take t.text) d).table = d.table := by
        rcases Context.roles?_cases hr with ⟨hb, ha, -⟩ | ⟨-, -, -, -, rfl⟩ | ⟨-, rfl⟩
        · rcases h with h | h
          · omega
          · simp [h t List.mem_cons_self] at hb
        · rfl
        · rw [foldl_take_amend]
      exact (ih hnext).trans hkept

/-- **Before the first identifier nothing is gathered.** What matters is
whether a token followed the word `comment`. -/
theorem gather_drop (hi : i ≤ ts.length) (hother : ∀ j < i, nameAt ts j = false) :
    ∃ x, gather {} {} ts = gather x {} (ts.drop i) ∧ Follows ts i x ∧
      (x.assigned = 0 ↔ ∀ j < i, 1 ≤ j → wordAt ts (j - 1) "comment" = false) := by
  induction i with
  | zero => exact ⟨{}, rfl, follows_zero ts, by simp⟩
  | succ i ih =>
    obtain ⟨x, hgather, hfollows, hcount⟩ := ih (by omega) fun j hj => hother j (by omega)
    have hname : ts[i].isBackquoted = false := by
      rw [← nameAt_getElem hi]
      exact hother i (by omega)
    have hafter : x.afterName = false := by
      rw [hfollows.name]
      rcases Nat.eq_zero_or_pos i with rfl | hpos
      · rfl
      · rw [hother (i - 1) (by omega), Bool.and_false]
    have hroles : x.roles? ts[i] = some x.otherRoles := by
      rw [Context.roles?, hname]
      rfl
    refine ⟨x.after ts[i] x.otherRoles, ?_, follows_after hi x _, ?_⟩
    · rw [hgather, List.drop_eq_getElem_cons hi, gather, hroles]
      simp only [foldl_take_amend]
      rfl
    · have hlength : x.otherRoles.length = if x.word == "comment" then 1 else 0 := by
        rw [Context.otherRoles, hafter, if_neg Bool.false_ne_true, List.nil_append]
        split <;> rfl
      rw [Context.after, Nat.add_eq_zero_iff, hcount, hlength, hfollows.word _ (by decide)]
      constructor
      · rintro ⟨hbefore, hnow⟩ j hj hone
        rcases Nat.lt_succ_iff_lt_or_eq.1 hj with hlt | rfl
        · exact hbefore j hlt hone
        · simpa [show 0 < j from hone] using hnow
      · intro hall
        refine ⟨fun j hj hone => hall j (by omega) hone, ?_⟩
        rcases Nat.eq_zero_or_pos i with rfl | hpos
        · rfl
        · rw [hall i (by omega) hpos, Bool.and_false]
          rfl

/-! ## After it is named -/

/-- **The invariant of a reading past the table name**, which stands at `k`,
before the token at `i`. -/
structure ReadsTo (ts : List Token) (k i : Nat) (x : Context) (d : Draft) : Prop where
  past : k < i
  named : nameAt ts k
  follows : Follows ts i x
  /-- The table was given its role. -/
  assigned : 0 < x.assigned
  /-- Every token since was given one. -/
  assigned_iff : 1 < x.assigned ↔ k + 1 < i
  table : d.table = textAt ts k
  columns : d.columns = columnsUpTo ts k i
  /-- The column named last is pending. -/
  pending : d.pending = none → d.fields = []

namespace ReadsTo

theorem of_table (hk : k < ts.length) (hn : nameAt ts k) (x : Context) (hx : x.assigned = 0) :
    ReadsTo ts k (k + 1) (x.after ts[k] [.table]) (take ts[k].text {} .table) := by
  have hnone : namesUpTo ts k (k + 1) = [] := by
    rw [List.eq_nil_iff_forall_not_mem]
    intro m hm
    have := mem_namesUpTo.1 hm
    omega
  refine ⟨by omega, hn, follows_after hk x _, ?_, ?_, (textAt_getElem hk).symm, ?_, fun _ => rfl⟩
  · simp [Context.after]
  · simp [Context.after, hx]
  · rw [columnsUpTo, hnone]
    rfl

variable (h : ReadsTo ts k i x d)

include h

/-- **The reading stops where the index clauses begin.** -/
theorem roles?_eq_none (hi : i < ts.length) : x.roles? ts[i] = none ↔ endsAt ts k i := by
  have hpos : 0 < i := Nat.zero_lt_of_lt h.past
  have hmany : decide (1 < x.assigned) = decide (k < i - 1) := by
    rw [decide_eq_decide, h.assigned_iff]
    omega
  rw [Context.roles?, endsAt, nameAt_getElem hi, decide_eq_true h.past, Bool.true_and]
  cases ts[i].isBackquoted with
  | false => simp
  | true =>
    rw [h.follows.afterName_eq hpos, h.follows.word_eq hpos (by decide), hmany]
    rw [if_pos rfl, decide_eq_true h.assigned, Bool.true_and, Bool.true_and, Bool.or_comm]
    cases wordAt ts (i - 1) "key" || nameAt ts (i - 1) && decide (k < i - 1) with
    | true => simp
    | false => simp [Nat.ne_of_gt h.assigned]

/-- The last column is pending exactly where a column was named. -/
theorem pending_eq {ms : List Nat} {m : Nat} (hms : namesUpTo ts k i = ms ++ [m]) :
    d.fields = ms.map (columnAt ts i) ∧ d.pending = some (columnAt ts i m) := by
  have hcolumns := h.columns
  rw [columnsUpTo, hms, List.map_append, List.map_singleton, Draft.columns] at hcolumns
  cases hp : d.pending with
  | none => simp [h.pending hp, hp] at hcolumns
  | some c =>
    rw [hp] at hcolumns
    obtain ⟨hfields, hlast⟩ := List.append_inj' hcolumns rfl
    obtain rfl := List.singleton_inj.1 hlast
    exact ⟨hfields, rfl⟩

/-- The token before the position names the last column, or none does. -/
theorem afterName_iff {ms : List Nat} {m : Nat} (hms : namesUpTo ts k i = ms ++ [m]) :
    x.afterName = decide (m + 1 = i) := by
  have hlast : m < i ∧ k < m ∧ nameAt ts m := mem_namesUpTo.1 (hms ▸ by simp)
  rw [h.follows.afterName_eq (by omega), Bool.eq_iff_iff, decide_eq_true_eq]
  constructor
  · -- an identifier there is a name after the table's, and the last of them
    intro hname
    have hmem : i - 1 ∈ ms ++ [m] := by
      rw [← hms]
      exact mem_namesUpTo.2 ⟨by omega, by omega, hname⟩
    have hsorted := pairwise_namesUpTo ts k i
    rw [hms, List.pairwise_append] at hsorted
    rcases List.mem_append.1 hmem with hbefore | hm
    · have := hsorted.2.2 _ hbefore m (by simp)
      omega
    · have := List.mem_singleton.1 hm
      omega
  · rintro rfl
    exact hlast.2.2

theorem one_lt_assigned (hi : i < ts.length) {roles : List Role}
    (hr : x.roles? ts[i] = some roles) : 1 < (x.after ts[i] roles).assigned := by
  have hpast := h.past
  have hassigned := h.assigned
  simp only [Context.after]
  rcases Nat.lt_or_ge (k + 1) i with hlater | hfirst
  · have := h.assigned_iff.2 hlater
    omega
  · -- right after the table name a token is a name itself, or is given a type's role
    obtain rfl : i = k + 1 := by omega
    have hafter : x.afterName = true := by
      rw [h.follows.afterName_eq (Nat.zero_lt_of_lt hpast)]
      exact h.named
    rcases Context.roles?_cases hr with ⟨-, -, rfl⟩ | ⟨-, -, -, -, rfl⟩ | ⟨-, rfl⟩
    · simpa using hassigned
    · simpa using hassigned
    · rw [Context.otherRoles, hafter, if_pos rfl, List.length_append, List.length_singleton]
      omega

theorem columns_of_name (hi : i < ts.length) (hb : ts[i].isBackquoted)
    (hname : ¬ (x.afterName ∧ 1 < x.assigned)) :
    (take ts[i].text d .field).columns = columnsUpTo ts k (i + 1) := by
  have hpast := h.past
  have hprev : k < i - 1 → nameAt ts (i - 1) = false := by
    intro hlater
    have hmany : 1 < x.assigned := h.assigned_iff.2 (by omega)
    rw [← h.follows.afterName_eq (by omega)]
    simpa [hmany] using hname
  rw [columnsUpTo_of_name hpast ((nameAt_getElem hi).trans hb) hprev, ← h.columns,
    textAt_getElem hi]
  rfl

/-- Any other token amends the last column as the positions say. -/
theorem amend_eq (hi : i < ts.length) (hb : ts[i].isBackquoted = false) {ms : List Nat} {m : Nat}
    (hms : namesUpTo ts k i = ms ++ [m]) :
    amend x ts[i].text (columnAt ts i m) =
      { columnAt ts i m with
        rawType := if m + 1 = i then textAt ts i else (columnAt ts i m).rawType
        comment := if remarkAt ts i then some (textAt ts i) else (columnAt ts i m).comment } := by
  have hpos : 0 < i := Nat.zero_lt_of_lt h.past
  have hremark : (x.word == "comment") = remarkAt ts i := by
    rw [remarkAt, nameAt_getElem hi, hb, h.follows.word_eq hpos (by decide), Bool.not_false,
      Bool.true_and]
  rw [amend, hremark, h.afterName_iff hms, textAt_getElem hi]
  simp only [decide_eq_true_eq]

theorem columns_of_other (hi : i < ts.length) (hb : ts[i].isBackquoted = false) :
    { d with pending := d.pending.map (amend x ts[i].text) : Draft }.columns =
      columnsUpTo ts k (i + 1) := by
  have hother : nameAt ts i = false := (nameAt_getElem hi).trans hb
  rcases List.eq_nil_or_concat (namesUpTo ts k i) with hnil | ⟨ms, m, hms⟩
  · have hcolumns := h.columns
    rw [columnsUpTo, hnil, List.map_nil, Draft.columns, List.append_eq_nil_iff] at hcolumns
    have hnone : d.pending = none := by simpa using hcolumns.2
    rw [columnsUpTo, namesUpTo_of_other hother, hnil, Draft.columns, hcolumns.1, hnone]
    rfl
  · rw [List.concat_eq_append] at hms
    obtain ⟨hfields, hpending⟩ := h.pending_eq hms
    rw [columnsUpTo_of_other hother hms, ← h.amend_eq hi hb hms, Draft.columns, hfields, hpending]
    rfl

/-- **A token keeps the invariant.** -/
theorem step (hi : i < ts.length) {roles : List Role} (hr : x.roles? ts[i] = some roles) :
    ReadsTo ts k (i + 1) (x.after ts[i] roles) (roles.foldl (take ts[i].text) d) := by
  have hpast := h.past
  have hmany := h.one_lt_assigned hi hr
  have hkept : 1 < (x.after ts[i] roles).assigned ↔ k + 1 < i + 1 := by
    simp only [hmany, true_iff]
    omega
  rcases Context.roles?_cases hr with ⟨-, ha, -⟩ | ⟨hb, -, hname, -, rfl⟩ | ⟨hb, rfl⟩
  · exact absurd ha (Nat.ne_of_gt h.assigned)
  · exact ⟨by omega, h.named, follows_after hi x _, by omega, hkept, h.table,
      h.columns_of_name hi hb hname, nofun⟩
  · rw [foldl_take_amend]
    refine ⟨by omega, h.named, follows_after hi x _, by omega, hkept, h.table,
      h.columns_of_other hi hb, ?_⟩
    intro hnone
    exact h.pending (Option.map_eq_none_iff.1 hnone)

/-- **A whole reading.** What is gathered from the position on is the table
name and the columns up to the stop. -/
theorem gather (hstop : i ≤ stopOf ts k) :
    (gather x d (ts.drop i)).1.table = textAt ts k ∧
      (gather x d (ts.drop i)).1.columns = columnsUpTo ts k (stopOf ts k) := by
  induction hn : stopOf ts k - i generalizing i x d with
  | zero =>
    -- the stop is the end of the tokens or a place where no role is given
    obtain rfl : i = stopOf ts k := by omega
    rcases Nat.lt_or_ge (stopOf ts k) ts.length with hlt | hge
    · have hnone : x.roles? ts[stopOf ts k] = none :=
        (h.roles?_eq_none hlt).2 (endsAt_stopOf hlt)
      rw [List.drop_eq_getElem_cons hlt, Draft.gather, hnone]
      exact ⟨h.table, h.columns⟩
    · rw [List.drop_eq_nil_of_le hge]
      exact ⟨h.table, h.columns⟩
  | succ n ih =>
    have hlt : i < stopOf ts k := by omega
    have hi : i < ts.length := Nat.lt_of_lt_of_le hlt (stopOf_le ts k)
    have hgoes : x.roles? ts[i] ≠ none := by
      rw [Ne, h.roles?_eq_none hi, endsAt_of_lt_stopOf hlt]
      exact Bool.false_ne_true
    obtain ⟨roles, hr⟩ := Option.ne_none_iff_exists'.1 hgoes
    rw [List.drop_eq_getElem_cons hi, Draft.gather, hr]
    exact ih (h.step hi hr) hlt (by omega)

end ReadsTo

/-! ## The whole reading -/

/-- **The table and its columns**, where no token before the first
identifier follows the word `comment`. -/
theorem gather_of_table (hlt : k < ts.length) (hb : ts[k].isBackquoted)
    (hother : ∀ j < k, nameAt ts j = false)
    (hquiet : ∀ j < k, 1 ≤ j → wordAt ts (j - 1) "comment" = false) :
    (gather {} {} ts).1.table = textAt ts k ∧
      (gather {} {} ts).1.columns = columnsUpTo ts k (stopOf ts k) := by
  obtain ⟨x, hgather, -, hcount⟩ := gather_drop (Nat.le_of_lt hlt) hother
  have hzero : x.assigned = 0 := hcount.2 hquiet
  have hroles : x.roles? ts[k] = some [.table] := by
    rw [Context.roles?, if_pos hb, hzero]
    rfl
  have hname : nameAt ts k := (nameAt_getElem hlt).trans hb
  have hreads := ReadsTo.of_table hlt hname x hzero
  rw [hgather, List.drop_eq_getElem_cons hlt, gather, hroles]
  exact hreads.gather (lt_stopOf hlt)

/-- **No table is named** where such a token does: it takes the first role. -/
theorem table_gather_of_remark (hle : k ≤ ts.length) (hother : ∀ j < k, nameAt ts j = false)
    (hremark : ¬ ∀ j < k, 1 ≤ j → wordAt ts (j - 1) "comment" = false) :
    (gather {} {} ts).1.table = "" := by
  obtain ⟨x, hgather, -, hcount⟩ := gather_drop hle hother
  have hpos : 0 < x.assigned := Nat.pos_of_ne_zero fun hzero => hremark (hcount.1 hzero)
  rw [hgather, table_gather (.inl hpos)]

/-- **The schema read off tokens** is the one that they declare. -/
theorem schema_gather (hts : ∀ t ∈ ts, t.text ≠ "") :
    (if (gather {} {} ts).1.table = "" then .error .noTableName
      else .ok ⟨(gather {} {} ts).1.table,
        (gather {} {} ts).1.columns.filter Column.isComplete⟩) = declared ts := by
  unfold declared
  cases hk : ts.findIdx? Token.isBackquoted with
  | none =>
    have hother : ∀ t ∈ ts, t.isBackquoted = false := List.findIdx?_eq_none_iff.1 hk
    rw [if_pos (table_gather (.inr hother))]
  | some k =>
    obtain ⟨hlt, hb, hbefore⟩ := List.findIdx?_eq_some_iff_getElem.1 hk
    have hother : ∀ j < k, nameAt ts j = false := by
      intro j hj
      rw [nameAt_getElem (Nat.lt_trans hj hlt)]
      simpa using hbefore j hj
    have hany : ((List.range k).any fun j => 1 ≤ j && wordAt ts (j - 1) "comment") = false ↔
        ∀ j < k, 1 ≤ j → wordAt ts (j - 1) "comment" = false := by
      rw [List.any_eq_false]
      simp only [List.mem_range, Bool.and_eq_true, decide_eq_true_eq, not_and, Bool.not_eq_true]
    dsimp only
    by_cases hquiet : ∀ j < k, 1 ≤ j → wordAt ts (j - 1) "comment" = false
    · obtain ⟨htable, hcolumns⟩ := gather_of_table hlt hb hother hquiet
      have hne : textAt ts k ≠ "" := by
        rw [textAt_getElem hlt]
        exact hts _ (List.getElem_mem hlt)
      rw [htable, hcolumns, if_neg hne, hany.2 hquiet, if_neg Bool.false_ne_true,
        filter_columnsUpTo hts (stopOf_le ts k)]
    · have hremark := mt hany.1 hquiet
      rw [Bool.not_eq_false] at hremark
      rw [if_pos (table_gather_of_remark (Nat.le_of_lt hlt) hother hquiet), if_pos hremark]

/-- **Lenient extraction by positions.** For every statement it gives what
the tokens of the statement declare. -/
theorem extract_eq_declared (s : String) : extract false s = declared (scan s).tokens := by
  have htext : ∀ t ∈ (scan s).tokens, t.text ≠ "" := fun t ht => text_ne_of_mem_scan ht
  rw [extract, Extraction.ofStatement, Extraction.schema_ofScan_lenient htext]
  exact schema_gather htext

end TableStruct
