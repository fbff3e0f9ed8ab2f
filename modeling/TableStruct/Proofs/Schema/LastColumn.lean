import TableStruct.Proofs.Schema.Strictness

/-!
# Only the last column can be lost

A column is lost if it is dropped or reported for want of a type. That is
decided where the next column is named, and once more at the end. A run
comes to each token with a sound draft (`Reading.exists_moment`), in which
the column before has its type where another is named; so nothing is lost
there, and at the end every column that was named is still at hand
(`names_gather`). What is left is the one named last:
`Extraction.ofScan_cases` says what becomes of it, and
`only_last_column_lost` what that comes to.
-/

namespace TableStruct

open Draft

variable {x : Context} {d : Draft} {ts : List Token}

namespace Reading

/-- The names that are given to columns, in order. -/
def names (r : Reading) : List String :=
  (r.entries.filter fun e => e.2.contains .field).map fun e => e.1.text

theorem names_cons (e : Token × List Role) (r : Reading) :
    names ⟨e :: r.entries, r.stopped⟩ =
      (if e.2.contains .field then [e.1.text] else []) ++ r.names := by
  rw [names, List.filter_cons]
  split <;> rfl

end Reading

namespace Extraction

/-- The name of the column that is reported for want of a type. -/
def reported? (e : Extraction) : Option String :=
  match e.schema with
  | .error (.untypedField _ name) => some name
  | _ => none

/-- The names of the columns that are dropped or reported. -/
def lost (e : Extraction) : List String :=
  e.dropped ++ e.reported?.toList

end Extraction

/-! ## Where a column is named -/

/-- **A run on a statement comes to a token**: those before it are taken up,
and whatever follows is read from the context and the draft there. -/
structure ComesTo (strict : Bool) (s : String) (before : List Token) (t : Token) (x : Context)
    (d : Draft) : Prop where
  tokens : ∃ later, (scan s).tokens = before ++ t :: later
  reads : ∀ us, Draft.read strict {} {} (before ++ us) = Draft.read strict x d us

/-- A token that names a column does nothing else, and no index clause
begins there. -/
theorem Context.roles_eq_of_mem {t : Token} {roles : List Role} (hr : x.roles? t = some roles)
    (hmem : .field ∈ roles) : roles = [.field] ∧ ¬ (x.afterName ∧ 1 < x.assigned) := by
  rcases roles?_cases hr with ⟨-, -, rfl⟩ | ⟨-, -, hname, -, rfl⟩ | ⟨-, rfl⟩
  · simp at hmem
  · exact ⟨rfl, hname⟩
  · exact absurd hmem x.field_not_mem_otherRoles

/-- **A reading as far as one of its tokens.** The tokens before it are
taken up, and whatever follows is read from a sound draft and from the
context that gives the token its roles. -/
theorem Reading.exists_moment (h : Sound x d) (strict : Bool) (hts : ∀ t ∈ ts, t.text ≠ "")
    {before after : List (Token × List Role)} {t : Token} {roles : List Role}
    (hsplit : (ofTokens x ts).entries = before ++ (t, roles) :: after) :
    ∃ y e later, ts = before.map Prod.fst ++ t :: later ∧
      (∀ us, Draft.read strict x d (before.map Prod.fst ++ us) = Draft.read strict y e us) ∧
      y.roles? t = some roles ∧ Sound y e := by
  induction ts generalizing x d before with
  | nil => simp [ofTokens] at hsplit
  | cons u ts ih =>
    rw [ofTokens] at hsplit
    cases hr : x.roles? u with
    | none => simp [hr] at hsplit
    | some given =>
      rw [hr] at hsplit
      cases before with
      | nil =>
        obtain ⟨he, -⟩ := List.cons.inj hsplit
        cases he
        exact ⟨x, d, ts, rfl, fun us => rfl, hr, h⟩
      | cons e before =>
        -- one more token before the moment, and it leaves a sound draft too
        obtain ⟨rfl, hrest⟩ := List.cons.inj hsplit
        have hstep := h.step (hts u List.mem_cons_self) hr
        obtain ⟨y, e, later, hlater, hread, hroles, hsound⟩ :=
          ih hstep (fun v hv => hts v (List.mem_cons_of_mem _ hv)) hrest
        refine ⟨y, e, later, by rw [hlater]; rfl, fun us => ?_, hroles, hsound⟩
        rw [List.map_cons, List.cons_append, read_cons hr (h.foldlM_assign hr strict)]
        exact hread us

/-! ## The columns at the end -/

namespace Draft

/-- **What a token does to the columns**: it names one, or leaves them, or
amends the last. -/
theorem columns_step {t : Token} {roles : List Role} (hr : x.roles? t = some roles) (d : Draft) :
    (roles.contains .field ∧
      (roles.foldl (take t.text) d).columns = d.columns ++ [⟨t.text, "", none⟩]) ∨
    (roles.contains .field = false ∧
      ((roles.foldl (take t.text) d).columns = d.columns ∨
        (roles.foldl (take t.text) d).columns =
          d.fields ++ (d.pending.map (amend x t.text)).toList)) := by
  rcases Context.roles?_cases hr with ⟨-, -, rfl⟩ | ⟨-, -, -, -, rfl⟩ | ⟨-, rfl⟩
  · exact .inr ⟨rfl, .inl rfl⟩
  · exact .inl ⟨rfl, rfl⟩
  · refine .inr ⟨by simpa using x.field_not_mem_otherRoles, .inr ?_⟩
    rw [foldl_take_amend]
    rfl

/-- **Every column named is gathered**, in the order of the names. -/
theorem names_gather (x : Context) (d : Draft) (ts : List Token) :
    (gather x d ts).1.columns.map Column.name =
      d.columns.map Column.name ++ (Reading.ofTokens x ts).names := by
  induction ts generalizing x d with
  | nil => exact (List.append_nil _).symm
  | cons t ts ih =>
    rw [gather, Reading.ofTokens]
    cases hr : x.roles? t with
    | none => exact (List.append_nil _).symm
    | some roles =>
      dsimp only
      rw [ih, Reading.names_cons]
      rcases columns_step hr d with ⟨hfield, hnew⟩ | ⟨hfield, hsame | hamended⟩
      · rw [hnew, if_pos hfield]
        simp
      · rw [hsame, hfield]
        rfl
      · -- a type or a comment leaves the column its name
        have hkept : (d.pending.map (amend x t.text)).map Column.name =
            d.pending.map Column.name := by
          rw [Option.map_map]
          rfl
        rw [hamended, hfield, columns, List.map_append, List.map_append, ← Option.toList_map,
          ← Option.toList_map, hkept]
        rfl

/-- A token that is not empty leaves no comment empty. -/
theorem comment_step {t : Token} (ht : t.text ≠ "") {roles : List Role}
    (hr : x.roles? t = some roles) (hd : ∀ c ∈ d.columns, c.comment ≠ some "") :
    ∀ c ∈ (roles.foldl (take t.text) d).columns, c.comment ≠ some "" := by
  intro c hc
  rcases columns_step hr d with ⟨-, hnew⟩ | ⟨-, hsame | hamended⟩
  · rw [hnew, List.mem_append, List.mem_singleton] at hc
    rcases hc with hc | rfl
    · exact hd c hc
    · exact (Option.some_ne_none "").symm
  · exact hd c (hsame ▸ hc)
  · rw [hamended, List.mem_append, Option.mem_toList] at hc
    rcases hc with hc | hc
    · exact hd c (List.mem_append_left _ hc)
    · obtain ⟨c', hc', rfl⟩ := Option.map_eq_some_iff.1 hc
      have hold : c'.comment ≠ some "" :=
        hd c' (List.mem_append_right _ (Option.mem_toList.2 hc'))
      have hnew : some t.text ≠ some "" := by simpa using ht
      -- the comment is the token's text, or the one that was there
      show (if x.word == "comment" then some t.text else c'.comment) ≠ some ""
      split
      · exact hnew
      · exact hold

/-- No comment is empty where no token is. -/
theorem comment_gather (hts : ∀ t ∈ ts, t.text ≠ "") :
    ∀ c ∈ (gather {} {} ts).1.columns, c.comment ≠ some "" := by
  have hnone : ∀ c ∈ ({} : Draft).columns, c.comment ≠ some "" := by simp [columns]
  obtain ⟨-, hkept⟩ := gather_invariant (P := fun _ d => ∀ c ∈ d.columns, c.comment ≠ some "")
    (x := {}) hnone fun _ _ t ht _ hr hd => comment_step (hts t ht) hr hd
  exact hkept

/-- Nothing is dropped. -/
theorem dropped_gather (ts : List Token) : (gather {} {} ts).1.dropped = [] := by
  have hstep : ∀ (x : Context) (d : Draft), ∀ t ∈ ts, ∀ roles, x.roles? t = some roles →
      d.dropped = [] → (roles.foldl (take t.text) d).dropped = [] := by
    intro x d t _ roles hr hd
    rcases Context.roles?_cases hr with ⟨-, -, rfl⟩ | ⟨-, -, -, -, rfl⟩ | ⟨-, rfl⟩
    · exact hd
    · exact hd
    · rw [foldl_take_amend]
      exact hd
  obtain ⟨-, hkept⟩ := gather_invariant (P := fun _ d => d.dropped = []) (x := {}) (d := {})
    rfl hstep
  exact hkept

/-- A schema that is returned is what was made. -/
theorem eq_of_schema {schema : Schema} (h : d.schema = .ok schema) :
    schema = ⟨d.table, d.fields⟩ := by
  rw [Draft.schema] at h
  split at h
  · cases h
  · exact (Except.ok.inj h).symm

end Draft

/-! ## The end -/

namespace Extraction

/-- **How an extraction ends**: with the report of an open quote, with all
the columns, or without the last one, which is untyped. -/
theorem ofScan_cases (strict : Bool) {s : Scan} (hts : ∀ t ∈ s.tokens, t.text ≠ "") :
    (strict ∧ ∃ g p, ofScan strict s = ⟨[], .error (.unterminatedQuote g p)⟩) ∨
    ((∀ c ∈ (gather {} {} s.tokens).1.pending, c.isComplete) ∧
      ofScan strict s = ⟨[], Draft.schema { (gather {} {} s.tokens).1 with
        fields := (gather {} {} s.tokens).1.columns }⟩) ∨
    ∃ c, (gather {} {} s.tokens).1.pending = some c ∧ c.isComplete = false ∧
      ofScan strict s =
        if strict then ⟨[], .error (.untypedField (gather {} {} s.tokens).1.table c.name)⟩
        else ⟨[c.name], (gather {} {} s.tokens).1.schema⟩ := by
  have hdropped := dropped_gather s.tokens
  rw [ofScan, read_eq_gather sound_empty strict hts]
  dsimp only
  rw [hdropped]
  cases hquote : if strict && !(gather {} {} s.tokens).2 then openQuote? s.leftover else none with
  | some p =>
    left
    rw [Option.ite_none_right_eq_some] at hquote
    obtain ⟨hstrict, hopen⟩ := hquote
    obtain ⟨t, -, rfl⟩ := Option.map_eq_some_iff.1 hopen
    exact ⟨(Bool.and_eq_true_iff.1 hstrict).1, _, _, rfl⟩
  | none =>
    right
    rcases (gather {} {} s.tokens).1.settle_cases strict with
      ⟨hall, hsettle⟩ | ⟨c, hp, hfalse, hsettle⟩
    · exact .inl ⟨hall, by rw [hsettle, hdropped]; rfl⟩
    · refine .inr ⟨c, hp, hfalse, ?_⟩
      rw [hsettle, hdropped]
      cases strict <;> rfl

/-- Finishing a schema reports no column. -/
theorem reported?_schema (dropped : List String) (d : Draft) :
    reported? ⟨dropped, d.schema⟩ = none := by
  rw [Draft.schema]
  split <;> rfl

/-- **What is lost** is nothing, or the column pending at the end. Strict, it
is not dropped, and lenient, it is not reported. -/
theorem lost_ofScan (strict : Bool) {s : Scan} (hts : ∀ t ∈ s.tokens, t.text ≠ "") :
    ((ofScan strict s).lost = [] ∨ ∃ c ∈ (gather {} {} s.tokens).1.pending,
      c.isComplete = false ∧ (ofScan strict s).lost = [c.name]) ∧
    if strict then (ofScan strict s).dropped = [] else (ofScan strict s).reported? = none := by
  rcases ofScan_cases strict hts with ⟨rfl, g, p, hend⟩ | ⟨-, hend⟩ | ⟨c, hp, hfalse, hend⟩
  · rw [hend]
    exact ⟨.inl rfl, rfl⟩
  · have hnone := reported?_schema [] { (gather {} {} s.tokens).1 with
      fields := (gather {} {} s.tokens).1.columns }
    rw [hend, lost, hnone]
    exact ⟨.inl rfl, by split <;> rfl⟩
  · cases strict with
    | true =>
      rw [hend]
      exact ⟨.inr ⟨c, hp, hfalse, rfl⟩, rfl⟩
    | false =>
      have hnone := reported?_schema [c.name] (gather {} {} s.tokens).1
      rw [hend, if_neg Bool.false_ne_true, lost, hnone]
      exact ⟨.inr ⟨c, hp, hfalse, rfl⟩, rfl⟩

/-- **What is kept**: of the columns gathered, a schema that is returned has
all but the dropped ones, and they are complete. -/
theorem fields_ofScan {strict : Bool} {s : Scan} (hts : ∀ t ∈ s.tokens, t.text ≠ "")
    {schema : Schema} (h : (ofScan strict s).schema = .ok schema) :
    (∀ c ∈ schema.fields, c.isComplete ∧ c ∈ (gather {} {} s.tokens).1.columns) ∧
      schema.fields.map Column.name ++ (ofScan strict s).dropped =
        (gather {} {} s.tokens).1.columns.map Column.name := by
  have hcomplete := sound_empty.complete_gather hts
  rcases ofScan_cases strict hts with ⟨-, g, p, hend⟩ | ⟨hall, hend⟩ | ⟨c, hp, -, hend⟩
  · rw [hend] at h
    cases h
  · rw [hend] at h ⊢
    obtain rfl := Draft.eq_of_schema h
    refine ⟨fun c hc => ⟨?_, hc⟩, List.append_nil _⟩
    rcases List.mem_append.1 hc with hc | hc
    · exact hcomplete c hc
    · exact hall c (Option.mem_toList.1 hc)
  · cases strict with
    | true =>
      rw [hend] at h
      cases h
    | false =>
      rw [hend, if_neg Bool.false_ne_true] at h ⊢
      obtain rfl := Draft.eq_of_schema h
      refine ⟨fun c hc => ⟨hcomplete c hc, List.mem_append_left _ hc⟩, ?_⟩
      rw [columns, hp, List.map_append]
      rfl

end Extraction

/-- **Only the last column can be lost.** Wherever a run on a statement,
strict or not, comes to a token that names a column, the column pending
there has its name and its type and is kept, so that the whole run neither
fails nor drops anything. At most one column is lost, for want of a type:
it is the one named last, which is dropped in a lenient run and reported in
a strict one. The columns of a schema are complete, no comment of theirs is
empty, and with the one dropped they are all those that were named. -/
theorem only_last_column_lost (strict : Bool) (s : String) :
    (∀ before t roles after,
      (Reading.ofStatement s).entries = before ++ (t, roles) :: after → .field ∈ roles →
      ∃ x d, ComesTo strict s (before.map Prod.fst) t x d ∧
        x.roles? t = some roles ∧ roles = [.field] ∧
        (∀ c ∈ d.pending, c.name ≠ "" ∧ c.rawType ≠ "") ∧
        d.settle strict = .ok { d with fields := d.columns, pending := none }) ∧
    (∃ d, Draft.read strict {} {} (scan s).tokens = .ok (d, (Reading.ofStatement s).stopped) ∧
      d.dropped = [] ∧ d.columns.map Column.name = (Reading.ofStatement s).names ∧
      ((Extraction.ofStatement strict s).lost = [] ∨
        ∃ c ∈ d.pending, c.rawType = "" ∧
          (Reading.ofStatement s).names.getLast? = some c.name ∧
          (Extraction.ofStatement strict s).lost = [c.name])) ∧
    (if strict then (Extraction.ofStatement strict s).dropped = []
      else (Extraction.ofStatement strict s).reported? = none) ∧
    ∀ schema, extract strict s = .ok schema →
      (∀ c ∈ schema.fields, c.isComplete ∧ c.comment ≠ some "") ∧
      schema.fields.map Column.name ++ (Extraction.ofStatement strict s).dropped =
        (Reading.ofStatement s).names := by
  have htext : ∀ t ∈ (scan s).tokens, t.text ≠ "" := fun t ht => text_ne_of_mem_scan ht
  have hnames : (gather {} {} (scan s).tokens).1.columns.map Column.name =
      (Reading.ofStatement s).names := names_gather {} {} (scan s).tokens
  have hlost := Extraction.lost_ofScan strict htext
  refine ⟨?_, ⟨(gather {} {} (scan s).tokens).1, ?_, dropped_gather _, hnames, ?_⟩,
    hlost.2, ?_⟩
  · intro before t roles after hsplit hmem
    obtain ⟨x, d, later, hlater, hread, hroles, hsound⟩ :=
      Reading.exists_moment sound_empty strict htext hsplit
    obtain ⟨hfield, hname⟩ := Context.roles_eq_of_mem hroles hmem
    have hcomplete := hsound.complete_pending hname
    refine ⟨x, d, ⟨⟨later, hlater⟩, hread⟩, hroles, hfield, fun c hc => ?_,
      settle_of_complete strict hcomplete⟩
    simpa [Column.isComplete] using hcomplete c hc
  · rw [read_eq_gather sound_empty strict htext, Reading.ofStatement,
      ← stopped_gather {} {} (scan s).tokens]
  · refine hlost.1.imp_right ?_
    rintro ⟨c, hp, hfalse, hc⟩
    obtain ⟨y, hsound⟩ := sound_empty.exists_gather htext
    have huntyped : c.rawType = "" := by
      simpa [Column.isComplete, hsound.named c hp] using hfalse
    have hlast : (Reading.ofStatement s).names.getLast? = some c.name := by
      rw [← hnames, columns, Option.mem_def.1 hp]
      simp
    exact ⟨c, hp, huntyped, hlast, hc⟩
  · intro schema hschema
    obtain ⟨hfields, hall⟩ := Extraction.fields_ofScan htext hschema
    have hcomments := comment_gather htext
    exact ⟨fun c hc => ⟨(hfields c hc).1, hcomments c (hfields c hc).2⟩, hall.trans hnames⟩

/-- A statement whose last column has no type. -/
def lossy : String :=
  "create table `t` (`a` int comment 'x', `b`)"

/-- What a run on it takes up before that column. -/
def lossyFront : List (Token × List Role) :=
  (Reading.ofStatement lossy).entries.take 7

theorem only_last_column_lost_lossy :
    (Reading.ofStatement lossy).entries =
      lossyFront ++ (⟨.backquoted, "b", ⟨40, 41⟩⟩, [.field]) :: [] ∧
    (∃ x d, ComesTo true lossy (lossyFront.map Prod.fst) ⟨.backquoted, "b", ⟨40, 41⟩⟩ x d ∧
      x.roles? ⟨.backquoted, "b", ⟨40, 41⟩⟩ = some [.field] ∧
      (∀ c ∈ d.pending, c.name ≠ "" ∧ c.rawType ≠ "") ∧
      d.settle true = .ok { d with fields := d.columns, pending := none }) ∧
    (Extraction.ofStatement true lossy).lost = ["b"] ∧
    (Extraction.ofStatement false lossy).lost = ["b"] ∧
    extract false lossy = .ok ⟨"t", [⟨"a", "int", some "x"⟩]⟩ ∧
    ∀ c ∈ [(⟨"a", "int", some "x"⟩ : Column)], c.isComplete ∧ c.comment ≠ some "" := by
  have hsplit : (Reading.ofStatement lossy).entries =
      lossyFront ++ (⟨.backquoted, "b", ⟨40, 41⟩⟩, [.field]) :: [] := by decide +kernel
  have hschema : extract false lossy = .ok ⟨"t", [⟨"a", "int", some "x"⟩]⟩ := by decide +kernel
  obtain ⟨x, d, hcomes, hroles, -, hkept⟩ :=
    (only_last_column_lost true lossy).1 _ _ _ _ hsplit (List.mem_singleton_self _)
  have hfields := ((only_last_column_lost false lossy).2.2.2 _ hschema).1
  exact ⟨hsplit, ⟨x, d, hcomes, hroles, hkept⟩, by decide +kernel, by decide +kernel, hschema,
    hfields⟩

end TableStruct
