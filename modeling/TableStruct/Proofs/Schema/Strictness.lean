import TableStruct.Proofs.Schema.Reference

/-!
# What strict extraction reports

A strict reading of a statement gives roles to the same tokens as a lenient
one and reports two things that the lenient one passes over: a quote that
the end of the statement leaves open, and a last column without a type.
`Reading` is what both have in common, the roles given and whether the
index clauses were reached, and knows of no column and no report.

The last column is untyped exactly if its name is the last token read
(`settled_gather`). With that `extract_strict` says what strict extraction
answers: the open quote first, the untyped column next, and otherwise what
lenient extraction answers.
-/

namespace TableStruct

/-- The roles that tokens are given. -/
structure Reading where
  /-- The tokens read and their roles, in order. A token may have none. -/
  entries : List (Token × List Role)
  /-- The index clauses ended the reading. -/
  stopped : Bool
  deriving DecidableEq, Repr

namespace Reading

/-- The roles of tokens as far as the index clauses. -/
def ofTokens (x : Context) : List Token → Reading
  | [] => ⟨[], false⟩
  | t :: ts =>
    match x.roles? t with
    | none => ⟨[], true⟩
    | some roles =>
      let r := ofTokens (x.after t roles) ts
      ⟨(t, roles) :: r.entries, r.stopped⟩

/-- The name that the table is given, if it is given one. -/
def table? (r : Reading) : Option String :=
  (r.entries.find? fun e => e.2.contains .table).map fun e => e.1.text

/-- The last token read, if it names a column. -/
def untyped? (r : Reading) : Option Token :=
  r.entries.getLast?.bind fun e => if e.2.contains .field then some e.1 else none

/-- The token that the end of the statement leaves in an open quote, unless
the index clauses came first. -/
def unclosed? (r : Reading) (leftover : Option Token) : Option Token :=
  if r.stopped then none else leftover.filter fun t => t.grouping.isQuoted

end Reading

variable {x : Context} {d : Draft} {ts : List Token}

namespace Draft

/-- The index clauses end the gathering where they end the reading. -/
theorem stopped_gather (x : Context) (d : Draft) (ts : List Token) :
    (gather x d ts).2 = (Reading.ofTokens x ts).stopped := by
  induction ts generalizing x d with
  | nil => rfl
  | cons t ts ih =>
    rw [gather, Reading.ofTokens]
    cases x.roles? t with
    | none => rfl
    | some roles => exact ih _ _

/-- **The table is named by the token that was given the role**, and keeps
its name if none was. -/
theorem table_gather_eq (x : Context) (d : Draft) (ts : List Token) :
    (gather x d ts).1.table = (Reading.ofTokens x ts).table?.getD d.table := by
  induction ts generalizing x d with
  | nil => rfl
  | cons t ts ih =>
    rw [gather, Reading.ofTokens]
    cases hr : x.roles? t with
    | none => rfl
    | some roles =>
      rcases Context.roles?_cases hr with ⟨-, -, rfl⟩ | ⟨-, -, -, -, rfl⟩ | ⟨-, rfl⟩
      · -- this is the first role given, and no later one names the table
        have hpos : 0 < (x.after t [.table]).assigned := Nat.succ_pos _
        exact table_gather (.inl hpos)
      · exact ih _ _
      · have hskip : (x.otherRoles.contains .table) = false := by
          simpa using x.table_not_mem_otherRoles
        have hmore := ih (x.after t x.otherRoles) (x.otherRoles.foldl (take t.text) d)
        rw [foldl_take_amend] at hmore
        simp only [Reading.table?, List.find?_cons, hskip] at hmore ⊢
        rw [foldl_take_amend]
        exact hmore

/-- The pending column after a token that was given some roles: if the token
names it, nothing else is known of it, and otherwise it is complete. -/
def PendingAfter (t : Token) (roles : List Role) (d : Draft) : Prop :=
  if roles.contains .field then d.pending = some ⟨t.text, "", none⟩
  else ∀ c ∈ d.pending, c.isComplete

/-- **One token settles what is pending**, whatever went before. -/
theorem Sound.pendingAfter (h : Sound x d) {t : Token} (ht : t.text ≠ "") {roles : List Role}
    (hr : x.roles? t = some roles) : PendingAfter t roles (roles.foldl (take t.text) d) := by
  have hstep := h.step ht hr
  rcases Context.roles?_cases hr with ⟨-, ha, rfl⟩ | ⟨-, -, -, -, rfl⟩ | ⟨hb, rfl⟩
  · -- before the first role no column was named
    have hnone : d.pending = none := h.pending_eq_none ha
    intro c hc
    simp [take, hnone] at hc
  · exact rfl
  · have hfield : x.otherRoles.contains .field = false := by
      simpa using x.field_not_mem_otherRoles
    have hafter : (x.after t x.otherRoles).afterName = false := by
      simpa [Context.after, Context.afterName, Token.isBackquoted] using hb
    unfold PendingAfter
    rw [hfield, if_neg Bool.false_ne_true]
    intro c hc
    simp [Column.isComplete, hstep.named c hc, hstep.typed c hc hafter]

/-- **The last token read settles what is pending.** Where none was read,
nothing was gathered. -/
theorem settled_gather (h : Sound x d) (hts : ∀ t ∈ ts, t.text ≠ "") :
    match (Reading.ofTokens x ts).entries.getLast? with
    | none => (gather x d ts).1 = d
    | some (t, roles) => PendingAfter t roles (gather x d ts).1 := by
  induction ts generalizing x d with
  | nil => rfl
  | cons t ts ih =>
    rw [gather, Reading.ofTokens]
    cases hr : x.roles? t with
    | none => rfl
    | some roles =>
      have ht : t.text ≠ "" := hts t List.mem_cons_self
      have hrest := ih (h.step ht hr) fun u hu => hts u (List.mem_cons_of_mem _ hu)
      rw [List.getLast?_cons]
      cases hlast : (Reading.ofTokens (x.after t roles) ts).entries.getLast? with
      | none =>
        rw [hlast] at hrest
        dsimp only at hrest
        simp only [Option.getD_none, hrest]
        exact h.pendingAfter ht hr
      | some e =>
        rw [hlast] at hrest
        exact hrest

/-- What strict finishing reports, and that it loses nothing otherwise. -/
theorem settle_gather (hts : ∀ t ∈ ts, t.text ≠ "") :
    (gather {} {} ts).1.settle true =
      match (Reading.ofTokens {} ts).untyped? with
      | some t => .error (.untypedField (gather {} {} ts).1.table t.text)
      | none => (gather {} {} ts).1.settle false := by
  have hsettled := settled_gather sound_empty hts
  unfold Reading.untyped?
  cases hlast : (Reading.ofTokens {} ts).entries.getLast? with
  | none =>
    rw [hlast] at hsettled
    dsimp only at hsettled
    rw [hsettled]
    rfl
  | some e =>
    rw [hlast] at hsettled
    simp only [PendingAfter] at hsettled
    rw [Option.bind_some]
    cases hfield : e.2.contains .field with
    | true =>
      rw [hfield, if_pos rfl] at hsettled
      have huntyped : Column.isComplete ⟨e.1.text, "", none⟩ = false := by
        simp [Column.isComplete]
      simp only [settle, hsettled, huntyped, Bool.false_eq_true, if_false, if_true]
    | false =>
      rw [hfield, if_neg Bool.false_ne_true] at hsettled
      rw [if_neg Bool.false_ne_true, settle_of_complete true hsettled,
        settle_of_complete false hsettled]

end Draft

namespace Extraction

open Draft

theorem openQuote?_eq_map (r : Reading) (leftover : Option Token) :
    (if !r.stopped then openQuote? leftover else none) =
      (r.unclosed? leftover).map fun t => .unterminatedQuote t.grouping t.span.start := by
  unfold Reading.unclosed? openQuote?
  cases r.stopped <;> rfl

/-- **A strict reading** reports an open quote, then an untyped column, and
is otherwise the lenient reading. -/
theorem schema_ofScan_strict {s : Scan} (hts : ∀ t ∈ s.tokens, t.text ≠ "") :
    (ofScan true s).schema =
      match (Reading.ofTokens {} s.tokens).unclosed? s.leftover with
      | some t => .error (.unterminatedQuote t.grouping t.span.start)
      | none =>
        match (Reading.ofTokens {} s.tokens).untyped? with
        | some t =>
          .error (.untypedField ((Reading.ofTokens {} s.tokens).table?.getD "") t.text)
        | none => (ofScan false s).schema := by
  have hlenient : (ofScan false s).schema =
      ((gather {} {} s.tokens).1.settle false).bind Draft.schema := schema_ofScan false hts
  rw [schema_ofScan true hts, Bool.true_and, stopped_gather, openQuote?_eq_map]
  cases (Reading.ofTokens {} s.tokens).unclosed? s.leftover with
  | some t => rfl
  | none =>
    rw [Option.map_none, settle_gather hts, hlenient, table_gather_eq]
    cases (Reading.ofTokens {} s.tokens).untyped? with
    | some t => rfl
    | none => rfl

end Extraction

/-- The roles that the tokens of a statement are given. -/
def Reading.ofStatement (s : String) : Reading :=
  ofTokens {} (scan s).tokens

/-- The lenient run of a statement ends as its reading says. -/
theorem Draft.read_lenient (s : String) :
    ∃ d, Draft.read false {} {} (scan s).tokens = .ok (d, (Reading.ofStatement s).stopped) ∧
      d.table = (Reading.ofStatement s).table?.getD "" := by
  have htext : ∀ t ∈ (scan s).tokens, t.text ≠ "" := fun t ht => text_ne_of_mem_scan ht
  have hread := read_eq_gather sound_empty false htext
  refine ⟨(gather {} {} (scan s).tokens).1, ?_, table_gather_eq {} {} (scan s).tokens⟩
  rw [hread, Reading.ofStatement, ← stopped_gather {} {} (scan s).tokens]

/-- **Strict extraction, from the lenient run.** An open quote is reported
first, unless the index clauses ended the run. Then a column is reported
whose name is the last token read, with the table named so far. Otherwise
strict extraction answers what lenient extraction does. So it gives no
schema that the latter does not, and fails wherever that fails. -/
theorem extract_strict (s : String) :
    (∃ d, Draft.read false {} {} (scan s).tokens = .ok (d, (Reading.ofStatement s).stopped) ∧
      d.table = (Reading.ofStatement s).table?.getD "") ∧
    (extract true s =
      match (Reading.ofStatement s).unclosed? (scan s).leftover with
      | some t => .error (.unterminatedQuote t.grouping t.span.start)
      | none =>
        match (Reading.ofStatement s).untyped? with
        | some t => .error (.untypedField ((Reading.ofStatement s).table?.getD "") t.text)
        | none => extract false s) ∧
    (∀ schema, extract true s = .ok schema → extract false s = .ok schema) ∧
    ∀ p, extract false s = .error p → ∃ q, extract true s = .error q := by
  have htext : ∀ t ∈ (scan s).tokens, t.text ≠ "" := fun t ht => text_ne_of_mem_scan ht
  have hstrict : extract true s = _ := Extraction.schema_ofScan_strict htext
  refine ⟨Draft.read_lenient s, hstrict, ?_, ?_⟩
  · intro schema hschema
    rw [hschema] at hstrict
    split at hstrict
    · cases hstrict
    · split at hstrict
      · cases hstrict
      · exact hstrict.symm
  · intro p hp
    rw [hstrict]
    split
    · exact ⟨_, rfl⟩
    · split
      · exact ⟨_, rfl⟩
      · exact ⟨p, hp⟩

end TableStruct
