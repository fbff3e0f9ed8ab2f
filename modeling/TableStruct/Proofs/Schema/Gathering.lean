import TableStruct.Schema.Extract
import TableStruct.Proofs.Scan.Coverage

/-!
# Only the last column can be untyped

A column without a type is dropped, or reported, where the next column is
named. It never comes to that: an identifier right after a column name
begins the index clauses, and a token of any other kind there is the
column's type. `Sound` is the invariant, and `read_eq_gather` what it gives:
while tokens are taken up, strict or not, no column is dropped and nothing
is reported, so that reading a statement is `gather`, which knows of
neither.
-/

namespace TableStruct

namespace Context

/-- The roles of a token that is no identifier. -/
def otherRoles (x : Context) : List Role :=
  (if x.afterName then [.fieldType] else []) ++ (if x.word == "comment" then [.comment] else [])

/-- Such a token names nothing. -/
theorem eq_of_mem_otherRoles {x : Context} {role : Role} (h : role ∈ x.otherRoles) :
    role = .fieldType ∨ role = .comment := by
  rw [otherRoles, List.mem_append] at h
  rcases h with h | h
  · split at h
    · exact .inl (List.mem_singleton.1 h)
    · cases h
  · split at h
    · exact .inr (List.mem_singleton.1 h)
    · cases h

theorem field_not_mem_otherRoles (x : Context) : Role.field ∉ x.otherRoles := by
  intro h
  rcases eq_of_mem_otherRoles h with h | h <;> cases h

theorem table_not_mem_otherRoles (x : Context) : Role.table ∉ x.otherRoles := by
  intro h
  rcases eq_of_mem_otherRoles h with h | h <;> cases h

/-- **What roles a token is given, and when.** An identifier names the table
if no role has been given yet, and a column otherwise, unless the index
clauses begin. -/
theorem roles?_cases {x : Context} {t : Token} {roles : List Role} (h : x.roles? t = some roles) :
    (t.isBackquoted ∧ x.assigned = 0 ∧ roles = [.table]) ∨
    (t.isBackquoted ∧ 0 < x.assigned ∧ ¬ (x.afterName ∧ 1 < x.assigned) ∧ x.word ≠ "key" ∧
      roles = [.field]) ∨
    (t.isBackquoted = false ∧ roles = x.otherRoles) := by
  unfold roles? at h
  by_cases hb : t.isBackquoted
  · rw [if_pos hb] at h
    split at h
    · cases h
    · next hstop =>
      by_cases ha : x.assigned = 0
      · rw [if_pos ha] at h
        exact .inl ⟨hb, ha, (Option.some.inj h).symm⟩
      · rw [if_neg ha] at h
        have hpos : 0 < x.assigned := Nat.pos_of_ne_zero ha
        refine .inr (.inl ⟨hb, hpos, ?_, ?_, (Option.some.inj h).symm⟩)
        · rintro ⟨hname, hone⟩
          simp [hpos, hname, hone] at hstop
        · intro hkey
          simp [hpos, hkey] at hstop
  · rw [if_neg hb] at h
    exact .inr (.inr ⟨by simpa using hb, (Option.some.inj h).symm⟩)

end Context

namespace Draft

/-- Takes up a token's text in one role, where the column named last is
known to be typed. -/
def take (text : String) (d : Draft) : Role → Draft
  | .table => { d with table := text }
  | .field =>
    { d with fields := d.fields ++ d.pending.toList, pending := some ⟨text, "", none⟩ }
  | .fieldType => { d with pending := d.pending.map fun c => { c with rawType := text } }
  | .comment => { d with pending := d.pending.map fun c => { c with comment := some text } }

/-- Takes up tokens as far as the index clauses, with nothing dropped and
nothing reported. -/
def gather (x : Context) (d : Draft) : List Token → Draft × Bool
  | [] => (d, false)
  | t :: ts =>
    match x.roles? t with
    | none => (d, true)
    | some roles => gather (x.after t roles) (roles.foldl (take t.text) d) ts

/-- The column named last, after a token that is no identifier. -/
def amend (x : Context) (text : String) (c : Column) : Column :=
  { c with
    rawType := if x.afterName then text else c.rawType
    comment := if x.word == "comment" then some text else c.comment }

/-- What the roles of a token that is no identifier come to. -/
theorem foldl_take_amend (x : Context) (text : String) (d : Draft) :
    x.otherRoles.foldl (take text) d = { d with pending := d.pending.map (amend x text) } := by
  obtain ⟨table, fields, pending, dropped⟩ := d
  cases pending <;> cases hn : x.afterName <;> cases hw : x.word == "comment" <;>
    simp [Context.otherRoles, take, amend, hn, hw]

/-- The invariant of a reading: the column named last has a name and, but
for the moment when its name was the last token, a type. -/
structure Sound (x : Context) (d : Draft) : Prop where
  complete : ∀ c ∈ d.fields, c.isComplete
  named : ∀ c ∈ d.pending, c.name ≠ ""
  /-- It has a type, unless its name was the last token. -/
  typed : ∀ c ∈ d.pending, x.afterName = false → c.rawType ≠ ""
  /-- A column is named only after another role was given. -/
  counted : d.pending.isSome → 1 < x.assigned

theorem sound_empty : Sound {} {} := by
  constructor <;> simp

namespace Sound

variable {x : Context} {d : Draft} (h : Sound x d)

include h

/-- Before the first role no column has been named. -/
theorem pending_eq_none (ha : x.assigned = 0) : d.pending = none := by
  by_contra hp
  have := h.counted (Option.isSome_iff_ne_none.2 hp)
  omega

/-- **Where a column may be named, the one before it is complete**: right
after its name an identifier would begin the index clauses. -/
theorem complete_pending (hname : ¬ (x.afterName ∧ 1 < x.assigned)) :
    ∀ c ∈ d.pending, c.isComplete := by
  intro c hc
  have hcount : 1 < x.assigned := h.counted (by rw [hc]; rfl)
  have hafter : x.afterName = false := by
    simpa [hcount] using hname
  simp [Column.isComplete, h.named c hc, h.typed c hc hafter]

end Sound

/-- A typed column, or none, is finished without loss. -/
theorem settle_of_complete {d : Draft} (strict : Bool) (h : ∀ c ∈ d.pending, c.isComplete) :
    d.settle strict = .ok { d with fields := d.fields ++ d.pending.toList, pending := none } := by
  obtain ⟨table, fields, pending, dropped⟩ := d
  cases pending with
  | none => simp [settle]
  | some c =>
    have hc : c.isComplete := h c rfl
    simp [settle, hc]

/-- **What finishing comes to**: a typed column is kept, and an untyped one
is dropped or reported. -/
theorem settle_cases (strict : Bool) (d : Draft) :
    ((∀ c ∈ d.pending, c.isComplete) ∧
      d.settle strict = .ok { d with fields := d.fields ++ d.pending.toList, pending := none }) ∨
    ∃ c, d.pending = some c ∧ c.isComplete = false ∧
      d.settle strict = if strict then .error (.untypedField d.table c.name)
        else .ok { d with pending := none, dropped := d.dropped ++ [c.name] } := by
  by_cases h : ∀ c ∈ d.pending, c.isComplete
  · exact .inl ⟨h, settle_of_complete strict h⟩
  · right
    push Not at h
    obtain ⟨c, hp, hc⟩ := h
    have hfalse : c.isComplete = false := by simpa using hc
    refine ⟨c, hp, hfalse, ?_⟩
    rw [settle, hp]
    dsimp only
    rw [hfalse, if_neg Bool.false_ne_true]

/-- Where the pending column may be finished, each role is simply taken. -/
theorem assign_eq_take {d : Draft} {role : Role} (strict : Bool) (text : String)
    (h : role = .field → ∀ c ∈ d.pending, c.isComplete) :
    d.assign strict text role = .ok (d.take text role) := by
  cases role with
  | field => rw [assign, settle_of_complete strict (h rfl)]; rfl
  | table => rfl
  | fieldType => rfl
  | comment => rfl

theorem foldlM_assign_of_ne {roles : List Role} (strict : Bool) (text : String) (d : Draft)
    (h : Role.field ∉ roles) :
    roles.foldlM (fun d role => d.assign strict text role) d = .ok (roles.foldl (take text) d) := by
  induction roles generalizing d with
  | nil => rfl
  | cons role roles ih =>
    rw [List.mem_cons, not_or] at h
    have hrole : d.assign strict text role = .ok (d.take text role) :=
      assign_eq_take strict text fun hr => absurd hr.symm h.1
    rw [List.foldlM_cons, hrole]
    exact ih _ h.2

/-- **The roles of a token are taken without loss.** Where a column is
named, the one before it is complete. -/
theorem Sound.foldlM_assign {x : Context} {d : Draft} (h : Sound x d) {t : Token}
    {roles : List Role} (hr : x.roles? t = some roles) (strict : Bool) :
    roles.foldlM (fun d role => d.assign strict t.text role) d =
      .ok (roles.foldl (take t.text) d) := by
  rcases Context.roles?_cases hr with ⟨-, -, rfl⟩ | ⟨-, -, hname, -, rfl⟩ | ⟨-, rfl⟩
  · exact foldlM_assign_of_ne strict t.text d (by simp)
  · have hfield : d.assign strict t.text .field = .ok (d.take t.text .field) :=
      assign_eq_take strict t.text fun _ => h.complete_pending hname
    rw [List.foldlM_cons, hfield]
    rfl
  · exact foldlM_assign_of_ne strict t.text d x.field_not_mem_otherRoles

/-- **A token keeps the invariant**, its text not being empty. -/
theorem Sound.step {x : Context} {d : Draft} (h : Sound x d) {t : Token} (ht : t.text ≠ "")
    {roles : List Role} (hr : x.roles? t = some roles) :
    Sound (x.after t roles) (roles.foldl (take t.text) d) := by
  rcases Context.roles?_cases hr with ⟨-, ha, rfl⟩ | ⟨hb, ha, hname, -, rfl⟩ | ⟨hb, rfl⟩
  · have hnone : d.pending = none := h.pending_eq_none ha
    refine ⟨h.complete, ?_, ?_, ?_⟩
    · intro c hc
      simp [take, hnone] at hc
    · intro c hc
      simp [take, hnone] at hc
    · simp [take, hnone]
  · -- the pending column is finished here: it has a type, or the name before it ended the reading
    refine ⟨?_, ?_, ?_, ?_⟩
    · intro c hc
      simp only [List.foldl_cons, List.foldl_nil, take, List.mem_append, Option.mem_toList] at hc
      rcases hc with hc | hc
      · exact h.complete c hc
      · exact h.complete_pending hname c hc
    · intro c hc
      obtain rfl : ⟨t.text, "", none⟩ = c := by simpa [take] using hc
      exact ht
    · intro c _ hafter
      have hg : t.grouping = .backquoted := by simpa [Token.isBackquoted] using hb
      simp [Context.after, Context.afterName, hg] at hafter
    · intro _
      simp only [Context.after, List.length_singleton]
      omega
  · rw [foldl_take_amend]
    have hafter : (x.after t x.otherRoles).afterName = false := by
      simpa [Context.after, Context.afterName, Token.isBackquoted] using hb
    refine ⟨h.complete, ?_, ?_, ?_⟩
    · intro c hc
      obtain ⟨c', hc', rfl⟩ := Option.map_eq_some_iff.1 hc
      exact h.named c' hc'
    · intro c hc _
      obtain ⟨c', hc', rfl⟩ := Option.map_eq_some_iff.1 hc
      -- right after its name the token is the type, and later it has one
      unfold amend
      cases hn : x.afterName with
      | true => simpa using ht
      | false => simpa using h.typed c' hc' hn
    · intro hsome
      have := h.counted (by simpa using hsome)
      simp only [Context.after]
      omega

/-- A token that is taken up, and what is read behind it. -/
theorem read_cons {strict : Bool} {x : Context} {d e : Draft} {t : Token} {ts : List Token}
    {roles : List Role} (hr : x.roles? t = some roles)
    (hroles : roles.foldlM (fun d role => d.assign strict t.text role) d = .ok e) :
    read strict x d (t :: ts) = read strict (x.after t roles) e ts := by
  rw [read, hr]
  dsimp only
  rw [hroles]
  rfl

/-- **Reading never fails and drops no column.** Strict or not, tokens are
taken up as `gather` takes them. -/
theorem read_eq_gather {x : Context} {d : Draft} (h : Sound x d) (strict : Bool) {ts : List Token}
    (hts : ∀ t ∈ ts, t.text ≠ "") : read strict x d ts = .ok (gather x d ts) := by
  induction ts generalizing x d with
  | nil => rfl
  | cons t ts ih =>
    rw [gather]
    cases hr : x.roles? t with
    | none => rw [read, hr]
    | some roles =>
      have hstep := h.step (hts t List.mem_cons_self) hr
      rw [read_cons hr (h.foldlM_assign hr strict)]
      exact ih hstep fun u hu => hts u (List.mem_cons_of_mem _ hu)

/-- **What each token keeps, the gathering keeps.** -/
theorem gather_invariant {P : Context → Draft → Prop} {x : Context} {d : Draft} {ts : List Token}
    (h : P x d) (hstep : ∀ x d, ∀ t ∈ ts, ∀ roles, x.roles? t = some roles → P x d →
      P (x.after t roles) (roles.foldl (take t.text) d)) :
    ∃ y, P y (gather x d ts).1 := by
  induction ts generalizing x d with
  | nil => exact ⟨x, h⟩
  | cons t ts ih =>
    rw [gather]
    cases hr : x.roles? t with
    | none => exact ⟨x, h⟩
    | some roles =>
      have hnext := hstep x d t List.mem_cons_self roles hr h
      exact ih hnext fun x d u hu => hstep x d u (List.mem_cons_of_mem _ hu)

/-- What is gathered is sound. -/
theorem Sound.exists_gather {x : Context} {d : Draft} (h : Sound x d) {ts : List Token}
    (hts : ∀ t ∈ ts, t.text ≠ "") : ∃ y, Sound y (gather x d ts).1 :=
  gather_invariant h fun _ _ t ht _ hr h => h.step (hts t ht) hr

/-- At the end each finished column is complete. -/
theorem Sound.complete_gather {x : Context} {d : Draft} (h : Sound x d) {ts : List Token}
    (hts : ∀ t ∈ ts, t.text ≠ "") : ∀ c ∈ (gather x d ts).1.fields, c.isComplete := by
  obtain ⟨y, hy⟩ := h.exists_gather hts
  exact hy.complete

/-- The columns named so far, the last one included. -/
def columns (d : Draft) : List Column :=
  d.fields ++ d.pending.toList

/-- Lenient finishing does not fail. -/
theorem exists_settle_lenient (d : Draft) : ∃ d', d.settle false = .ok d' := by
  rcases d.settle_cases false with ⟨-, hsettle⟩ | ⟨c, -, -, hsettle⟩
  · exact ⟨_, hsettle⟩
  · exact ⟨_, hsettle⟩

theorem fields_of_settle {d d' : Draft} (h : d.settle false = .ok d')
    (hc : ∀ c ∈ d.fields, c.isComplete) :
    d'.table = d.table ∧ d'.fields = d.columns.filter Column.isComplete := by
  have hfields : d.fields.filter Column.isComplete = d.fields := List.filter_eq_self.2 hc
  rcases d.settle_cases false with ⟨hall, hsettle⟩ | ⟨c, hp, hfalse, hsettle⟩
  · obtain rfl := Except.ok.inj (h.symm.trans hsettle)
    have hpending : d.pending.toList.filter Column.isComplete = d.pending.toList :=
      List.filter_eq_self.2 fun c hc => hall c (by simpa using hc)
    simp [columns, hfields, hpending]
  · obtain rfl := Except.ok.inj (h.symm.trans hsettle)
    simp [columns, hfields, hp, hfalse]

end Draft

namespace Extraction

open Draft

/-- **What a reading comes to**, strict or not: a report of the open quote
if it is strict and the index clauses were not reached, and else what
finishing the last column comes to. -/
theorem schema_ofScan (strict : Bool) {s : Scan} (hts : ∀ t ∈ s.tokens, t.text ≠ "") :
    (ofScan strict s).schema =
      match if strict && !(gather {} {} s.tokens).2 then openQuote? s.leftover else none with
      | some p => .error p
      | none => ((gather {} {} s.tokens).1.settle strict).bind Draft.schema := by
  rw [ofScan, read_eq_gather sound_empty strict hts]
  dsimp only
  cases if strict && !(gather {} {} s.tokens).2 then openQuote? s.leftover else none with
  | some p => rfl
  | none => cases (gather {} {} s.tokens).1.settle strict <;> rfl

/-- **A lenient reading keeps the complete columns** of what is gathered,
if a table was named. -/
theorem schema_ofScan_lenient {s : Scan} (hts : ∀ t ∈ s.tokens, t.text ≠ "") :
    (ofScan false s).schema =
      if (gather {} {} s.tokens).1.table = "" then .error .noTableName
      else .ok ⟨(gather {} {} s.tokens).1.table,
        (gather {} {} s.tokens).1.columns.filter Column.isComplete⟩ := by
  obtain ⟨d, hd⟩ := exists_settle_lenient (gather {} {} s.tokens).1
  obtain ⟨htable, hfields⟩ := fields_of_settle hd (sound_empty.complete_gather hts)
  rw [schema_ofScan false hts, hd]
  show d.schema = _
  rw [Draft.schema, htable, hfields]

/-- **A reading without loss.** Strict or not, a reading that leaves no
quote open and whose columns are all complete keeps them all. -/
theorem schema_ofScan_of_complete {s : Scan} (strict : Bool) (hts : ∀ t ∈ s.tokens, t.text ≠ "")
    (hquote : openQuote? s.leftover = none)
    (hc : ∀ c ∈ (gather {} {} s.tokens).1.columns, c.isComplete)
    (htable : (gather {} {} s.tokens).1.table ≠ "") :
    (ofScan strict s).schema =
      .ok ⟨(gather {} {} s.tokens).1.table, (gather {} {} s.tokens).1.columns⟩ := by
  have hsettle := settle_of_complete (d := (gather {} {} s.tokens).1) strict fun c h =>
    hc c (List.mem_append_right _ (by simpa using h))
  rw [schema_ofScan strict hts, hquote, ite_self, hsettle]
  show (if (gather {} {} s.tokens).1.table = "" then _ else _) = _
  rw [if_neg htable]
  rfl

end Extraction

end TableStruct
