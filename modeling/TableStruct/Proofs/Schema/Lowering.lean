import TableStruct.Converter
import TableStruct.Proofs.Scan.Lowering

/-!
# Reading a lower-cased statement

Extraction looks at the grouping of a token and at its text in lower case.
So it gives the same roles to a token and to the token lower-cased
(`Context.after_lowered`), and what it keeps of the texts is lower-cased
along (`Draft.read_lowered`). With the scan of a lower-cased text this says
that a statement can be lower-cased first or its schema last
(`extract_lowerCase`): the outcome is the same, but that an open quote is
reported where it stands in the lower-cased statement.
-/

namespace TableStruct

open Text

/-- A column, lower-cased. -/
def Column.lowered (c : Column) : Column :=
  ⟨lowerCase c.name, lowerCase c.rawType, c.comment.map lowerCase⟩

/-- A schema, lower-cased. -/
def Schema.lowered (s : Schema) : Schema :=
  ⟨lowerCase s.tableName, s.fields.map Column.lowered⟩

/-- A failure on a text, once the text is lower-cased. -/
def Problem.lowered (cs : List Char) : Problem → Problem
  | .untypedField table field => .untypedField (lowerCase table) (lowerCase field)
  | .unterminatedQuote grouping position => .unterminatedQuote grouping (lowerPlace cs position)
  | .noTableName => .noTableName
  | .noStatements => .noStatements
  | .invalidConfiguration misfit => .invalidConfiguration misfit

/-- An outcome on a text, once the text is lower-cased, `lower` doing so
with what comes of a success. -/
def lowerOutcome {α : Type} (cs : List Char) (lower : α → α) :
    Except Problem α → Except Problem α
  | .ok a => .ok (lower a)
  | .error p => .error (p.lowered cs)

/-- Steps may be lower-cased one after the other. -/
theorem lowerOutcome_bind {α β : Type} {cs : List Char} {lower : α → α} {lower' : β → β}
    {r : Except Problem α} {f f' : α → Except Problem β}
    (h : ∀ a, f' (lower a) = lowerOutcome cs lower' (f a)) :
    (lowerOutcome cs lower r >>= f') = lowerOutcome cs lower' (r >>= f) := by
  cases r with
  | error p => rfl
  | ok a => exact h a

namespace Column

theorem isComplete_lowered (c : Column) : c.lowered.isComplete = c.isComplete := by
  have hempty : ∀ s : String, (lowerCase s != "") = (s != "") := fun s => by
    rw [Bool.eq_iff_iff, bne_iff_ne, bne_iff_ne, Ne, lowerCase_eq_empty]
  simp only [isComplete, lowered, hempty]

end Column

/-! ## Roles -/

namespace Context

theorem roles?_lowered (x : Context) (t : Token) (cs : List Char) :
    x.roles? (t.lowered cs) = x.roles? t := rfl

/-- **What is remembered of a token is the same, lower-cased or not.** -/
theorem after_lowered (x : Context) (t : Token) (cs : List Char) (roles : List Role) :
    x.after (t.lowered cs) roles = x.after t roles := by
  simp only [after, Token.lowered, lowerCase_lowerCase]

end Context

namespace Draft

/-- A schema in the making, lower-cased. -/
def lowered (d : Draft) : Draft :=
  ⟨lowerCase d.table, d.fields.map Column.lowered, d.pending.map Column.lowered,
    d.dropped.map lowerCase⟩

/-- **The column named last is finished in the same way.** -/
theorem settle_lowered (cs : List Char) (strict : Bool) (d : Draft) :
    d.lowered.settle strict = lowerOutcome cs lowered (d.settle strict) := by
  obtain ⟨table, fields, pending, dropped⟩ := d
  cases pending with
  | none => rfl
  | some c =>
    simp only [settle, lowered, Option.map_some, c.isComplete_lowered]
    split
    · simp [lowerOutcome, lowered]
    · split
      · rfl
      · simp [lowerOutcome, lowered, Column.lowered]

theorem assign_lowered (cs : List Char) (strict : Bool) (text : String) (d : Draft) (role : Role) :
    d.lowered.assign strict (lowerCase text) role =
      lowerOutcome cs lowered (d.assign strict text role) := by
  cases role with
  | table => rfl
  | field =>
    rw [assign, settle_lowered cs, assign]
    cases d.settle strict with
    | error p => rfl
    | ok d =>
      have hempty : lowerCase "" = "" := lowerCase_eq_empty.2 rfl
      simp [Except.map, lowerOutcome, lowered, Column.lowered, hempty]
  | fieldType | comment =>
    cases h : d.pending <;> simp [assign, lowerOutcome, lowered, Column.lowered, h]

theorem foldlM_assign_lowered (cs : List Char) (strict : Bool) (text : String) (d : Draft)
    (roles : List Role) :
    roles.foldlM (fun d role => d.assign strict (lowerCase text) role) d.lowered =
      lowerOutcome cs lowered (roles.foldlM (fun d role => d.assign strict text role) d) := by
  induction roles generalizing d with
  | nil => rfl
  | cons role roles ih =>
    rw [List.foldlM_cons, List.foldlM_cons, assign_lowered cs]
    exact lowerOutcome_bind fun d => ih d

/-- **Tokens are taken up in the same way**, as far as the index clauses. -/
theorem read_lowered (cs : List Char) (strict : Bool) (x : Context) (d : Draft)
    (ts : List Token) :
    read strict x d.lowered (ts.map (Token.lowered cs)) =
      lowerOutcome cs (fun out => (out.1.lowered, out.2)) (read strict x d ts) := by
  induction ts generalizing x d with
  | nil => rfl
  | cons t ts ih =>
    rw [List.map_cons, read, read, Context.roles?_lowered]
    cases x.roles? t with
    | none => rfl
    | some roles =>
      simp only [Context.after_lowered]
      rw [show (t.lowered cs).text = lowerCase t.text from rfl, foldlM_assign_lowered cs]
      exact lowerOutcome_bind fun d => ih _ d

theorem schema_lowered (cs : List Char) (d : Draft) :
    d.lowered.schema = lowerOutcome cs Schema.lowered d.schema := by
  simp only [schema, lowered, lowerCase_eq_empty]
  split <;> rfl

end Draft

/-! ## Statements -/

namespace Extraction

/-- The outcome of reading a statement, once it is lower-cased. -/
def lowered (cs : List Char) (e : Extraction) : Extraction :=
  ⟨e.dropped.map lowerCase, lowerOutcome cs Schema.lowered e.schema⟩

theorem openQuote?_lowered (cs : List Char) (leftover : Option Token) :
    openQuote? (leftover.map (Token.lowered cs)) =
      (openQuote? leftover).map (Problem.lowered cs) := by
  cases leftover with
  | none => rfl
  | some t =>
    unfold openQuote?
    cases hq : t.grouping.isQuoted <;> simp [Option.filter, Token.lowered, hq, Problem.lowered]

/-- **A lower-cased scan is read to the lower-cased outcome.** -/
theorem ofScan_lowered (cs : List Char) (strict : Bool) (s : Scan) :
    ofScan strict (s.lowered cs) = (ofScan strict s).lowered cs := by
  have hread := Draft.read_lowered cs strict {} {} s.tokens
  have hempty : (Draft.lowered {}) = {} := by
    simp [Draft.lowered, lowerCase_eq_empty]
  rw [hempty] at hread
  unfold ofScan
  rw [Scan.lowered, hread]
  cases Draft.read strict {} {} s.tokens with
  | error p => rfl
  | ok out =>
    obtain ⟨d, stopped⟩ := out
    dsimp only [lowerOutcome]
    -- an open quote is looked for as before, and reported at its place in the lower-cased text
    have hquote : (if strict && !stopped then (openQuote? s.leftover).map (Problem.lowered cs)
        else none) =
        (if strict && !stopped then openQuote? s.leftover else none).map (Problem.lowered cs) := by
      split <;> rfl
    rw [openQuote?_lowered, Draft.settle_lowered cs, hquote]
    cases if strict && !stopped then openQuote? s.leftover else none with
    | some p => rfl
    | none =>
      dsimp only [Option.map_none]
      cases d.settle strict with
      | error p => rfl
      | ok d =>
        dsimp only [lowerOutcome]
        rw [Draft.schema_lowered cs]
        rfl

end Extraction

/-- The converter with its settings but for the case of statements, which
it keeps or does not. -/
def Converter.withCase (c : Converter) (keep : Bool) : Converter :=
  ⟨{ c.settings with preserveCase := keep }, c.usable⟩

/-- Without a dotted capital I each place stays. -/
theorem lowerPlace_eq_self {cs : List Char} (h : 'İ' ∉ cs) (n : Nat) : lowerPlace cs n = n := by
  have hcount : (cs.take n).count 'İ' = 0 :=
    List.count_eq_zero.2 fun hmem => h (List.mem_of_mem_take hmem)
  rw [lowerPlace, hcount, Nat.add_zero]

/-- **Lower-casing first or last is the same**, for a statement without a
capital sigma: strict or not, the lower-cased statement has the lower-cased
outcome of the statement, and so a converter that does not keep the case
has the lower-cased outcome of one that does. Only the place of an open
quote may differ, and without a dotted capital I it does not. -/
theorem extract_lowerCase {s : String} (hs : 'Σ' ∉ s.toList) :
    (∀ strict, extract strict (lowerCase s) =
      lowerOutcome s.toList Schema.lowered (extract strict s)) ∧
    (∀ c : Converter, (c.withCase false).schema s =
      lowerOutcome s.toList Schema.lowered ((c.withCase true).schema s)) ∧
    ('İ' ∉ s.toList → ∀ n, lowerPlace s.toList n = n) := by
  have hextract : ∀ strict, extract strict (lowerCase s) =
      lowerOutcome s.toList Schema.lowered (extract strict s) := by
    intro strict
    rw [extract, Extraction.ofStatement, scan_lowerCase hs, Extraction.ofScan_lowered]
    rfl
  exact ⟨hextract, fun c => hextract c.settings.strict, fun h n => lowerPlace_eq_self h n⟩

/-- Capitals of several scripts, two of which change their length or leave
their script, and a quote that is left open. -/
def shouted : String :=
  "CREATE TABLE `İstanbul` (`\u212AEY` INT COMMENT 'ÇA VA', `Ж` \u212B COMMENT 'It''s"

theorem extract_lowerCase_shouted : 'Σ' ∉ shouted.toList ∧
    extract true (lowerCase shouted) =
      lowerOutcome shouted.toList Schema.lowered (extract true shouted) ∧
    'Σ' ∉ "`A` B 'C".toList ∧ 'İ' ∉ "`A` B 'C".toList ∧
    lowerPlace "`A` B 'C".toList 7 = 7 := by
  have hshouted : 'Σ' ∉ shouted.toList := by decide
  have hsigma : 'Σ' ∉ "`A` B 'C".toList := by decide
  have hdotted : 'İ' ∉ "`A` B 'C".toList := by decide
  exact ⟨hshouted, (extract_lowerCase hshouted).1 true, hsigma, hdotted,
    (extract_lowerCase hsigma).2.2 hdotted 7⟩

end TableStruct
