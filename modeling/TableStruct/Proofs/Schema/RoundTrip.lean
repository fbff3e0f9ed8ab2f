import TableStruct.Proofs.Schema.Declaration
import TableStruct.Proofs.Schema.Gathering

/-!
# A written declaration is read back

What is gathered depends on the groupings and texts of the tokens only
(`gather_words`). The words of a column take a reading from one point where
a column can be named, `Ready`, to the next, and add the column
(`takes_column`); between them, `Inside`, no word matters but a comment
clause. With what a scan reads a declaration as, `extract_text` follows:
strict or not, extraction gives back the table that was written.
-/

namespace TableStruct

open Draft

variable {x : Context} {d : Draft}

/-- A token with a grouping and a text, its place left open. -/
def tokenWith (w : Grouping × String) : Token :=
  ⟨w.1, w.2, ⟨0, 0⟩⟩

/-- **The places of tokens do not matter.** -/
theorem gather_words (x : Context) (d : Draft) (ts : List Token) :
    gather x d ts = gather x d ((ts.map Token.word).map tokenWith) := by
  induction ts generalizing x d with
  | nil => rfl
  | cons t ts ih =>
    have hroles : x.roles? (tokenWith t.word) = x.roles? t := rfl
    rw [List.map_cons, List.map_cons, gather, gather, hroles]
    cases x.roles? t with
    | none => rfl
    | some roles => exact ih _ _

/-- Words take a reading from one state to another, whatever follows. -/
def Takes (x : Context) (d : Draft) (ws : List (Grouping × String)) (x' : Context) (d' : Draft) :
    Prop :=
  ∀ rest, gather x d ((ws ++ rest).map tokenWith) = gather x' d' (rest.map tokenWith)

theorem takes_nil (x : Context) (d : Draft) : Takes x d [] x d :=
  fun _ => rfl

theorem Takes.append {x' x'' : Context} {d' d'' : Draft} {ws ws' : List (Grouping × String)}
    (h : Takes x d ws x' d') (h' : Takes x' d' ws' x'' d'') : Takes x d (ws ++ ws') x'' d'' := by
  intro rest
  rw [List.append_assoc, h, h']

theorem takes_of_roles {w : Grouping × String} {roles : List Role}
    (h : x.roles? (tokenWith w) = some roles) :
    Takes x d [w] (x.after (tokenWith w) roles) (roles.foldl (take w.2) d) := by
  intro rest
  rw [List.singleton_append, List.map_cons, gather, h]
  rfl

/-- A draft with one more column, named last. -/
def Draft.add (d : Draft) (c : Column) : Draft :=
  { d with fields := d.columns, pending := some c }

@[simp] theorem Draft.columns_add (d : Draft) (c : Column) :
    (d.add c).columns = d.columns ++ [c] := rfl

/-- One word that is no identifier amends the column named last. -/
theorem takes_other {g : Grouping} (hg : g ≠ .backquoted) (x : Context) (d : Draft) (w : String)
    (c : Column) : Takes x (d.add c) [(g, w)] (x.after (tokenWith (g, w)) x.otherRoles)
      (d.add (amend x w c)) := by
  have hb : (tokenWith (g, w)).isBackquoted = false := by
    simpa [tokenWith, Token.isBackquoted] using hg
  have hroles : x.roles? (tokenWith (g, w)) = some x.otherRoles := by
    rw [Context.roles?, hb]
    rfl
  have htakes := takes_of_roles (d := d.add c) hroles
  rwa [foldl_take_amend] at htakes

/-- A column can be named: the table has been, and no index clause begins. -/
structure Ready (x : Context) : Prop where
  assigned : 0 < x.assigned
  /-- If a name went before, it is the table's. -/
  first : x.afterName → x.assigned = 1
  /-- The word `key` did not. -/
  word : x.word ≠ "key"

/-- A column is under way, its type read. -/
structure Inside (x : Context) : Prop where
  assigned : 0 < x.assigned
  other : x.afterName = false
  key : x.word ≠ "key"
  comment : x.word ≠ "comment"

theorem Inside.ready (h : Inside x) : Ready x :=
  ⟨h.assigned, fun hname => by simp [h.other] at hname, h.key⟩

/-- A word behind a type changes nothing, unless `comment` goes before it. -/
theorem amend_eq_self (hother : x.afterName = false) (hword : x.word ≠ "comment") (w : String)
    (c : Column) : amend x w c = c := by
  have hcomment : (x.word == "comment") = false := by simpa using hword
  rw [amend, hother, hcomment]
  rfl

theorem Inside.amend_eq (h : Inside x) (w : String) (c : Column) : amend x w c = c :=
  amend_eq_self h.other h.comment w c

theorem inside_after {w : String} (hw : isAttribute w) {roles : List Role}
    (h : 0 < x.assigned + roles.length) : Inside (x.after (tokenWith (.bare, w)) roles) := by
  rw [isAttribute, Bool.and_eq_true, Bool.and_eq_true, bne_iff_ne, bne_iff_ne] at hw
  exact ⟨h, rfl, hw.1.2, hw.2⟩

/-- **A name begins a column.** -/
theorem takes_name (hx : Ready x) (w : String) :
    Takes x d [(.backquoted, w)] (x.after (tokenWith (.backquoted, w)) [.field])
      (d.add ⟨w, "", none⟩) := by
  have hstop : (x.afterName && decide (1 < x.assigned)) = false := by
    cases hname : x.afterName with
    | false => rfl
    | true => rw [hx.first hname, Bool.true_and, decide_eq_false (Nat.lt_irrefl 1)]
  have hkey : (x.word == "key") = false := by simpa using hx.word
  have hb : (tokenWith (.backquoted, w)).isBackquoted := rfl
  have hroles : x.roles? (tokenWith (.backquoted, w)) = some [.field] := by
    rw [Context.roles?, if_pos hb, hstop, hkey, Bool.or_self, Bool.and_false,
      if_neg Bool.false_ne_true, if_neg (Nat.ne_of_gt hx.assigned)]
  exact takes_of_roles hroles

/-- **The word after the name is the type**, and the comment as well if the
name is `comment`. -/
theorem takes_type {w : String} (hw : isAttribute w) (x : Context) (d : Draft) (n : String) :
    ∃ x', Inside x' ∧
      Takes (x.after (tokenWith (.backquoted, n)) [.field]) (d.add ⟨n, "", none⟩) [(.bare, w)] x'
        (d.add ⟨n, w, if Text.lowerCase n == "comment" then some w else none⟩) := by
  have hassigned : 0 < (x.after (tokenWith (.backquoted, n)) [.field]).assigned := Nat.succ_pos _
  exact ⟨_, inside_after hw (Nat.add_pos_left hassigned _), takes_other (g := .bare) nofun _ d w _⟩

/-- **Attributes change nothing.** -/
theorem takes_attributes (hx : Inside x) {ws : List String} (hws : ∀ w ∈ ws, isAttribute w)
    (d : Draft) (c : Column) :
    ∃ x', Inside x' ∧ Takes x (d.add c) (bareWords ws) x' (d.add c) := by
  induction ws generalizing x with
  | nil => exact ⟨x, hx, takes_nil x _⟩
  | cons w ws ih =>
    have hinside := inside_after (hws w List.mem_cons_self)
      (Nat.add_pos_left hx.assigned x.otherRoles.length)
    have htakes := takes_other (g := .bare) nofun x d w c
    rw [hx.amend_eq] at htakes
    obtain ⟨x', hx', hmore⟩ := ih hinside fun v hv => hws v (List.mem_cons_of_mem _ hv)
    exact ⟨x', hx', htakes.append hmore⟩

theorem amend_after_comment (x : Context) (roles : List Role) (text : String) (c : Column) :
    amend (x.after (tokenWith (.bare, "comment")) roles) text c =
      { c with comment := some text } := by
  have hcomment : (Text.lowerCase "comment" == "comment") = true := by decide
  have hword : ((x.after (tokenWith (.bare, "comment")) roles).word == "comment") = true := hcomment
  rw [amend, hword]
  rfl

/-- **A comment clause gives the column its comment.** -/
theorem takes_comment (hx : Inside x) {comment : Option String}
    (hc : ∀ text ∈ comment, Text.lowerCase text ≠ "key") (d : Draft) (c : Column) :
    ∃ x', Ready x' ∧ Takes x (d.add c) (Clause.commentWords comment) x'
      (d.add { c with comment := comment <|> c.comment }) := by
  cases comment with
  | none => exact ⟨x, hx.ready, takes_nil x _⟩
  | some text =>
    have hword := takes_other (g := .bare) nofun x d "comment" c
    rw [hx.amend_eq] at hword
    have htext := takes_other (g := .singleQuoted) nofun
      (x.after (tokenWith (.bare, "comment")) x.otherRoles) d text c
    rw [amend_after_comment] at htext
    refine ⟨_, ⟨?_, ?_, hc text rfl⟩, hword.append htext⟩
    · exact Nat.add_pos_left (Nat.add_pos_left hx.assigned _) _
    · intro hname
      exact absurd hname Bool.false_ne_true

/-- **The words of a column before its comment clause begin the column.** -/
theorem takes_stem (hx : Ready x) {c : Clause} (hc : c.Stem) (d : Draft) :
    ∃ x', Inside x' ∧ Takes x d c.stemWords x' (d.add
      ⟨c.name, c.rawType, if Text.lowerCase c.name == "comment" then some c.rawType else none⟩) := by
  have hname := takes_name (d := d) hx c.name
  obtain ⟨x₁, hx₁, htype⟩ := takes_type hc.rawType x d c.name
  obtain ⟨x₂, hx₂, hsizes⟩ := takes_attributes hx₁ hc.sizes d _
  obtain ⟨x₃, hx₃, hattributes⟩ := takes_attributes hx₂ hc.attributes d _
  exact ⟨x₃, hx₃, hname.append (htype.append (hsizes.append hattributes))⟩

/-- **The words of a column add the column.** -/
theorem takes_column (hx : Ready x) {c : Clause} (hc : c.WellFormed) (d : Draft) :
    ∃ x', Ready x' ∧ Takes x d c.words x' (d.add c.column) := by
  obtain ⟨x₁, hx₁, hstem⟩ := takes_stem hx hc.stem d
  obtain ⟨x₂, hx₂, hcomment⟩ := takes_comment hx₁ (fun text ht => (hc.comment text ht).2) d _
  -- the type was taken for a comment only where a comment of its own replaces it
  have hlast : (c.comment <|> if Text.lowerCase c.name == "comment" then some c.rawType else none) =
      c.comment := by
    cases h : c.comment with
    | some text => rfl
    | none =>
      have hne : Text.lowerCase c.name ≠ "comment" := by
        intro heq
        simpa [h] using hc.remarked heq
      rw [if_neg (by simpa using hne)]
      rfl
  have hall := hstem.append hcomment
  dsimp only at hall
  rw [hlast] at hall
  exact ⟨x₂, hx₂, hall⟩

/-- **The words of several columns add the columns**, in order. -/
theorem takes_columns (hx : Ready x) {cs : List Clause} (hcs : ∀ c ∈ cs, c.WellFormed)
    (d : Draft) : ∃ x' d', Takes x d (cs.flatMap Clause.words) x' d' ∧ d'.table = d.table ∧
      d'.columns = d.columns ++ cs.map Clause.column := by
  induction cs generalizing x d with
  | nil => exact ⟨x, d, takes_nil x d, rfl, (List.append_nil _).symm⟩
  | cons c cs ih =>
    obtain ⟨x₁, hx₁, hcolumn⟩ := takes_column hx (hcs c List.mem_cons_self) d
    obtain ⟨x₂, d₂, hmore, htable, hcolumns⟩ :=
      ih hx₁ (fun c' hc' => hcs c' (List.mem_cons_of_mem _ hc')) (d.add c.column)
    refine ⟨x₂, d₂, hcolumn.append hmore, htable, ?_⟩
    rw [hcolumns, Draft.columns_add, List.append_assoc]
    rfl

theorem takes_preface : ∃ x, x.assigned = 0 ∧
    Takes {} {} [(.bare, "create"), (.bare, "table")] x {} := by
  have hcreate : Context.roles? {} (tokenWith (.bare, "create")) = some [] := by decide
  have htable : (Context.after {} (tokenWith (.bare, "create")) []).roles?
      (tokenWith (.bare, "table")) = some [] := by decide
  have htakes := (takes_of_roles (d := {}) hcreate).append (takes_of_roles htable)
  exact ⟨_, rfl, htakes⟩

/-- **The table name is the first role.** -/
theorem takes_table (hx : x.assigned = 0) {w : String} (hw : Text.lowerCase w ≠ "key") :
    ∃ x', Ready x' ∧ Takes x d [(.backquoted, w)] x' { d with table := w } := by
  have hb : (tokenWith (.backquoted, w)).isBackquoted := rfl
  have hroles : x.roles? (tokenWith (.backquoted, w)) = some [.table] := by
    rw [Context.roles?, if_pos hb, hx]
    rfl
  refine ⟨_, ⟨?_, ?_, hw⟩, takes_of_roles hroles⟩
  · exact Nat.succ_pos _
  · intro _
    rw [Context.after, hx]
    rfl

/-- The table is named before the columns are. -/
theorem exists_gather_table {table : String} (h : Text.lowerCase table ≠ "key") :
    ∃ x, Ready x ∧ ∀ ws, gather {} {} (((.bare, "create") :: (.bare, "table") ::
      (.backquoted, table) :: ws).map tokenWith) = gather x { table } (ws.map tokenWith) := by
  obtain ⟨x₁, hx₁, hpreface⟩ := takes_preface
  obtain ⟨x₂, hx₂, htable⟩ := takes_table (d := {}) hx₁ h
  exact ⟨x₂, hx₂, hpreface.append htable⟩

/-- **The words of a declaration are its table.** -/
theorem gather_declaration {t : Declaration} (ht : t.WellFormed) :
    (gather {} {} (t.words.map tokenWith)).1.table = t.table ∧
      (gather {} {} (t.words.map tokenWith)).1.columns = t.columns.map Clause.column := by
  obtain ⟨x₁, hx₁, hgather⟩ := exists_gather_table ht.table_ne
  obtain ⟨x₂, d, hcolumns, hname, hfields⟩ := takes_columns hx₁ ht.columns { table := t.table }
  have hall : gather {} {} (t.words.map tokenWith) = (d, false) := by
    have htakes := hcolumns []
    rw [List.append_nil] at htakes
    exact (hgather _).trans htakes
  rw [hall]
  exact ⟨hname, hfields⟩

theorem ne_of_isQuotable {s : String} (h : isQuotable s) : s ≠ "" := by
  rintro rfl
  simp [isQuotable] at h

/-- A column with a name and a type that can be written has both. -/
theorem isComplete_of_spelt {c : Column} (hname : isQuotable c.name)
    (htype : isAttribute c.rawType) : c.isComplete := by
  have hname : c.name ≠ "" := ne_of_isQuotable hname
  have htype := isWord_of_isAttribute htype
  rw [isWord, Bool.and_eq_true, bne_iff_ne] at htype
  simp [Column.isComplete, hname, htype.1]

/-- **A written declaration is read back.** Strict or not, extraction gives
the table and the columns that were written. -/
theorem extract_text (strict : Bool) {t : Declaration} (ht : t.WellFormed) :
    extract strict t.text = .ok t.schema := by
  have htext : ∀ u ∈ (scan t.text).tokens, u.text ≠ "" := fun u hu => text_ne_of_mem_scan hu
  obtain ⟨hwords, hleftover⟩ :
      (scan t.text).tokens.map Token.word = t.words ∧ (scan t.text).leftover = none :=
    Declaration.scan_text ht.table fun c hc => Clause.readAs_words (ht.columns c hc)
  have hgather : gather {} {} (scan t.text).tokens = gather {} {} (t.words.map tokenWith) := by
    rw [gather_words, hwords]
  obtain ⟨htable, hcolumns⟩ := gather_declaration ht
  rw [← hgather] at htable hcolumns
  have hquote : Extraction.openQuote? (scan t.text).leftover = none := by
    rw [hleftover]
    rfl
  have hname : t.table ≠ "" := ne_of_isQuotable ht.table
  have hcomplete : ∀ c ∈ (gather {} {} (scan t.text).tokens).1.columns, c.isComplete := by
    rw [hcolumns]
    intro c hc
    obtain ⟨clause, hclause, rfl⟩ := List.mem_map.1 hc
    exact isComplete_of_spelt (ht.columns clause hclause).name (ht.columns clause hclause).rawType
  rw [extract, Extraction.ofStatement,
    Extraction.schema_ofScan_of_complete strict htext hquote hcomplete (htable.trans_ne hname),
    htable, hcolumns]
  rfl

/-- Quotes inside the texts, sizes, attributes and a column named `comment`. -/
def orders : Declaration :=
  ⟨"orders`2", [
    ⟨"id", "bigint", ["20"], ["unsigned", "not", "null"], some "it's the `key`, (row) ''"⟩,
    ⟨"Comment", "text", [], [], some "free text"⟩,
    ⟨"price``", "decimal", ["10", "2"], [], none⟩]⟩

theorem extract_text_orders : orders.WellFormed ∧
    extract true orders.text = .ok orders.schema ∧
    extract false orders.text = .ok orders.schema := by
  have horders : orders.WellFormed := by decide
  exact ⟨horders, extract_text true horders, extract_text false horders⟩

end TableStruct
