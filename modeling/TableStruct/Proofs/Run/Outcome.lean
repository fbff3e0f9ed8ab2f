import TableStruct.Proofs.Converter.Batches
import TableStruct.Proofs.FileSystem.Places
import TableStruct.Run

/-!
# What a run comes to

A run stops for the first of several reasons (`Stops`), all of them looked
at before anything is printed or written, or it has a text, which depends on
the source text, the settings and the format alone (`generated`), and
delivers it: a dry run prints it, any other run writes it to one file or
fails to open that. `stops_iff` ties the reasons to the plan of the run, and
`run_allOrNothing` says of each way a run can end what is printed and how
the files are then.
-/

namespace TableStruct

open Statement

/-! ## The text of a run -/

/-- The text that a source text is converted to. -/
def generated (s : Settings) (format : Format) (source : String) : Except Problem String :=
  Converter.ofSettings s >>= fun c => Plan.content c format (ofSource source)

/-- Why a run stops before it prints or writes anything, in the order in
which it looks: there is no source, the source is no text, a setting cannot
be used, there is no statement, or a statement has no schema. -/
inductive Stops (o : Options) (source : Option ByteArray) : Failure → Prop
  | absent (h : source = none) : Stops o source (.sourceNotFound o.path)
  | notText {bytes : ByteArray} (h : source = some bytes)
      (hbytes : ∀ text : String, bytes ≠ text.toUTF8) : Stops o source (.io .notText)
  | settings {text : String} {misfit : Misfit} (h : source = some text.toUTF8)
      (hmisfit : o.settings.misfit? = some misfit) :
      Stops o source (.conversion (.invalidConfiguration misfit))
  | noStatements {text : String} (h : source = some text.toUTF8)
      (husable : o.settings.misfit? = none) (hnil : ofSource text = []) :
      Stops o source (.conversion .noStatements)
  | statement {text : String} {c : Converter} {p : Problem} (h : source = some text.toUTF8)
      (hc : c.settings = o.settings) (hp : c.FirstFailure (ofSource text) p) :
      Stops o source (.conversion p)

/-! ### The source -/

namespace Source

/-- The bytes of a text are read as the text. -/
theorem ofBytes_text (text : String) : ofBytes (some text.toUTF8) = .text text := by
  have hread : String.fromUTF8? text.toUTF8 = some text := by
    unfold String.fromUTF8?
    exact dif_pos text.isValidUTF8
  rw [ofBytes, hread]

/-- Bytes that are those of no text are no source. -/
theorem ofBytes_notText {bytes : ByteArray} (h : ∀ text : String, bytes ≠ text.toUTF8) :
    ofBytes (some bytes) = .broken .notText := by
  have hread : String.fromUTF8? bytes = none := by
    unfold String.fromUTF8?
    exact dif_neg fun hvalid => h ⟨bytes, hvalid⟩ rfl
  rw [ofBytes, hread]

end Source

/-! ### The settings and the statements -/

namespace Converter

theorem ofSettings_of_misfit {s : Settings} {misfit : Misfit} (h : s.misfit? = some misfit) :
    ofSettings s = .error (.invalidConfiguration misfit) := by
  unfold ofSettings
  split
  · next hnone => rw [h] at hnone; cases hnone
  · next hsome => rw [h] at hsome; cases hsome; rfl

theorem ofSettings_settings (c : Converter) : ofSettings c.settings = .ok c := by
  unfold ofSettings
  split
  · rfl
  · next hsome => rw [c.usable] at hsome; cases hsome

/-- The first statement that fails is the failure of all. -/
theorem schemas_of_firstFailure {c : Converter} {statements : List String} {p : Problem}
    (h : c.FirstFailure statements p) : c.schemas statements = .error p := by
  obtain ⟨before, t, after, rfl, hbefore, ht⟩ := h
  rw [schemas_of_ne_nil (by simp)]
  induction before with
  | nil => rw [List.nil_append, List.mapM_cons, ht]; rfl
  | cons u before ih =>
    obtain ⟨⟨s, hu⟩, hbefore⟩ := List.forall_mem_cons.1 hbefore
    rw [List.cons_append, List.mapM_cons, hu, ih hbefore]
    rfl

end Converter

namespace Plan

/-- A failure of the schemas is one of the text, in either format. -/
theorem content_of_schemas {c : Converter} {statements : List String} {p : Problem}
    (h : c.schemas statements = .error p) (format : Format) :
    content c format statements = .error p := by
  cases format with
  | go => exact (Converter.fails_of_schemas h).file
  | json => rw [content, h]; rfl

/-- Where there are schemas, there is a text. -/
theorem exists_content {c : Converter} {statements : List String} {schemas : List Schema}
    (h : c.Gives statements schemas) (format : Format) :
    ∃ text, content c format statements = .ok text := by
  cases format with
  | go => exact ⟨_, h.file⟩
  | json => exact ⟨_, by rw [content, h.schemas]; rfl⟩

/-- What is done with a source text follows from what it is converted to. -/
theorem action_of_text (o : Options) (text : String) :
    (of o (.text text)).action = match generated o.settings o.format text with
      | .error p => .error (.conversion p)
      | .ok content => .ok (actionFor o content) := by
  simp only [of, ofStatements, generated]
  cases Converter.ofSettings o.settings with
  | error p => rfl
  | ok c =>
    simp only [bind, Except.bind]
    cases content c o.format (ofSource text) <;> rfl

end Plan

theorem generated_of_misfit {s : Settings} {misfit : Misfit} (h : s.misfit? = some misfit)
    (format : Format) (text : String) :
    generated s format text = .error (.invalidConfiguration misfit) := by
  rw [generated, Converter.ofSettings_of_misfit h]
  rfl

/-- What a source text is converted to is the text of its statements. -/
theorem generated_settings (c : Converter) (format : Format) (text : String) :
    generated c.settings format text = Plan.content c format (ofSource text) := by
  rw [generated, c.ofSettings_settings]
  rfl

/-- Settings have something amiss, or are those of a converter. -/
theorem misfit_or_settings (s : Settings) :
    (∃ misfit, s.misfit? = some misfit) ∨ ∃ c : Converter, c.settings = s := by
  cases hmisfit : s.misfit? with
  | some misfit => exact .inl ⟨misfit, rfl⟩
  | none => exact .inr ⟨⟨s, hmisfit⟩, rfl⟩

theorem exists_converter_of_generated {s : Settings} {format : Format} {text content : String}
    (h : generated s format text = .ok content) :
    ∃ c : Converter, c.settings = s ∧ Plan.content c format (ofSource text) = .ok content := by
  rcases misfit_or_settings s with ⟨misfit, hmisfit⟩ | ⟨c, rfl⟩
  · rw [generated_of_misfit hmisfit] at h
    cases h
  · rw [generated_settings] at h
    exact ⟨c, rfl, h⟩

/-- **Why a source text is converted to nothing**: a setting cannot be used,
there is no statement, or a statement fails. -/
theorem generated_eq_error_iff {s : Settings} {format : Format} {text : String} {p : Problem} :
    generated s format text = .error p ↔
      (∃ misfit, s.misfit? = some misfit ∧ p = .invalidConfiguration misfit) ∨
      (s.misfit? = none ∧ ofSource text = [] ∧ p = .noStatements) ∨
      ∃ c : Converter, c.settings = s ∧ c.FirstFailure (ofSource text) p := by
  constructor
  · intro h
    rcases misfit_or_settings s with ⟨misfit, hmisfit⟩ | ⟨c, rfl⟩
    · rw [generated_of_misfit hmisfit] at h
      cases h
      exact .inl ⟨misfit, hmisfit, rfl⟩
    · rw [generated_settings] at h
      rcases c.outputs_agree (ofSource text) with
        ⟨hnil, hfails⟩ | ⟨q, hq, hfails⟩ | ⟨-, schemas, -, hgives⟩
      · rw [Plan.content_of_schemas hfails.schemas] at h
        cases h
        exact .inr (.inl ⟨c.usable, hnil, rfl⟩)
      · rw [Plan.content_of_schemas hfails.schemas] at h
        cases h
        exact .inr (.inr ⟨c, rfl, hq⟩)
      · obtain ⟨found, hfound⟩ := Plan.exists_content hgives format
        rw [h] at hfound
        cases hfound
  · rintro (⟨misfit, hmisfit, rfl⟩ | ⟨husable, hnil, rfl⟩ | ⟨c, rfl, hp⟩)
    · exact generated_of_misfit hmisfit format text
    · obtain ⟨c, rfl⟩ : ∃ c : Converter, c.settings = s := ⟨⟨s, husable⟩, rfl⟩
      rw [generated_settings, hnil]
      exact Plan.content_of_schemas rfl format
    · rw [generated_settings]
      exact Plan.content_of_schemas (Converter.schemas_of_firstFailure hp) format

/-- **A run stops for just these reasons**, whether it would print or
write. -/
theorem stops_iff {o : Options} {source : Option ByteArray} {f : Failure} :
    Stops o source f ↔ (Plan.of o (.ofBytes source)).action = .error f := by
  constructor
  · rintro (rfl | ⟨rfl, hbytes⟩ | ⟨rfl, hmisfit⟩ | ⟨rfl, husable, hnil⟩ | ⟨rfl, hc, hp⟩)
    · rfl
    · rw [Source.ofBytes_notText hbytes]
      rfl
    · rw [Source.ofBytes_text, Plan.action_of_text,
        generated_eq_error_iff.2 (.inl ⟨_, hmisfit, rfl⟩)]
    · rw [Source.ofBytes_text, Plan.action_of_text,
        generated_eq_error_iff.2 (.inr (.inl ⟨husable, hnil, rfl⟩))]
    · rw [Source.ofBytes_text, Plan.action_of_text,
        generated_eq_error_iff.2 (.inr (.inr ⟨_, hc, hp⟩))]
  · intro h
    cases source with
    | none =>
      cases h
      exact .absent rfl
    | some bytes =>
      by_cases htext : ∃ text : String, bytes = text.toUTF8
      · obtain ⟨text, rfl⟩ := htext
        rw [Source.ofBytes_text, Plan.action_of_text] at h
        cases hgenerated : generated o.settings o.format text with
        | ok content => rw [hgenerated] at h; cases h
        | error p =>
          rw [hgenerated] at h
          cases h
          rcases generated_eq_error_iff.1 hgenerated with
            ⟨misfit, hmisfit, rfl⟩ | ⟨husable, hnil, rfl⟩ | ⟨c, hc, hp⟩
          · exact .settings rfl hmisfit
          · exact .noStatements rfl husable hnil
          · exact .statement rfl hc hp
      · have hbytes : ∀ text : String, bytes ≠ text.toUTF8 := fun text heq => htext ⟨text, heq⟩
        rw [Source.ofBytes_notText hbytes] at h
        cases h
        exact .notText rfl hbytes

/-! ## What is printed and written -/

/-- The run fails. Nothing is printed, and every file is as it was. -/
structure FailsWith (o : Options) (fs : FileSystem) (f : Failure) : Prop where
  outcome : (run o fs).1.outcome = .error f
  printed : (run o fs).1.printed = ""
  unchanged : (run o fs).2 = fs

/-- The run prints a text and nothing else, and every file is as it was. -/
structure Prints (o : Options) (fs : FileSystem) (content : String) : Prop where
  outcome : (run o fs).1.outcome = .ok (.printed content)
  printed : (run o fs).1.printed = content
  unchanged : (run o fs).2 = fs

/-- The run writes a text to the file at a place, behind what that holds or
in place of it. Nothing is printed, and every other file is as it was. -/
structure Writes (o : Options) (fs : FileSystem) (content : String) (l : Location) : Prop where
  place : fs.locate o.output.path = .ok l
  outcome : (run o fs).1.outcome = .ok (.written o.output.path)
  printed : (run o fs).1.printed = ""
  content : (run o fs).2.content? l =
    some (FileSystem.written o.output.mode (fs.content? l) content.toUTF8)
  others : ∀ l', l' ≠ l → (run o fs).2.content? l' = fs.content? l'
  tree : FileSystem.SameTree fs (run o fs).2

/-- The run does with a text what its options ask for. A dry run prints it,
any other writes it to the output file, or fails if that cannot be
opened. -/
structure Delivers (o : Options) (fs : FileSystem) (content : String) : Prop where
  dry : o.dryRun = true → Prints o fs content
  opened : o.dryRun = false → ∀ l, fs.locate o.output.path = .ok l → Writes o fs content l
  closed : o.dryRun = false → ∀ fault, fs.locate o.output.path = .error fault →
    FailsWith o fs (.io fault)

variable {o : Options} {fs : FileSystem}

theorem failsWith_of_action {f : Failure}
    (h : (Plan.of o (.ofBytes (fs.read? o.path))).action = .error f) : FailsWith o fs f := by
  have hrun : run o fs = (⟨(Plan.of o (.ofBytes (fs.read? o.path))).log, .error f⟩, fs) := by
    simp only [run, h]
  refine ⟨?_, ?_, ?_⟩ <;> rw [hrun]
  rfl

/-- **A text that a run has is delivered.** -/
theorem delivers_of_action {content : String}
    (h : (Plan.of o (.ofBytes (fs.read? o.path))).action = .ok (Plan.actionFor o content)) :
    Delivers o fs content := by
  refine ⟨fun hdry => ?_, fun hwet l hl => ?_, fun hwet fault hfault => ?_⟩
  · rw [Plan.actionFor, if_pos hdry] at h
    have hrun : run o fs =
        (⟨(Plan.of o (.ofBytes (fs.read? o.path))).log, .ok (.printed content)⟩, fs) := by
      simp only [run, h]
    refine ⟨?_, ?_, ?_⟩ <;> rw [hrun]
    rfl
  · rw [Plan.actionFor, if_neg (by simp [hwet])] at h
    have hrun : run o fs =
        (⟨(Plan.of o (.ofBytes (fs.read? o.path))).log ++ [.written o.output.path],
            .ok (.written o.output.path)⟩,
          fs.put l (FileSystem.written o.output.mode (fs.content? l) content.toUTF8)) := by
      simp only [run, h, FileSystem.write_of_locate hl]
    refine ⟨hl, ?_, ?_, ?_, fun l' hne => ?_, ?_⟩ <;> rw [hrun]
    · rfl
    · rw [FileSystem.content?_put, if_pos rfl]
    · rw [FileSystem.content?_put, if_neg hne]
    · exact FileSystem.sameTree_put fs l _
  · rw [Plan.actionFor, if_neg (by simp [hwet])] at h
    have hrun : run o fs =
        (⟨(Plan.of o (.ofBytes (fs.read? o.path))).log, .error (.io fault)⟩, fs) := by
      simp only [run, h, FileSystem.write_of_fault hfault]
    refine ⟨?_, ?_, ?_⟩ <;> rw [hrun]
    rfl

/-- A source that is converted to a text gives no reason to stop. -/
theorem action_of_generated {text content : String} (hsource : fs.read? o.path = some text.toUTF8)
    (hgenerated : generated o.settings o.format text = .ok content) :
    (Plan.of o (.ofBytes (fs.read? o.path))).action = .ok (Plan.actionFor o content) := by
  rw [hsource, Source.ofBytes_text, Plan.action_of_text, hgenerated]

/-- **A run that does not stop has a text, and delivers it.** -/
theorem exists_delivers (h : ∀ f, ¬ Stops o (fs.read? o.path) f) :
    ∃ text content, fs.read? o.path = some text.toUTF8 ∧
      generated o.settings o.format text = .ok content ∧ Delivers o fs content := by
  cases hsource : fs.read? o.path with
  | none => exact absurd (.absent hsource) (h _)
  | some bytes =>
    by_cases htext : ∃ text : String, bytes = text.toUTF8
    · obtain ⟨text, rfl⟩ := htext
      cases hgenerated : generated o.settings o.format text with
      | error p =>
        refine absurd (stops_iff.2 ?_) (h (.conversion p))
        rw [hsource, Source.ofBytes_text, Plan.action_of_text, hgenerated]
      | ok content =>
        exact ⟨text, content, rfl, hgenerated,
          delivers_of_action (action_of_generated hsource hgenerated)⟩
    · exact absurd (.notText hsource fun text heq => htext ⟨text, heq⟩) (h _)

/-- The run has a text to show, printed or written. -/
def Emits (o : Options) (fs : FileSystem) (content : String) : Prop :=
  Prints o fs content ∨ ∃ l, Writes o fs content l

/-- No run shows two texts. -/
theorem emits_unique {a b : String} (ha : Emits o fs a) (hb : Emits o fs b) : a = b := by
  rcases ha with ha | ⟨l, ha⟩ <;> rcases hb with hb | ⟨l', hb⟩
  · exact ha.printed.symm.trans hb.printed
  · have houtcome := ha.outcome.symm.trans hb.outcome
    cases houtcome
  · have houtcome := ha.outcome.symm.trans hb.outcome
    cases houtcome
  · have hplace := ha.place.symm.trans hb.place
    cases hplace
    have hbytes := FileSystem.written_inj (Option.some.inj (ha.content.symm.trans hb.content))
    exact String.toByteArray_inj.1 hbytes

theorem exists_ok_of_emits {content : String} (h : Emits o fs content) :
    ∃ outcome, (run o fs).1.outcome = .ok outcome := by
  rcases h with h | ⟨l, h⟩
  · exact ⟨_, h.outcome⟩
  · exact ⟨_, h.outcome⟩

theorem not_failsWith_of_ok {outcome : Outcome} (h : (run o fs).1.outcome = .ok outcome)
    (f : Failure) : ¬ FailsWith o fs f := by
  intro hfails
  rw [hfails.outcome] at h
  cases h

/-- What is delivered is shown, unless the run fails. -/
theorem emits_of_delivers {content : String} (h : Delivers o fs content) {outcome : Outcome}
    (hok : (run o fs).1.outcome = .ok outcome) : Emits o fs content := by
  cases hdry : o.dryRun with
  | true => exact .inl (h.dry hdry)
  | false =>
    cases hl : fs.locate o.output.path with
    | ok l => exact .inr ⟨l, h.opened hdry l hl⟩
    | error fault => exact absurd (h.closed hdry fault hl) (not_failsWith_of_ok hok _)

/-- **A run that does not fail delivers what its source is converted to.** -/
theorem exists_delivers_of_ok {outcome : Outcome} (h : (run o fs).1.outcome = .ok outcome) :
    ∃ text content, fs.read? o.path = some text.toUTF8 ∧
      generated o.settings o.format text = .ok content ∧ Delivers o fs content :=
  exists_delivers fun f hf => not_failsWith_of_ok h f (failsWith_of_action (stops_iff.1 hf))

theorem generated_of_emits {content : String} (h : Emits o fs content) :
    ∃ text, fs.read? o.path = some text.toUTF8 ∧
      generated o.settings o.format text = .ok content := by
  obtain ⟨outcome, hok⟩ := exists_ok_of_emits h
  obtain ⟨text, content', hsource, hgenerated, hdelivers⟩ := exists_delivers_of_ok hok
  obtain rfl := emits_unique h (emits_of_delivers hdelivers hok)
  exact ⟨text, hsource, hgenerated⟩

/-- **A run does all or nothing.** If there is a reason to stop, the first
one is its failure, nothing is printed and no file is changed, in a dry run
or not. If there is none, it has a text, and prints it or writes it to one
file; if it cannot open that file, it fails and again nothing is changed.
The text does not depend on where it goes: any run with the same settings
and format of the same source delivers the same. -/
theorem run_allOrNothing (o : Options) (fs : FileSystem) :
    (∀ f, Stops o (fs.read? o.path) f → FailsWith o fs f) ∧
    ((∀ f, ¬ Stops o (fs.read? o.path) f) →
      ∃ text content, fs.read? o.path = some text.toUTF8 ∧
        generated o.settings o.format text = .ok content ∧ Delivers o fs content) ∧
    ∀ o' fs' content, o'.settings = o.settings → o'.format = o.format →
      fs'.read? o'.path = fs.read? o.path → Emits o fs content → Delivers o' fs' content := by
  refine ⟨fun f hf => failsWith_of_action (stops_iff.1 hf), exists_delivers, ?_⟩
  intro o' fs' content hsettings hformat hread hemits
  obtain ⟨text, hsource, hgenerated⟩ := generated_of_emits hemits
  rw [← hsettings, ← hformat] at hgenerated
  exact delivers_of_action (action_of_generated (hread.trans hsource) hgenerated)

/-- The options of a dry run that shows the structs of `t.sql`. -/
def showTables : Options where
  path := "t.sql"
  tags := ["json"]
  commentTag := "comment"
  tableLead := none
  tableTrail := none
  fieldLead := none
  fieldTrail := none
  target := some "go"
  fileName := "t.go"
  mode := .append
  abbreviations := []
  package := "model"
  strict := true
  preserveCase := true
  format := .go
  dryRun := true
  verbose := false

/-- The same with a package name that is none. -/
def misnamed : Options :=
  { showTables with package := "1" }

/-- The same, with the structs written to `go/t.go`. -/
def writeTables : Options :=
  { showTables with dryRun := false }

/-- The converter of these options. -/
def tables : Converter :=
  ⟨showTables.settings, by decide +kernel⟩

/-- A directory `go` with a file, and a source `t.sql` beside it. -/
def desk : FileSystem where
  files :=
    [(["t.sql"], "create table `t` (`a` int)".toUTF8), (["go", "t.go"], "// tables\n".toUTF8)]
  directories := [["go"]]
  current := []

theorem read?_desk : desk.read? "t.sql" = some "create table `t` (`a` int)".toUTF8 := by
  decide +kernel

/-- The source on the desk is converted, in either format. -/
theorem exists_generated_desk (format : Format) : ∃ content,
    generated showTables.settings format "create table `t` (`a` int)" = .ok content := by
  have hstatements : ofSource "create table `t` (`a` int)" = ["create table `t` (`a` int)"] := by
    rw [ofSource_eq, statements_of_head (by decide) (by decide) (by decide)]
    decide
  have hschemas : tables.schemas ["create table `t` (`a` int)"] =
      .ok [⟨"t", [⟨"a", "int", none⟩]⟩] := by decide +kernel
  obtain ⟨content, hcontent⟩ := Plan.exists_content (Converter.gives_of_schemas hschemas) format
  refine ⟨content, ?_⟩
  have hgenerated := generated_settings tables format "create table `t` (`a` int)"
  rw [hstatements, hcontent] at hgenerated
  exact hgenerated

theorem run_allOrNothing_desk :
    (Stops misnamed (desk.read? "t.sql") (.conversion (.invalidConfiguration (.package "1"))) ∧
      FailsWith misnamed desk (.conversion (.invalidConfiguration (.package "1")))) ∧
    (∀ f, ¬ Stops showTables (desk.read? "t.sql") f) ∧
    ∃ content, Emits showTables desk content ∧ Delivers writeTables desk content := by
  have hstops : Stops misnamed (desk.read? "t.sql")
      (.conversion (.invalidConfiguration (.package "1"))) :=
    .settings read?_desk (by decide +kernel)
  have hgoes : ∀ f, ¬ Stops showTables (desk.read? "t.sql") f := by
    intro f hf
    obtain ⟨content, hcontent⟩ := exists_generated_desk .go
    have haction : (Plan.of showTables (.ofBytes (desk.read? "t.sql"))).action = .ok _ :=
      action_of_generated read?_desk hcontent
    rw [stops_iff.1 hf] at haction
    cases haction
  obtain ⟨text, content, -, -, hdelivers⟩ := (run_allOrNothing showTables desk).2.1 hgoes
  have hemits : Emits showTables desk content := .inl (hdelivers.dry rfl)
  exact ⟨⟨hstops, (run_allOrNothing misnamed desk).1 _ hstops⟩, hgoes, content, hemits,
    (run_allOrNothing showTables desk).2.2 writeTables desk content rfl rfl rfl hemits⟩

end TableStruct
