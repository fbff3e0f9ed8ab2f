import TableStruct.Proofs.Json.RoundTrip
import TableStruct.Proofs.Run.Outcome

/-!
# Schemas are read back from JSON

A schema is written as a value without numbers, every member of which is
looked for by its own name when it is read. A comment is a member of its own
that may be missing, so that no comment and an empty one are written apart.
With the round trip of values this gives that of one schema
(`parse?_render`) and of a list (`parseList?_renderList`); `read_back` adds
what a dry run prints, which has a line feed behind it.
-/

namespace TableStruct

open Json

namespace Column

theorem textual_toJson (c : Column) : Textual c.toJson := by
  obtain ⟨name, rawType, comment⟩ := c
  cases comment with
  | none => exact .object (by simp) (by simp [Json.text, Textual.string])
  | some text => exact .object (by simp) (by simp [Json.text, Textual.string])

/-- **A column is read back**, with its comment or without one. -/
theorem ofJson?_toJson (c : Column) : ofJson? c.toJson = some c := by
  obtain ⟨name, rawType, comment⟩ := c
  cases comment with
  | none => rfl
  | some text => rfl

end Column

namespace Schema

theorem textual_toJson (s : Schema) : Textual s.toJson := by
  have hfields : Textual (.array (s.fields.map Column.toJson)) :=
    .array fun j hj => by
      obtain ⟨c, -, rfl⟩ := List.mem_map.1 hj
      exact c.textual_toJson
  exact .object (by simp) (by simp [Json.text, Textual.string, hfields])

/-- What is read back one by one is read back as a list. -/
theorem mapM_map {α : Type} {write : α → Json} {read : Json → Option α}
    (h : ∀ a, read (write a) = some a) (as : List α) : (as.map write).mapM read = some as := by
  induction as with
  | nil => rfl
  | cons a as ih => rw [List.map_cons, List.mapM_cons, h, ih]; rfl

/-- **A schema is read back**, its columns in order. -/
theorem ofJson?_toJson (s : Schema) : ofJson? s.toJson = some s := by
  have hvalues : ofJson? s.toJson =
      ofValues? (.text s.tableName) (.array (s.fields.map Column.toJson)) := rfl
  have hfields : (s.fields.map Column.toJson).mapM Column.ofJson? = some s.fields :=
    mapM_map Column.ofJson?_toJson s.fields
  rw [hvalues, ofValues?]
  simp only [hfields]
  rfl

theorem listOfJson?_toJson (schemas : List Schema) :
    listOfJson? (.array (schemas.map toJson)) = some schemas :=
  mapM_map ofJson?_toJson schemas

/-! ## Texts -/

theorem parse?_render (style : Style) (s : Schema) : parse? (s.render style) = some s := by
  have hvalue : Json.parse? (s.render style) = some s.toJson := by
    have hwrite : Json.parse? (String.ofList (write style 0 s.toJson ++ [])) = some s.toJson :=
      parse?_write s.textual_toJson isGap_nil
    rwa [List.append_nil] at hwrite
  rw [parse?, hvalue, Option.bind_some, ofJson?_toJson]

/-- Schemas are read back, with white space behind them or without. -/
theorem parseList?_renderList (style : Style) (schemas : List Schema) {gap : String}
    (hgap : IsGap gap.toList) : parseList? (renderList style schemas ++ gap) = some schemas := by
  have htextual : Textual (.array (schemas.map toJson)) :=
    .array fun j hj => by
      obtain ⟨s, -, rfl⟩ := List.mem_map.1 hj
      exact s.textual_toJson
  have htext : renderList style schemas ++ gap =
      String.ofList (write style 0 (.array (schemas.map toJson)) ++ gap.toList) := by
    rw [String.ofList_append, String.ofList_toList]
    rfl
  rw [parseList?, htext, parse?_write htextual hgap, Option.bind_some, listOfJson?_toJson]

/-! ## What a run prints -/

/-- The text of a run that shows JSON is that of schemas, and a line
feed. -/
theorem exists_schemas_of_generated {s : Settings} {text content : String}
    (h : generated s .json text = .ok content) :
    ∃ (c : Converter) (schemas : List Schema), c.settings = s ∧
      c.schemas (Statement.ofSource text) = .ok schemas ∧
      content = renderList .pretty schemas ++ "\n" := by
  obtain ⟨c, hc, hcontent⟩ := exists_converter_of_generated h
  rw [Plan.content] at hcontent
  cases hschemas : c.schemas (Statement.ofSource text) with
  | error p => rw [hschemas] at hcontent; cases hcontent
  | ok schemas =>
    rw [hschemas] at hcontent
    cases hcontent
    exact ⟨c, schemas, hc, hschemas, rfl⟩

/-- **Schemas are read back from JSON**, one or a list, in either style: an
equal schema for each, whatever its texts hold, with no comment where there
was none and an empty one where it was empty. So what a dry run prints as
JSON is read as the schemas of the statements of its source. -/
theorem read_back :
    (∀ style s, parse? (s.render style) = some s) ∧
    (∀ style schemas, parseList? (renderList style schemas) = some schemas) ∧
    ∀ o fs, o.format = .json → o.dryRun = true → ∀ outcome, (run o fs).1.outcome = .ok outcome →
      ∃ (text : String) (c : Converter) (schemas : List Schema),
        fs.read? o.path = some text.toUTF8 ∧ c.settings = o.settings ∧
        c.schemas (Statement.ofSource text) = .ok schemas ∧
        outcome = .printed (run o fs).1.printed ∧
        parseList? (run o fs).1.printed = some schemas := by
  refine ⟨parse?_render, fun style schemas => ?_, ?_⟩
  · have hread : parseList? (renderList style schemas ++ "") = some schemas :=
      parseList?_renderList style schemas (by simp [IsGap])
    rwa [String.append_empty] at hread
  · intro o fs hformat hdry outcome houtcome
    obtain ⟨text, content, hsource, hgenerated, hdelivers⟩ := exists_delivers_of_ok houtcome
    rw [hformat] at hgenerated
    obtain ⟨c, schemas, hc, hschemas, rfl⟩ := exists_schemas_of_generated hgenerated
    have hprints := hdelivers.dry hdry
    refine ⟨text, c, schemas, hsource, hc, hschemas, ?_, ?_⟩
    · rw [hprints.printed]
      exact Except.ok.inj (houtcome.symm.trans hprints.outcome)
    · rw [hprints.printed]
      exact parseList?_renderList .pretty schemas (by simp [IsGap, isSpace])

/-- The options of a dry run that shows the schemas of `t.sql`. -/
def showSchemas : Options :=
  { showTables with format := .json }

theorem read_back_desk : showSchemas.format = .json ∧ showSchemas.dryRun = true ∧
    ∃ outcome, (run showSchemas desk).1.outcome = .ok outcome ∧
      ∃ schemas, parseList? (run showSchemas desk).1.printed = some schemas := by
  obtain ⟨content, hcontent⟩ := exists_generated_desk .json
  have hdelivers : Delivers showSchemas desk content :=
    delivers_of_action (action_of_generated read?_desk hcontent)
  have houtcome := (hdelivers.dry rfl).outcome
  obtain ⟨-, -, schemas, -, -, -, -, hread⟩ :=
    read_back.2.2 showSchemas desk rfl rfl _ houtcome
  exact ⟨rfl, rfl, _, houtcome, schemas, hread⟩

end Schema

end TableStruct
