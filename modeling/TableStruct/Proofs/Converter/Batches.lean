import TableStruct.Proofs.Converter.Sources
import TableStruct.Proofs.GoStruct.Layout

/-!
# A batch of statements

A converter gives four things for a batch of statements: the schemas, the
structs, their definitions and a whole file. Each is made of the one before,
so a batch either fails as a whole, with what its first failing statement
says (`FirstFailure`), or all four are made of the schemas that the
statements have one by one. `outputs_agree` says so, and that there is no
third case; what a file holds is said in terms of the definitions and of the
column types, without a look at the structs.
-/

namespace TableStruct

/-- A traversal that may fail does so with the first failure, or gives every
result, in order. -/
theorem mapM_cases {α β ε : Type} (f : α → Except ε β) (xs : List α) :
    (∃ before x after e, xs = before ++ x :: after ∧ (∀ y ∈ before, ∃ b, f y = .ok b) ∧
      f x = .error e ∧ xs.mapM f = .error e) ∨
    ∃ ys, List.Forall₂ (fun x y => f x = .ok y) xs ys ∧ xs.mapM f = .ok ys := by
  induction xs with
  | nil => exact .inr ⟨[], .nil, rfl⟩
  | cons x xs ih =>
    rw [List.mapM_cons]
    cases hx : f x with
    | error e => exact .inl ⟨[], x, xs, e, rfl, by simp, hx, rfl⟩
    | ok y =>
      rcases ih with ⟨before, z, after, e, rfl, hbefore, hz, hfail⟩ | ⟨ys, hys, hok⟩
      · refine .inl ⟨x :: before, z, after, e, rfl, ?_, hz, by rw [hfail]; rfl⟩
        intro w hw
        rcases List.mem_cons.1 hw with rfl | hw
        · exact ⟨y, hx⟩
        · exact hbefore w hw
      · exact .inr ⟨y :: ys, .cons hx hys, by rw [hok]; rfl⟩

namespace Converter

/-- The first statement that fails, each before it having a schema, fails
with `p`. -/
def FirstFailure (c : Converter) (statements : List String) (p : Problem) : Prop :=
  ∃ before t after, statements = before ++ t :: after ∧
    (∀ u ∈ before, ∃ s, c.schema u = .ok s) ∧ c.schema t = .error p

/-- The schema of each statement, in order. -/
def SchemaEach (c : Converter) (statements : List String) (schemas : List Schema) : Prop :=
  List.Forall₂ (fun t s => c.schema t = .ok s) statements schemas

/-- Everything asked of a batch fails with `p`. -/
structure Fails (c : Converter) (statements : List String) (p : Problem) : Prop where
  schemas : c.schemas statements = .error p
  goStructs : c.goStructs statements = .error p
  definitions : c.definitions statements = .error p
  file : c.file statements = .error p

/-- The definition that a schema is given. -/
def definition (c : Converter) (s : Schema) : String :=
  (c.goStruct s).source

/-- Some column of the schemas is a date or a time. -/
def datesIn (c : Converter) (schemas : List Schema) : Bool :=
  schemas.any fun s => s.fields.any fun column => c.settings.types.resolve column.rawType == .time

/-- Everything asked of a batch is made of the same schemas: the structs and
their definitions one by one, and of the definitions the file. -/
structure Gives (c : Converter) (statements : List String) (found : List Schema) : Prop where
  schemas : c.schemas statements = .ok found
  goStructs : c.goStructs statements = .ok (found.map c.goStruct)
  definitions : c.definitions statements = .ok (found.map c.definition)
  file : c.file statements =
    .ok (GoFile.text c.settings.package (c.datesIn found) (found.map c.definition))

variable {c : Converter} {statements : List String}

/-- A failure of the schemas is one of everything made of them. -/
theorem fails_of_schemas {p : Problem} (h : c.schemas statements = .error p) :
    c.Fails statements p := by
  have hstructs : c.goStructs statements = .error p := by rw [goStructs, h]; rfl
  refine ⟨h, hstructs, ?_, ?_⟩
  · rw [definitions, hstructs]
    rfl
  · rw [file, hstructs]
    rfl

/-- The structs need the import of dates and times where a column is one. -/
theorem usesTime_goStructs (c : Converter) (schemas : List Schema) :
    Layout.usesTime (schemas.map c.goStruct) = c.datesIn schemas := by
  simp only [Layout.usesTime, datesIn, List.any_map, Function.comp_def, goStruct, GoStruct.ofSchema,
    GoField.ofColumn]

theorem gives_of_schemas {schemas : List Schema} (h : c.schemas statements = .ok schemas) :
    c.Gives statements schemas := by
  have hstructs : c.goStructs statements = .ok (schemas.map c.goStruct) := by
    rw [goStructs, h]
    rfl
  have hsources : (schemas.map c.goStruct).map GoStruct.source = schemas.map c.definition := by
    rw [List.map_map]
    rfl
  refine ⟨h, hstructs, ?_, ?_⟩
  · rw [definitions, hstructs, ← hsources]
    rfl
  · have hfile := GoFile.source_eq ⟨c.settings.package, schemas.map c.goStruct⟩
    rw [usesTime_goStructs, hsources] at hfile
    rw [file, hstructs, ← hfile]
    rfl

/-- **All that is made of a batch agrees.** Without statements everything
fails for want of one. Where a statement fails, everything fails as the
first such statement does. Otherwise everything is made of the schemas of
the statements, in order, and the file is the package line, the import of
dates and times exactly if a column is one, and each definition, with a
blank line before each part. -/
theorem outputs_agree (c : Converter) (statements : List String) :
    (statements = [] ∧ c.Fails statements .noStatements) ∨
    (∃ p, c.FirstFailure statements p ∧ c.Fails statements p) ∨
    (statements ≠ [] ∧ ∃ schemas, c.SchemaEach statements schemas ∧ c.Gives statements schemas) := by
  by_cases hnil : statements = []
  · subst hnil
    exact .inl ⟨rfl, fails_of_schemas rfl⟩
  · have hschemas : c.schemas statements = statements.mapM c.schema := schemas_of_ne_nil hnil
    rcases mapM_cases c.schema statements with
      ⟨before, t, after, p, hsplit, hbefore, ht, hfail⟩ | ⟨schemas, heach, hok⟩
    · exact .inr (.inl ⟨p, ⟨before, t, after, hsplit, hbefore, ht⟩,
        fails_of_schemas (hschemas.trans hfail)⟩)
    · exact .inr (.inr ⟨hnil, schemas, heach, gives_of_schemas (hschemas.trans hok)⟩)

end Converter

end TableStruct
