import TableStruct.Converter
import TableStruct.Proofs.Statement.Letters

/-!
# Converting source texts

What a converter makes of a source text it makes of the statements, one
after the other and until the first failure. Two laws of the whole way from
the source text follow. A source text in two parts with a semicolon between
them is converted part by part (`converted_semicolon`): no part sees the
other, and a part without statements is as good as none. And where the case
of statements is not kept, source texts that are equal up to the case of
ASCII letters are converted to the same (`converted_of_sameLetters`).
-/

namespace TableStruct

open Statement Text

/-- What becomes of two batches of statements one after the other, `run`
being what becomes of one: that of one alone if the other is empty, and
otherwise the first failure or the results of both. -/
def inTurn {α : Type} (run : List String → Except Problem (List α)) (first second : List String) :
    Except Problem (List α) :=
  if first = [] then run second
  else if second = [] then run first
  else
    match run first, run second with
    | .error p, _ => .error p
    | .ok _, .error p => .error p
    | .ok xs, .ok ys => .ok (xs ++ ys)

namespace Converter

variable {c : Converter}

theorem schemas_nil (c : Converter) : c.schemas [] = .error .noStatements := rfl

theorem schemas_of_ne_nil {statements : List String} (h : statements ≠ []) :
    c.schemas statements = statements.mapM c.schema := by
  rw [schemas, if_neg h]

/-- The definitions are what is made of each schema. -/
theorem definitions_eq (c : Converter) (statements : List String) :
    c.definitions statements =
      (c.schemas statements).map fun schemas => schemas.map fun s => (c.goStruct s).source := by
  unfold definitions goStructs
  cases c.schemas statements with
  | error p => rfl
  | ok schemas => simp [Except.map]

/-! ## Batches -/

/-- **Statements in two batches are read batch by batch.** -/
theorem schemas_append (c : Converter) (first second : List String) :
    c.schemas (first ++ second) = inTurn c.schemas first second := by
  unfold inTurn
  by_cases hfirst : first = []
  · rw [if_pos hfirst, hfirst, List.nil_append]
  · by_cases hsecond : second = []
    · rw [if_neg hfirst, if_pos hsecond, hsecond, List.append_nil]
    · have hall : first ++ second ≠ [] := by simp [hfirst]
      rw [if_neg hfirst, if_neg hsecond, schemas_of_ne_nil hall, schemas_of_ne_nil hfirst,
        schemas_of_ne_nil hsecond, List.mapM_append]
      cases first.mapM c.schema with
      | error p => rfl
      | ok xs => cases second.mapM c.schema <;> rfl

/-- What is made of each schema does not part or join batches. -/
theorem inTurn_map {α β : Type} (run : List String → Except Problem (List α)) (f : α → β)
    (first second : List String) :
    (inTurn run first second).map (List.map f) =
      inTurn (fun statements => (run statements).map (List.map f)) first second := by
  unfold inTurn
  split
  · rfl
  · split
    · rfl
    · dsimp only
      cases run first with
      | error p => rfl
      | ok xs =>
        cases run second with
        | error p => rfl
        | ok ys => simp [Except.map]

theorem definitions_append (c : Converter) (first second : List String) :
    c.definitions (first ++ second) = inTurn c.definitions first second := by
  have hrun : c.definitions = fun statements =>
      (c.schemas statements).map (List.map fun s => (c.goStruct s).source) :=
    funext c.definitions_eq
  rw [hrun, ← inTurn_map, ← schemas_append]

/-- **A source text in two parts is converted part by part.** The
statements around a semicolon are those before it and those behind it, and
schemas and definitions are those of both in turn; without any statement
there are none. -/
theorem converted_semicolon (c : Converter) (a b : String) :
    ofSource (a ++ ";" ++ b) = ofSource a ++ ofSource b ∧
    c.schemas (ofSource (a ++ ";" ++ b)) = inTurn c.schemas (ofSource a) (ofSource b) ∧
    c.definitions (ofSource (a ++ ";" ++ b)) = inTurn c.definitions (ofSource a) (ofSource b) ∧
    c.schemas [] = .error .noStatements ∧ c.definitions [] = .error .noStatements := by
  have hsource : ofSource (a ++ ";" ++ b) = ofSource a ++ ofSource b := by
    have hchars : (a ++ ";" ++ b).toList = a.toList ++ ';' :: b.toList := by
      simp [String.toList_append]
    rw [ofSource_eq, ofSource_eq, ofSource_eq, hchars, statements_append, List.map_append]
  refine ⟨hsource, ?_, ?_, c.schemas_nil, rfl⟩
  · rw [hsource, schemas_append]
  · rw [hsource, definitions_append]

/-! ## The case of letters -/

/-- Without its case a statement is read as any other of the same
letters. -/
theorem schema_eq_of_sameLetters (hc : c.settings.preserveCase = false) {x y : String}
    (h : sameLetters x.toList y.toList) : c.schema x = c.schema y := by
  have hprepare : c.prepare x = c.prepare y := by
    rw [prepare, prepare, hc, lowerCase, lowerCase, lower_eq_of_sameLetters h,
      if_neg Bool.false_ne_true, if_neg Bool.false_ne_true]
  rw [schema, schema, read, read, hprepare]

theorem schemas_congr {xs ys : List String}
    (h : List.Forall₂ (fun x y => c.schema x = c.schema y) xs ys) :
    c.schemas xs = c.schemas ys := by
  have hmapM : xs.mapM c.schema = ys.mapM c.schema := by
    induction h with
    | nil => rfl
    | cons hhead _ ih => rw [List.mapM_cons, List.mapM_cons, hhead, ih]
  cases h with
  | nil => rfl
  | cons => exact hmapM

/-- **The case of ASCII letters does not matter**, where it is not kept.
Source texts that are equal up to it have as many statements, equal up to it
one by one, and schemas, definitions and files that are the same, failures
with their places included. -/
theorem converted_of_sameLetters (hc : c.settings.preserveCase = false) {a b : String}
    (h : sameLetters a.toList b.toList) :
    List.Forall₂ (fun x y : String => sameLetters x.toList y.toList) (ofSource a) (ofSource b) ∧
    c.schemas (ofSource a) = c.schemas (ofSource b) ∧
    c.definitions (ofSource a) = c.definitions (ofSource b) ∧
    c.file (ofSource a) = c.file (ofSource b) := by
  have hstatements := forall₂_ofSource h
  have hschemas : c.schemas (ofSource a) = c.schemas (ofSource b) :=
    schemas_congr (hstatements.imp fun _ _ hxy => schema_eq_of_sameLetters hc hxy)
  refine ⟨hstatements, hschemas, ?_, ?_⟩
  · rw [definitions_eq, definitions_eq, hschemas]
  · unfold file goStructs
    rw [hschemas]

/-- The converter with the settings that are there to begin with. -/
def plain : Converter :=
  ⟨{}, by decide +kernel⟩

theorem converted_of_sameLetters_plain : plain.settings.preserveCase = false ∧
    sameLetters "CREATE TABLE `ΟΔΟΣ` (`Id` INT);".toList "Create Table `ΟΔΟΣ` (`iD` Int);".toList ∧
    plain.file (ofSource "CREATE TABLE `ΟΔΟΣ` (`Id` INT);") =
      plain.file (ofSource "Create Table `ΟΔΟΣ` (`iD` Int);") := by
  have hletters : sameLetters "CREATE TABLE `ΟΔΟΣ` (`Id` INT);".toList
      "Create Table `ΟΔΟΣ` (`iD` Int);".toList := by decide
  exact ⟨rfl, hletters, (converted_of_sameLetters rfl hletters).2.2.2⟩

end Converter

end TableStruct
