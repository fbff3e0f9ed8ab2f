/-!
# Runs of a case mapping

Characters that change case by the same offset come in runs, of
neighbours or of every second code point. A mapping is a list of runs; a
character in none of them maps to itself.
-/

namespace TableStruct

namespace Text

/-- A run of code points, `step` apart, that map to the run of the same
length and step beginning at `target`. -/
structure CaseRun where
  /-- First code point of the run. -/
  first : Nat
  /-- Last code point of the run. -/
  last : Nat
  /-- Distance from one code point of the run to the next. -/
  step : Nat
  /-- The code point that `first` maps to. -/
  target : Nat
  deriving DecidableEq, Repr

namespace CaseRun

/-- The code point lies in the run. -/
def holds (run : CaseRun) (n : Nat) : Bool :=
  run.first ≤ n && n ≤ run.last && (n - run.first) % run.step == 0

/-- Where the runs take a character: the first run that holds it decides,
and a character in none of them stays. -/
def apply (runs : List CaseRun) (c : Char) : Char :=
  match runs.find? fun run => run.holds c.toNat with
  | some run => Char.ofNat (run.target + (c.toNat - run.first))
  | none => c

/-- A character that no run holds maps to itself. -/
theorem apply_of_none {runs : List CaseRun} {c : Char}
    (h : ∀ run ∈ runs, run.holds c.toNat = false) : apply runs c = c := by
  have : (runs.find? fun run => run.holds c.toNat) = none := by
    simpa [List.find?_eq_none] using h
  simp [apply, this]

end CaseRun

end Text

end TableStruct
