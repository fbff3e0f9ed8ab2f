import TableStruct.Text.CaseRun
import Mathlib.Data.List.Basic

/-!
# Where the runs of a case mapping lead

That a run takes no code point into another run (`misses`), or anywhere near
a range (`avoids`), is seen from the ends of the runs. So a table of runs is
checked run against run and not character by character. A table of which no
run leads into another is settled in one pass: what it leads to maps to
itself (`apply_image`).
-/

namespace TableStruct

namespace Text

namespace CaseRun

/-- Where the run takes a code point that it holds. -/
def image (run : CaseRun) (n : Nat) : Nat :=
  run.target + (n - run.first)

/-- The last code point that the run takes one to. -/
def imageLast (run : CaseRun) : Nat :=
  run.target + (run.last - run.first)

/-- The run takes no code point into the other one, because it stays on one
side of it or, where both go in steps of two, between its steps. -/
def misses (run other : CaseRun) : Bool :=
  Nat.blt run.imageLast other.first || Nat.blt other.last run.target ||
    (other.step == 2 && (run.step == 2 || run.first == run.last) &&
      run.target % 2 != other.first % 2)

/-- Neither the run nor what it is taken to comes near a range. -/
def avoids (run : CaseRun) (range : Nat × Nat) : Bool :=
  (run.last < range.1 || range.2 < run.first) && (run.imageLast < range.1 || range.2 < run.target)

variable {runs : List CaseRun} {run other : CaseRun} {n : Nat}

theorem image_le (h : run.holds n) : run.target ≤ run.image n ∧ run.image n ≤ run.imageLast := by
  simp only [holds, Bool.and_eq_true, decide_eq_true_eq] at h
  unfold image imageLast
  omega

theorem holds_image_of_misses (hm : run.misses other) (h : run.holds n) :
    other.holds (run.image n) = false := by
  obtain ⟨hlo, hhi⟩ := image_le h
  simp only [holds, Bool.and_eq_true, decide_eq_true_eq, beq_iff_eq] at h
  simp only [misses, Bool.or_eq_true, Bool.and_eq_true, Nat.blt_eq, beq_iff_eq, bne_iff_ne] at hm
  rw [← Bool.not_eq_true]
  simp only [holds, Bool.and_eq_true, decide_eq_true_eq, beq_iff_eq]
  rintro ⟨⟨hfirst, hlast⟩, hstep⟩
  rcases hm with (hm | hm) | ⟨⟨htwo, hone⟩, hparity⟩
  · omega
  · omega
  · -- the image is as far from the target as `n` from the first code point, which is an even way
    have heven : (n - run.first) % 2 = 0 := by
      rcases hone with hone | hone
      · rw [hone] at h
        exact h.2
      · omega
    rw [htwo] at hstep
    unfold image at hfirst hstep
    omega

theorem outside_of_avoids {range : Nat × Nat} (ha : run.avoids range) (h : run.holds n) :
    ¬ (range.1 ≤ n ∧ n ≤ range.2) ∧ ¬ (range.1 ≤ run.image n ∧ run.image n ≤ range.2) := by
  obtain ⟨hlo, hhi⟩ := image_le h
  simp only [holds, Bool.and_eq_true, decide_eq_true_eq] at h
  simp only [avoids, Bool.and_eq_true, Bool.or_eq_true, decide_eq_true_eq] at ha
  constructor
  · rintro ⟨h1, h2⟩
    omega
  · rintro ⟨h1, h2⟩
    omega

theorem apply_cases (runs : List CaseRun) (c : Char) :
    apply runs c = c ∨
      ∃ run ∈ runs, run.holds c.toNat ∧ apply runs c = Char.ofNat (run.image c.toNat) := by
  unfold apply
  cases h : runs.find? fun run => run.holds c.toNat with
  | none => exact .inl rfl
  | some run => exact .inr ⟨run, List.mem_of_find?_eq_some h, by simpa using List.find?_some h, rfl⟩

/-- The run that holds one code point and no other. -/
def lone (n : Nat) : CaseRun :=
  ⟨n, n, 1, n⟩

theorem holds_lone (n : Nat) : (lone n).holds n := by
  simp [lone, holds]

/-- The code points that are no characters. -/
def surrogates : Nat × Nat :=
  (0xD800, 0xDFFF)

/-- What a run that keeps to the characters leads to is a character with that
code point. -/
theorem toNat_ofNat_image (hlast : run.imageLast < 0x110000) (ha : run.avoids surrogates)
    (h : run.holds n) : (Char.ofNat (run.image n)).toNat = run.image n := by
  have hsurrogate := (outside_of_avoids ha h).2
  have himage := (image_le h).2
  have hvalid : (run.image n).isValidChar := by
    simp only [surrogates] at hsurrogate
    unfold Nat.isValidChar
    omega
  rw [Char.ofNat, dif_pos hvalid]
  rfl

/-- **What no run leads into is settled.** -/
theorem apply_image (hm : ∀ other ∈ runs, run.misses other)
    (hcode : (Char.ofNat (run.image n)).toNat = run.image n) (h : run.holds n) :
    apply runs (Char.ofNat (run.image n)) = Char.ofNat (run.image n) := by
  refine apply_of_none fun other hother => ?_
  rw [hcode]
  exact holds_image_of_misses (hm other hother) h

end CaseRun

end Text

end TableStruct
