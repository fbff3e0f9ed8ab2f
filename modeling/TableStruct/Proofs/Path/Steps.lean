import TableStruct.Output
import TableStruct.Proofs.Text.Splitting
import Mathlib.Data.List.DropRight

/-!
# Steps of paths and the place of output

A path is an anchor and segments between slashes (`anchor_append_segments`),
and its steps are those of the anchor and of the segments that are not idle
(`steps_eq`). What stands behind a slash adds its own segments and leaves
those before it as they are (`stepsOf_append`). From this it follows what a
file adds to the steps of its directory, whatever slashes and points the
directory ends in (`steps_join`), and what the parent of a path takes off
them (`steps_parent?`): the last step, which of a path that is the root alone
is the root.
-/

namespace TableStruct

namespace Path

variable {cs rest : List Char} {f : String}

/-! ## Anchor and segments -/

/-- The step of an anchor. -/
def anchorSteps : List Char → List Step
  | ['/'] => [.root]
  | ['.'] => [.here]
  | _ => []

/-- The steps of some segments. -/
def segmentSteps (segments : List (List Char)) : List Step :=
  (segments.filter fun s => !isIdle s).map fun s =>
    if s = ['.', '.'] then .up else .name (String.ofList s)

/-- The steps of a path, given by its characters. -/
def stepsOf (cs : List Char) : List Step :=
  anchorSteps (anchor cs) ++ segmentSteps (segments cs)

theorem steps_eq (path : String) : steps path = stepsOf path.toList := rfl

@[simp] theorem segmentSteps_append (xs ys : List (List Char)) :
    segmentSteps (xs ++ ys) = segmentSteps xs ++ segmentSteps ys := by
  simp [segmentSteps]

theorem segmentSteps_of_idle {segments : List (List Char)} (h : ∀ s ∈ segments, isIdle s) :
    segmentSteps segments = [] := by
  rw [segmentSteps, List.map_eq_nil_iff, List.filter_eq_nil_iff]
  simpa using h

/-- **The anchors there are.** -/
theorem anchor_cases (cs : List Char) :
    (anchor cs = ['/'] ∧ ∃ rest, cs = '/' :: rest) ∨
    (anchor cs = ['.'] ∧ (cs = ['.'] ∨ ∃ rest, cs = '.' :: '/' :: rest)) ∨ anchor cs = [] := by
  fun_cases anchor cs
  · exact .inl ⟨rfl, _, rfl⟩
  · exact .inr (.inl ⟨rfl, .inl rfl⟩)
  · exact .inr (.inl ⟨rfl, .inr ⟨_, rfl⟩⟩)
  · exact .inr (.inr rfl)

theorem anchor_isPrefix (cs : List Char) : anchor cs <+: cs := by
  rcases anchor_cases cs with ⟨h, rest, rfl⟩ | ⟨h, rfl | ⟨rest, rfl⟩⟩ | h
  · exact ⟨rest, by rw [h]; rfl⟩
  · exact ⟨[], by rw [h]; rfl⟩
  · exact ⟨'/' :: rest, by rw [h]; rfl⟩
  · exact ⟨cs, by rw [h]; rfl⟩

@[simp] theorem anchor_anchor (cs : List Char) : anchor (anchor cs) = anchor cs := by
  rcases anchor_cases cs with ⟨h, -⟩ | ⟨h, -⟩ | h
  · rw [h]; rfl
  · rw [h]; rfl
  · rw [h]; rfl

/-- **A path is its anchor and its segments.** -/
theorem anchor_append_segments (cs : List Char) :
    anchor cs ++ ['/'].intercalate (segments cs) = cs := by
  rw [segments, List.intercalate_splitOn]
  exact List.prefix_iff_eq_append.1 (anchor_isPrefix cs)

/-- What stands behind a slash does not change the anchor before it. -/
theorem anchor_append (h : cs ≠ []) (rest : List Char) :
    anchor (cs ++ '/' :: rest) = anchor cs := by
  -- the first two characters decide, and the slash may be the second
  obtain ⟨c, cs, rfl⟩ := List.exists_cons_of_ne_nil h
  by_cases hslash : c = '/'
  · subst hslash
    rfl
  · by_cases hpoint : c = '.'
    · subst hpoint
      cases cs with
      | nil => rfl
      | cons d cs =>
        by_cases hd : d = '/'
        · subst hd
          rfl
        · simp [anchor, hd]
    · simp [anchor, hslash, hpoint]

/-- **What stands behind a slash adds its own segments.** -/
theorem segments_append (h : cs ≠ []) (rest : List Char) :
    segments (cs ++ '/' :: rest) = segments cs ++ rest.splitOn '/' := by
  have hlen := (anchor_isPrefix cs).length_le
  rw [segments, anchor_append h, List.drop_append_of_le_length hlen,
    List.splitOn_append_cons_self, segments]

theorem stepsOf_append (h : cs ≠ []) (rest : List Char) :
    stepsOf (cs ++ '/' :: rest) = stepsOf cs ++ segmentSteps (rest.splitOn '/') := by
  rw [stepsOf, anchor_append h, segments_append h, segmentSteps_append, ← List.append_assoc,
    stepsOf]

/-! ## A file in a directory -/

/-- The name of a file, and not a path to it: a single step that goes down. -/
structure IsPlain (f : String) : Prop where
  filled : f ≠ ""
  flat : '/' ∉ f.toList
  ne_here : f ≠ "."
  ne_up : f ≠ ".."

namespace IsPlain

theorem toList_ne (h : IsPlain f) : f.toList ≠ [] ∧ f.toList ≠ ['.'] ∧ f.toList ≠ ['.', '.'] := by
  have hne : ∀ text : String, f ≠ text → f.toList ≠ text.toList := fun _ =>
    mt String.toList_inj.1
  exact ⟨hne "" h.filled, hne "." h.ne_here, hne ".." h.ne_up⟩

theorem isAbsolute (h : IsPlain f) : isAbsolute f = false := by
  rw [Path.isAbsolute, beq_eq_false_iff_ne]
  exact fun hhead => h.flat (List.mem_of_head? hhead)

theorem anchor (h : IsPlain f) : anchor f.toList = [] := by
  rcases anchor_cases f.toList with ⟨-, rest, heq⟩ | ⟨-, heq | ⟨rest, heq⟩⟩ | hnone
  · exact absurd h.flat (by simp [heq])
  · exact absurd heq h.toList_ne.2.1
  · exact absurd h.flat (by simp [heq])
  · exact hnone

theorem segmentSteps (h : IsPlain f) : segmentSteps (f.toList.splitOn '/') = [.name f] := by
  obtain ⟨hfilled, hhere, hup⟩ := h.toList_ne
  rw [List.splitOn_eq_singleton h.flat]
  simp [Path.segmentSteps, isIdle, hfilled, hhere, hup]

theorem stepsOf (h : IsPlain f) : stepsOf f.toList = [.name f] := by
  rw [Path.stepsOf, segments, h.anchor, List.length_nil, List.drop_zero, h.segmentSteps]
  rfl

end IsPlain

/-- **A file is one step below its directory**, whatever slashes and points the
directory ends in. -/
theorem steps_join (hf : IsPlain f) (directory : String) :
    steps (join directory f) = steps directory ++ [.name f] := by
  rw [join, hf.isAbsolute, Bool.false_or]
  by_cases hempty : directory = ""
  · rw [if_pos (by simpa using hempty), steps_eq, hf.stepsOf, hempty]
    rfl
  · have hne : directory.toList ≠ [] := mt String.toList_eq_nil_iff.1 hempty
    rw [if_neg (by simpa using hempty)]
    by_cases hslash : directory.toList.getLast? = some '/'
    · rw [if_pos hslash, steps_eq, steps_eq, String.toList_append]
      obtain ⟨front, hfront⟩ := List.getLast?_eq_some_iff.1 hslash
      rw [hfront, List.append_assoc, List.singleton_append]
      by_cases hroot : front = []
      · subst hroot
        show anchorSteps ['/'] ++ segmentSteps (f.toList.splitOn '/') = _
        rw [hf.segmentSteps]
        rfl
      · rw [stepsOf_append hroot, stepsOf_append hroot, hf.segmentSteps, List.append_assoc]
        rfl
    · rw [if_neg hslash, steps_eq, String.toList_append, String.toList_append,
        List.append_assoc]
      show stepsOf (directory.toList ++ '/' :: f.toList) = _
      rw [stepsOf_append hne, hf.segmentSteps, steps_eq]

/-! ## The parent of a path -/

theorem anchorSteps_dropLast (cs : List Char) : (anchorSteps (anchor cs)).dropLast = [] := by
  rcases anchor_cases cs with ⟨h, -⟩ | ⟨h, -⟩ | h
  · rw [h]; rfl
  · rw [h]; rfl
  · rw [h]; rfl

/-- Idle segments at the end add no steps. -/
theorem segmentSteps_rdropWhile (segments : List (List Char)) :
    segmentSteps (segments.rdropWhile isIdle) = segmentSteps segments := by
  induction segments using List.reverseRecOn with
  | nil => rfl
  | append_singleton front s ih =>
    rw [List.rdropWhile_concat]
    split
    · next hs =>
      have hnone : segmentSteps [s] = [] := segmentSteps_of_idle (by simpa using hs)
      rw [ih, segmentSteps_append, hnone, List.append_nil]
    · rfl

/-- Segments that a path begins with, the last of them not idle, are those of
a path of their own, behind the same anchor. -/
theorem stepsOf_of_front {kept more : List (List Char)} (hsegments : segments cs = kept ++ more)
    (hmore : more ≠ []) (hlast : ∀ s, kept.getLast? = some s → isIdle s = false) :
    stepsOf (anchor cs ++ ['/'].intercalate kept) =
      anchorSteps (anchor cs) ++ segmentSteps kept := by
  by_cases hkept : kept = []
  · subst hkept
    rw [List.intercalate_nil, List.append_nil, stepsOf, segments, anchor_anchor, List.drop_length]
    rfl
  · have hflat : ∀ s ∈ kept, '/' ∉ s := fun s hs => by
      have hmem : s ∈ segments cs := hsegments ▸ List.mem_append_left more hs
      exact Text.not_mem_of_mem_splitOn hmem
    have hsplit := List.splitOn_intercalate '/' hflat hkept
    -- an empty text is one idle segment, which would be the last of them
    have hne : anchor cs ++ ['/'].intercalate kept ≠ [] := fun hnil => by
      rw [(List.append_eq_nil_iff.1 hnil).2, List.splitOn_nil] at hsplit
      exact absurd (hlast [] (by rw [← hsplit]; rfl)) (by decide)
    -- a slash follows the kept text in the path, so they have one anchor
    have hcs := anchor_append_segments cs
    rw [hsegments, Text.intercalate_append hkept hmore, ← List.append_assoc] at hcs
    have hanchor := anchor_append hne (['/'].intercalate more)
    rw [hcs] at hanchor
    rw [stepsOf, ← hanchor, segments, ← hanchor, List.drop_left, hsplit]

theorem parent?_of_idle {path : String} (h : (segments path.toList).rdropWhile isIdle = []) :
    (parent? path).getD "" = "" := by
  have hidle : (segments path.toList).reverse.dropWhile isIdle = [] := List.reverse_eq_nil_iff.1 h
  rw [parent?]
  simp only [hidle]
  split
  · rfl
  · rfl

theorem parent?_of_last {path : String} {front : List (List Char)} {last : List Char}
    (h : (segments path.toList).rdropWhile isIdle = front ++ [last]) :
    parent? path = some (String.ofList
      (anchor path.toList ++ ['/'].intercalate (front.rdropWhile isIdle))) := by
  have hlast : (segments path.toList).reverse.dropWhile isIdle = last :: front.reverse := by
    rw [← List.reverse_inj, ← List.rdropWhile, h]
    simp
  rw [parent?]
  simp only [hlast]
  rfl

/-- **The parent of a path has its steps but the last.** A path that is the
root alone, or none at all, leaves none. -/
theorem steps_parent? (path : String) : steps ((parent? path).getD "") = (steps path).dropLast := by
  have hsteps : steps path = anchorSteps (anchor path.toList) ++
      segmentSteps ((segments path.toList).rdropWhile isIdle) := by
    rw [segmentSteps_rdropWhile]
    rfl
  rcases List.eq_nil_or_concat ((segments path.toList).rdropWhile isIdle) with hidle |
    ⟨front, last, hlast⟩
  · rw [parent?_of_idle hidle, hsteps, hidle]
    show [] = (anchorSteps _ ++ []).dropLast
    rw [List.append_nil, anchorSteps_dropLast]
  · rw [List.concat_eq_append] at hlast
    have hbusy : isIdle last = false := by
      have hnot := List.rdropWhile_last_not isIdle (segments path.toList) (by simp [hlast])
      simpa [hlast] using hnot
    obtain ⟨idle, hidle⟩ := List.rdropWhile_prefix isIdle (segments path.toList)
    obtain ⟨gap, hgap⟩ := List.rdropWhile_prefix isIdle front
    have hsegments : segments path.toList =
        front.rdropWhile isIdle ++ (gap ++ [last] ++ idle) := by
      rw [← hidle, hlast]
      nth_rewrite 1 [← hgap]
      simp
    rw [parent?_of_last hlast, Option.getD_some, steps_eq, String.toList_ofList,
      stepsOf_of_front hsegments (by simp) ?_, segmentSteps_rdropWhile, hsteps, hlast,
      segmentSteps_append, ← List.append_assoc]
    · simp [segmentSteps, hbusy]
    · intro s hs
      obtain ⟨hne, rfl⟩ := List.mem_getLast?_eq_getLast hs
      simpa using List.rdropWhile_last_not isIdle front hne

end Path

namespace Output

/-- **Where output goes.** The file is one step below the target directory,
or else takes the place of the last step of the source. -/
theorem steps_resolve {f : String} (hf : Path.IsPlain f) (source : String) (mode : WriteMode) :
    Path.steps (resolve source none f mode).path = (Path.steps source).dropLast ++ [.name f] ∧
    ∀ target, Path.steps (resolve source (some target) f mode).path =
      Path.steps target ++ [.name f] := by
  constructor
  · show Path.steps (Path.join ((Path.parent? source).getD "") f) = _
    rw [Path.steps_join hf, Path.steps_parent?]
  · exact Path.steps_join hf

/-- Points and slashes in the middle and at the end of the source, a source
that is the root alone, and targets that end in slashes or are empty. -/
theorem steps_resolve_generator : Path.IsPlain "generator.go" ∧
    Path.steps (resolve "./db//../x.sql/." none "generator.go" .append).path =
      [.here, .name "db", .up, .name "generator.go"] ∧
    Path.steps (resolve "//" none "generator.go" .overwrite).path = [.name "generator.go"] ∧
    Path.steps (resolve "x.sql" (some "/out//") "generator.go" .append).path =
      [.root, .name "out", .name "generator.go"] ∧
    Path.steps (resolve "/x.sql" (some "") "generator.go" .append).path =
      [.name "generator.go"] := by
  have hplain : Path.IsPlain "generator.go" := ⟨by decide, by decide, by decide, by decide⟩
  refine ⟨hplain, ?_, ?_, ?_, ?_⟩
  · exact (steps_resolve hplain "./db//../x.sql/." .append).1.trans (by decide +kernel)
  · exact (steps_resolve hplain "//" .overwrite).1.trans (by decide +kernel)
  · exact ((steps_resolve hplain "x.sql" .append).2 "/out//").trans (by decide +kernel)
  · exact ((steps_resolve hplain "/x.sql" .append).2 "").trans (by decide +kernel)

end Output

end TableStruct
