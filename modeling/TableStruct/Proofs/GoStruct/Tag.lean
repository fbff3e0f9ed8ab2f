import Mathlib.Data.List.Forall2
import TableStruct.GoStruct

/-!
# Tag blocks are read back

A reader of tag blocks beside their writer. Inside the backquotes it takes
entries one after the other: a key up to the first colon, a value up to the
first quote that no backslash escapes, and a single space before the next
entry. `readValue_escape` says that a value is read up to the quote that
closes it, whatever it holds; keys cannot be mistaken because the settings
admit none with a blank, a quote, a backquote or a colon.

So every block decodes to the tags it was made from (`decodes_ofSchema`),
the values with their backquotes and line breaks replaced.
-/

namespace TableStruct

namespace Tag

/-! ## The reader -/

/-- Reads a value up to its closing quote, and returns what follows. A
backslash stands for the quote or the backslash after it, and for nothing
else. -/
def readValue : List Char → Option (List Char × List Char)
  | [] => none
  | c :: cs =>
    if c = '\x22' then some ([], cs)
    else if c = '\\' then
      match cs with
      | [] => none
      | d :: ds =>
        if d = '\x22' || d = '\\' then (readValue ds).map fun v => (d :: v.1, v.2) else none
    else (readValue cs).map fun v => (c :: v.1, v.2)

theorem readValue_quote (rest : List Char) : readValue ('\x22' :: rest) = some ([], rest) := by
  rw [readValue.eq_def]
  rfl

theorem readValue_escaped {c : Char} (h : c = '\x22' ∨ c = '\\') (rest : List Char) :
    readValue ('\\' :: c :: rest) = (readValue rest).map fun v => (c :: v.1, v.2) := by
  rw [readValue.eq_def]
  simp [h]

theorem readValue_other {c : Char} (hquote : c ≠ '\x22') (hslash : c ≠ '\\')
    (rest : List Char) :
    readValue (c :: rest) = (readValue rest).map fun v => (c :: v.1, v.2) := by
  rw [readValue.eq_def]
  simp [hquote, hslash]

/-- Reads an entry: the key up to the first colon, then the value in
quotes. -/
def readEntry (cs : List Char) : Option ((String × String) × List Char) :=
  match cs.dropWhile (· != ':') with
  | ':' :: '\x22' :: rest =>
    (readValue rest).map fun v =>
      ((String.ofList (cs.takeWhile (· != ':')), String.ofList v.1), v.2)
  | _ => none

theorem length_rest_readValue {cs value rest : List Char}
    (h : readValue cs = some (value, rest)) : rest.length < cs.length := by
  fun_induction readValue cs generalizing value with
  | case1 => cases h
  | case2 ds =>
    simp only [Option.some.injEq, Prod.mk.injEq] at h
    rw [← h.2]
    exact Nat.lt_succ_self _
  | case3 => cases h
  | case4 d ds _ _ ih =>
    obtain ⟨⟨v, r⟩, hv, heq⟩ := Option.map_eq_some_iff.1 h
    simp only [Prod.mk.injEq] at heq
    obtain ⟨-, rfl⟩ := heq
    have hlt : r.length < ds.length := ih hv
    simp only [List.length_cons]
    omega
  | case5 => cases h
  | case6 c cs _ _ ih =>
    obtain ⟨⟨v, r⟩, hv, heq⟩ := Option.map_eq_some_iff.1 h
    simp only [Prod.mk.injEq] at heq
    obtain ⟨-, rfl⟩ := heq
    exact Nat.lt_succ_of_lt (ih hv)

theorem length_rest_readEntry {cs rest : List Char} {e : String × String}
    (h : readEntry cs = some (e, rest)) : rest.length < cs.length := by
  unfold readEntry at h
  split at h
  · next tail hdrop =>
    obtain ⟨⟨v, r⟩, hv, heq⟩ := Option.map_eq_some_iff.1 h
    simp only [Prod.mk.injEq] at heq
    obtain ⟨-, rfl⟩ := heq
    have hvalue : r.length < tail.length := length_rest_readValue hv
    have hlen : (cs.dropWhile (· != ':')).length ≤ cs.length :=
      (List.dropWhile_suffix _).length_le
    rw [hdrop, List.length_cons, List.length_cons] at hlen
    omega
  · cases h

/-- Reads entries with single spaces between them. -/
def readEntries (cs : List Char) : Option (List (String × String)) :=
  match _ : readEntry cs with
  | none => none
  | some (e, []) => some [e]
  | some (e, c :: rest) => if c = ' ' then (readEntries rest).map (e :: ·) else none
termination_by cs.length
decreasing_by
  have := length_rest_readEntry (by assumption)
  simp only [List.length_cons] at this
  omega

theorem readEntries_of_last {cs : List Char} {e : String × String}
    (h : readEntry cs = some (e, [])) : readEntries cs = some [e] := by
  rw [readEntries]
  split <;> simp_all

theorem readEntries_of_more {cs rest : List Char} {e : String × String}
    (h : readEntry cs = some (e, ' ' :: rest)) :
    readEntries cs = (readEntries rest).map (e :: ·) := by
  rw [readEntries]
  split <;> simp_all

/-! ## Values and keys -/

/-- A character as a block shows it: a backquote as a single quote and a
line break as a space. -/
def plainChar (c : Char) : Char :=
  if c = '\x60' then '\x27' else if c = '\n' || c = '\r' then ' ' else c

/-- A text as a block shows it. -/
def plain (text : String) : String :=
  String.ofList (text.toList.map plainChar)

/-- The character can stand in a raw string on one line. -/
def fitsRaw (c : Char) : Bool :=
  c != '\x60' && c != '\n' && c != '\r'

/-- **A written character is read as the character it shows.** -/
theorem readValue_escapeChar (c : Char) (rest : List Char) :
    readValue (escapeChar c ++ rest) =
      (readValue rest).map fun v => (plainChar c :: v.1, v.2) := by
  unfold escapeChar plainChar
  split
  · next h =>
    subst h
    exact readValue_escaped (.inl rfl) rest
  · next hquote =>
    split
    · next h =>
      subst h
      exact readValue_escaped (.inr rfl) rest
    · next hslash =>
      -- what is left is written as one character that is neither a quote nor a backslash
      split
      · exact readValue_other (by decide) (by decide) rest
      · split
        · exact readValue_other (by decide) (by decide) rest
        · exact readValue_other hquote hslash rest

/-- **A value is read up to the quote that closes it**, whatever it holds
and whatever follows. -/
theorem readValue_escape (value rest : List Char) :
    readValue (escape value ++ '\x22' :: rest) = some (value.map plainChar, rest) := by
  induction value with
  | nil => exact readValue_quote rest
  | cons c value ih =>
    have hcons : escape (c :: value) = escapeChar c ++ escape value := List.flatMap_cons
    rw [hcons, List.append_assoc, readValue_escapeChar, ih]
    rfl

/-- **An entry is read back**, if no colon is in its key. -/
theorem readEntry_entry {key : String} (hkey : ∀ c ∈ key.toList, c ≠ ':') (value : String)
    (rest : List Char) :
    readEntry (entry key value ++ rest) = some ((key, plain value), rest) := by
  have hentry : entry key value ++ rest =
      key.toList ++ ':' :: '\x22' :: (escape value.toList ++ '\x22' :: rest) := by
    simp [entry]
  have hall : ∀ c ∈ key.toList, (c != ':') = true := fun c hc => by simpa using hkey c hc
  have hdrop : (entry key value ++ rest).dropWhile (· != ':') =
      ':' :: '\x22' :: (escape value.toList ++ '\x22' :: rest) := by
    rw [hentry, List.dropWhile_append_of_pos hall]
    rfl
  have htake : (entry key value ++ rest).takeWhile (· != ':') = key.toList := by
    rw [hentry, List.takeWhile_append_of_pos hall]
    simp
  unfold readEntry
  rw [hdrop, htake]
  simp only [readValue_escape, Option.map_some, String.ofList_toList]
  rfl

/-- **Entries with single spaces between them are read back** in order. -/
theorem readEntries_intercalate {entries : List (String × String)} (hne : entries ≠ [])
    (hkeys : ∀ e ∈ entries, ∀ c ∈ e.1.toList, c ≠ ':') :
    readEntries ([' '].intercalate (entries.map fun e => entry e.1 e.2)) =
      some (entries.map fun e => (e.1, plain e.2)) := by
  induction entries with
  | nil => exact absurd rfl hne
  | cons e entries ih =>
    have hkey := hkeys e List.mem_cons_self
    cases entries with
    | nil =>
      have hread := readEntry_entry hkey e.2 []
      rw [List.append_nil] at hread
      rw [List.map_singleton, List.intercalate_singleton]
      exact readEntries_of_last hread
    | cons e' entries =>
      have hmore := ih (List.cons_ne_nil _ _) fun d hd => hkeys d (List.mem_cons_of_mem _ hd)
      rw [List.map_cons, List.map_cons, List.intercalate_cons_cons, List.append_assoc,
        List.singleton_append, readEntries_of_more (readEntry_entry hkey e.2 _)]
      rw [List.map_cons] at hmore
      rw [hmore]
      rfl

/-! ## One line of a raw string -/

theorem fitsRaw_of_mem_escape {value : List Char} {c : Char} (h : c ∈ escape value) :
    fitsRaw c := by
  obtain ⟨d, -, hd⟩ := List.mem_flatMap.1 h
  unfold escapeChar at hd
  split at hd
  · simp only [List.mem_cons, List.not_mem_nil, or_false] at hd
    rcases hd with rfl | rfl <;> decide
  · split at hd
    · simp only [List.mem_cons, List.not_mem_nil, or_false, or_self] at hd
      subst hd
      decide
    · split at hd
      · obtain rfl := List.mem_singleton.1 hd
        decide
      · split at hd
        · obtain rfl := List.mem_singleton.1 hd
          decide
        · next hback hbreak =>
          obtain rfl := List.mem_singleton.1 hd
          simpa [fitsRaw, hback] using hbreak

theorem fitsRaw_of_mem_entry {key value : String} (hkey : ∀ c ∈ key.toList, fitsRaw c) {c : Char}
    (h : c ∈ entry key value) : fitsRaw c := by
  simp only [entry, List.mem_append, List.mem_cons, List.not_mem_nil, or_false] at h
  rcases h with h | rfl | rfl | h | rfl
  · exact hkey c h
  · decide
  · decide
  · exact fitsRaw_of_mem_escape h
  · decide

theorem fitsRaw_of_mem_intercalate {entries : List (String × String)}
    (hkeys : ∀ e ∈ entries, ∀ c ∈ e.1.toList, fitsRaw c) {c : Char}
    (h : c ∈ [' '].intercalate (entries.map fun e => entry e.1 e.2)) : fitsRaw c := by
  induction entries with
  | nil => simp at h
  | cons e entries ih =>
    have hkey := hkeys e List.mem_cons_self
    cases entries with
    | nil =>
      rw [List.map_singleton, List.intercalate_singleton] at h
      exact fitsRaw_of_mem_entry hkey h
    | cons e' entries =>
      rw [List.map_cons, List.map_cons, List.intercalate_cons_cons, List.append_assoc,
        List.mem_append, List.mem_append] at h
      rcases h with h | h | h
      · exact fitsRaw_of_mem_entry hkey h
      · obtain rfl := List.mem_singleton.1 h
        decide
      · exact ih (fun d hd => hkeys d (List.mem_cons_of_mem _ hd)) h

end Tag

/-! ## Blocks -/

/-- A character that breaks no tag is neither a colon nor anything that a
raw string on one line cannot hold. -/
theorem Settings.fitsRaw_of_breaksTag {c : Char} (h : breaksTag c = false) :
    c ≠ ':' ∧ Tag.fitsRaw c := by
  simp only [breaksTag, Bool.or_eq_false_iff, beq_eq_false_iff_ne] at h
  obtain ⟨⟨⟨hblank, -⟩, hback⟩, hcolon⟩ := h
  have hline : c ≠ '\n' := by
    rintro rfl
    exact absurd hblank (by decide)
  have hreturn : c ≠ '\r' := by
    rintro rfl
    exact absurd hblank (by decide)
  exact ⟨hcolon, by simp [Tag.fitsRaw, hback, hline, hreturn]⟩

namespace Column

/-- The comment, unless it is empty. -/
def remark? (c : Column) : Option String :=
  c.comment.filter fun text => text != ""

end Column

namespace Tag

/-- What the block of a column says: each tag with the column's name, its
affixes off, and then the comment tag with the comment. -/
def meant (s : Settings) (c : Column) : List (String × String) :=
  (s.tags.map fun tag => (tag, plain (s.fieldAffix.strip c.name))) ++
    (c.remark?.map fun text => (s.commentTag, plain text)).toList

/-- **A block decodes to what the column means.** It is empty if there is
nothing to say. Otherwise it is a raw string on one line, of which the
inside is read as exactly the entries meant. -/
structure Decodes (s : Settings) (c : Column) (block : String) : Prop where
  empty_iff : block = "" ↔ s.tags = [] ∧ c.remark? = none
  reads : block ≠ "" → ∃ inside, block.toList = '\x60' :: (inside ++ ['\x60']) ∧
    (∀ x ∈ inside, x ≠ '\x60' ∧ x ≠ '\n' ∧ x ≠ '\r') ∧ readEntries inside = some (meant s c)

theorem pairs_eq (tags : List String) (commentTag column : String) (c : Column) :
    pairs tags commentTag column c.comment =
      (tags.map fun tag => (tag, column)) ++
        (c.remark?.map fun text => (commentTag, text)).toList := by
  unfold pairs Column.remark?
  cases c.comment with
  | none => rfl
  | some text =>
    by_cases h : text = ""
    · simp [h]
    · simp [h, Option.filter]

variable {s : Settings} {c : Column}

/-- **The keys of a block can be told apart from all else.** -/
theorem key_of_mem_pairs (hs : s.misfit? = none) {e : String × String} {column : String}
    (he : e ∈ pairs s.tags s.commentTag column c.comment) :
    ∀ x ∈ e.1.toList, x ≠ ':' ∧ fitsRaw x := by
  obtain ⟨htags, hcomment, -⟩ := Settings.misfit?_eq_none.1 hs
  have hkey : e.1 ∈ s.tags ∨ e.1 = s.commentTag := by
    rw [pairs_eq, List.mem_append] at he
    rcases he with he | he
    · obtain ⟨tag, htag, rfl⟩ := List.mem_map.1 he
      exact .inl htag
    · obtain ⟨text, -, rfl⟩ := Option.map_eq_some_iff.1 (Option.mem_toList.1 he)
      exact .inr rfl
  have hbreaks : ∀ x ∈ e.1.toList, Settings.breaksTag x = false := by
    rcases hkey with htag | hcommentTag
    · exact (Settings.tagMisfit?_eq_none.1 (htags _ htag)).2
    · rw [hcommentTag]
      exact (Settings.tagMisfit?_eq_none.1 hcomment).2
  exact fun x hx => Settings.fitsRaw_of_breaksTag (hbreaks x hx)

theorem decodes_block (hs : s.misfit? = none) (c : Column) :
    Decodes s c (block s.tags s.commentTag (s.fieldAffix.strip c.name) c.comment) := by
  have hkeys : ∀ e ∈ pairs s.tags s.commentTag (s.fieldAffix.strip c.name) c.comment,
      ∀ x ∈ e.1.toList, x ≠ ':' ∧ fitsRaw x := fun e he => key_of_mem_pairs hs he
  have hnil : pairs s.tags s.commentTag (s.fieldAffix.strip c.name) c.comment = [] ↔
      s.tags = [] ∧ c.remark? = none := by
    rw [pairs_eq]
    simp
  have hmeant : (pairs s.tags s.commentTag (s.fieldAffix.strip c.name) c.comment).map
      (fun e => (e.1, plain e.2)) = meant s c := by
    rw [pairs_eq, meant, List.map_append, List.map_map]
    cases c.remark? <;> rfl
  unfold block
  generalize pairs s.tags s.commentTag (s.fieldAffix.strip c.name) c.comment = entries
    at hkeys hnil hmeant
  split
  · exact ⟨by simp [hnil.1 rfl], fun hne => absurd rfl hne⟩
  · next hentries =>
    have hne : String.ofList ('\x60' ::
        ([' '].intercalate (entries.map fun e => entry e.1 e.2) ++ ['\x60'])) ≠ "" := by
      simp [String.ext_iff]
    refine ⟨?_, fun _ => ⟨_, String.toList_ofList, ?_, ?_⟩⟩
    · exact ⟨fun h => absurd h hne, fun h => absurd (hnil.2 h) hentries⟩
    · intro x hx
      have hfits := fitsRaw_of_mem_intercalate (fun e he y hy => (hkeys e he y hy).2) hx
      simpa [fitsRaw, and_assoc] using hfits
    · rw [← hmeant]
      exact readEntries_intercalate hentries fun e he x hx => (hkeys e he x hx).1

end Tag

namespace GoStruct

/-- **The tag blocks of a struct decode to what its columns mean**, one
field for each column and in their order, whatever the names and comments
hold. -/
theorem decodes_ofSchema {s : Settings} (hs : s.misfit? = none) (t : Schema) :
    List.Forall₂ (fun c f => Tag.Decodes s c f.tagBlock) t.fields (ofSchema s t).fields := by
  rw [ofSchema, List.forall₂_map_right_iff, List.forall₂_same]
  intro c _
  exact Tag.decodes_block hs c

/-- A key with a backslash, and an affix taken off the column names. -/
def oddSettings : Settings :=
  { tags := ["json", "a\\b"], fieldAffix := ⟨"f_", ""⟩, package := "model" }

/-- Names and comments with quotes, backslashes, backquotes and line breaks,
one of which looks like an entry of its own. -/
def oddSchema : Schema :=
  ⟨"t", [⟨"f_x\"y\\", "int", some "say \x60hi\x60\r\n\" db:\"z\\"⟩, ⟨"plain", "text", some ""⟩,
    ⟨"f_", "int", none⟩]⟩

theorem decodes_ofSchema_odd : oddSettings.misfit? = none ∧
    List.Forall₂ (fun c f => Tag.Decodes oddSettings c f.tagBlock) oddSchema.fields
      (ofSchema oddSettings oddSchema).fields := by
  have husable : oddSettings.misfit? = none := by decide +kernel
  exact ⟨husable, decodes_ofSchema husable oddSchema⟩

end GoStruct

end TableStruct
