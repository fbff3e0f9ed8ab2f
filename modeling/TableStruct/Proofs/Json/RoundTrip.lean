import TableStruct.Json.Read
import TableStruct.Json.Write
import Mathlib.Data.List.DropRight

/-!
# What is written as JSON is read back

The reader takes off the front of a text what the writer has put there, in
either style and whatever follows. For a literal this goes character by
character (`codes_escapeChar`), and the code points of characters are no
halves of surrogate pairs (`join_toNat`). For a value it goes by its parts
(`reads_of_textual`): between two of them stands nothing but white space and
one mark. Numbers, of which the end depends on what follows, and literals
without a text are left out (`Textual`).
-/

namespace TableStruct

namespace Json

/-! ## Literals -/

/-- A backslash and a letter name a character, and the literal goes on. -/
theorem codes_short {e : Char} {n : Nat} (he : e ≠ 'u') (hn : shortEscape? e = some n)
    (rest : List Char) :
    codes ('\\' :: e :: rest) = (codes rest).map fun r => (n :: r.1, r.2) := by
  rw [codes, if_neg (by decide), if_pos rfl, hn]
  · cases codes rest <;> rfl
  · rintro a b d f more heq -
    exact he heq

/-- Two zeros and two digits name a control character. -/
theorem unit?_control {n : Nat} (h : n < 0x20) :
    unit? '0' '0' (Nat.digitChar (n / 16)) (Nat.digitChar (n % 16)) = some n := by
  revert n
  decide

theorem codes_control {n : Nat} (h : n < 0x20) (rest : List Char) :
    codes (['\\', 'u', '0', '0', Nat.digitChar (n / 16), Nat.digitChar (n % 16)] ++ rest) =
      (codes rest).map fun r => (n :: r.1, r.2) := by
  simp only [List.cons_append, List.nil_append]
  rw [codes, if_neg (by decide), if_pos rfl]
  simp only [unit?_control h]
  cases codes rest <;> rfl

/-- The characters that are written as a backslash and a letter. -/
def shortEscaped : List Char :=
  ['\x22', '\\', '\n', '\r', '\t', '\x08', '\x0c']

/-- **One character of a literal is read back.** -/
theorem codes_escapeChar (c : Char) (rest : List Char) :
    codes (escapeChar c ++ rest) = (codes rest).map fun r => (c.toNat :: r.1, r.2) := by
  by_cases hshort : c ∈ shortEscaped
  · simp only [shortEscaped, List.mem_cons, List.not_mem_nil, or_false] at hshort
    rcases hshort with rfl | rfl | rfl | rfl | rfl | rfl | rfl <;>
      exact codes_short (by decide) (by decide) rest
  · simp only [shortEscaped, List.mem_cons, List.not_mem_nil, or_false, not_or] at hshort
    by_cases hcontrol : c.toNat < 0x20
    · simp only [escapeChar, hshort, hcontrol, if_true, if_false]
      exact codes_control hcontrol rest
    · simp only [escapeChar, hshort, hcontrol, if_false]
      rw [List.singleton_append, codes.eq_def]
      simp only [hshort, hcontrol, if_false]
      cases codes rest <;> rfl

/-- **The characters of a literal are read back**, up to its closing
quote. -/
theorem codes_flatMap_escapeChar (cs rest : List Char) :
    codes (cs.flatMap escapeChar ++ '\x22' :: rest) = some (cs.map Char.toNat, rest) := by
  induction cs with
  | nil => rw [List.flatMap_nil, List.nil_append, codes.eq_def]; rfl
  | cons c cs ih => rw [List.flatMap_cons, List.append_assoc, codes_escapeChar, ih]; rfl

/-- No character is half of a surrogate pair. -/
theorem isHigh_isLow_toNat (c : Char) : isHigh c.toNat = false ∧ isLow c.toNat = false := by
  have hvalid : c.toNat < 0xD800 ∨ 0xDFFF < c.toNat ∧ c.toNat < 0x110000 := c.valid
  simp only [isHigh, isLow, Bool.and_eq_false_iff, decide_eq_false_iff_not]
  omega

theorem join_toNat (cs : List Char) : join (cs.map Char.toNat) = some cs := by
  induction cs with
  | nil => rfl
  | cons c cs ih =>
    obtain ⟨hhigh, hlow⟩ := isHigh_isLow_toNat c
    rw [List.map_cons, join.eq_def]
    simp [hhigh, hlow, ih, Char.ofNat_toNat]

theorem literal_some (s : String) :
    literal (some s) = '\x22' :: (s.toList.flatMap escapeChar ++ ['\x22']) := rfl

/-- **A literal is read back**, whatever follows it. -/
theorem string?_quoted (s : String) (rest : List Char) :
    string? (s.toList.flatMap escapeChar ++ '\x22' :: rest) = some (some s, rest) := by
  rw [string?, codes_flatMap_escapeChar]
  simp [join_toNat]

/-! ## White space -/

/-- Nothing but white space. -/
def IsGap (cs : List Char) : Prop :=
  ∀ c ∈ cs, isSpace c

theorem skipSpace_gap {gap : List Char} (h : IsGap gap) (cs : List Char) :
    skipSpace (gap ++ cs) = skipSpace cs :=
  List.dropWhile_append_of_pos h

theorem skipSpace_cons {c : Char} (h : isSpace c = false) (cs : List Char) :
    skipSpace (c :: cs) = c :: cs :=
  List.dropWhile_cons_of_neg (by simp [h])

theorem isGap_nil : IsGap [] := by
  simp [IsGap]

theorem isGap_lineBreak (style : Style) (depth : Nat) : IsGap (style.lineBreak depth) := by
  intro c hc
  cases style with
  | compact => cases hc
  | pretty =>
    rcases List.mem_cons.1 hc with rfl | hc
    · rfl
    · rw [List.eq_of_mem_replicate hc]
      rfl

theorem skipSpace_skipSpace (cs : List Char) : skipSpace (skipSpace cs) = skipSpace cs :=
  List.dropWhile_idempotent isSpace cs

/-- White space in front of a value does not matter. -/
theorem value?_skipSpace (steps : Nat) (cs : List Char) :
    value? steps (skipSpace cs) = value? steps cs := by
  cases steps with
  | zero => rw [value?, value?]
  | succ steps => rw [value?, value?, skipSpace_skipSpace]

theorem value?_gap {gap : List Char} (h : IsGap gap) (steps : Nat) (cs : List Char) :
    value? steps (gap ++ cs) = value? steps cs := by
  rw [← value?_skipSpace, skipSpace_gap h, value?_skipSpace]

theorem items?_skipSpace (steps : Nat) (cs : List Char) :
    items? steps (skipSpace cs) = items? steps cs := by
  cases steps with
  | zero => rw [items?, items?]
  | succ steps => rw [items?, items?, value?_skipSpace]

theorem members?_skipSpace (steps : Nat) (cs : List Char) :
    members? steps (skipSpace cs) = members? steps cs := by
  cases steps with
  | zero => rw [members?, members?]
  | succ steps => rw [members?, members?, skipSpace_skipSpace]

/-! ## Values -/

/-- There are no numbers in the value, and every string has a text. -/
inductive Textual : Json → Prop
  | null : Textual .null
  | bool (value : Bool) : Textual (.bool value)
  | string (s : String) : Textual (.string (some s))
  | array {js : List Json} (items : ∀ j ∈ js, Textual j) : Textual (.array js)
  | object {ms : List (Option String × Json)} (names : ∀ m ∈ ms, m.1.isSome)
      (values : ∀ m ∈ ms, Textual m.2) : Textual (.object ms)

/-- What the value is written as is read as the value, whatever follows.
Two steps for each character are enough. -/
def Reads (style : Style) (j : Json) : Prop :=
  ∀ depth steps rest, 2 * (write style depth j).length ≤ steps →
    value? steps (write style depth j ++ rest) = some (j, rest)

/-- A value is written from its first character on, which closes
nothing. -/
theorem exists_cons_write {j : Json} (h : Textual j) (style : Style) (depth : Nat) :
    ∃ c cs, write style depth j = c :: cs ∧ isSpace c = false ∧ c ≠ ']' := by
  cases h with
  | null => exact ⟨'n', _, rfl, rfl, by decide⟩
  | bool value => cases value <;> exact ⟨_, _, rfl, rfl, by decide⟩
  | string s => exact ⟨'\x22', _, rfl, rfl, by decide⟩
  | @array js _ => cases js <;> exact ⟨'[', _, by rw [write], rfl, by decide⟩
  | @object ms _ _ => cases ms <;> exact ⟨'\x7b', _, by rw [write], rfl, by decide⟩

variable {style : Style} {depth steps : Nat} {front back rest : List Char}

/-! ### Items -/

theorem items?_last {n : Nat} {cs after rest : List Char} {j : Json}
    (hj : value? n cs = some (j, after)) (hafter : skipSpace after = ']' :: rest) :
    items? (n + 1) cs = some ([j], rest) := by
  simp [items?, hj, hafter]

theorem items?_more {n : Nat} {cs after more : List Char} {j : Json}
    (hj : value? n cs = some (j, after)) (hafter : skipSpace after = ',' :: more) :
    items? (n + 1) cs = (items? n more).map fun r => (j :: r.1, r.2) := by
  rw [items?, hj]
  simp only [Option.bind_eq_bind, Option.bind_some, hafter]
  cases items? n more <;> rfl

/-- **The items of an array are read back**, each from behind the comma and
the white space in front of it, up to the closing bracket. -/
theorem items?_write {js : List Json} {j : Json} (h : ∀ i ∈ j :: js, Reads style i)
    (hfront : IsGap front) (hback : IsGap back)
    (hsteps : 2 * (write style depth j ++ writeItems style depth js).length + 1 ≤ steps) :
    items? steps (front ++ (write style depth j ++
      (writeItems style depth js ++ (back ++ ']' :: rest)))) = some (j :: js, rest) := by
  induction js generalizing j front steps with
  | nil =>
    obtain ⟨n, rfl⟩ : ∃ n, steps = n + 1 := ⟨steps - 1, by omega⟩
    rw [writeItems, List.append_nil] at hsteps
    rw [writeItems, List.nil_append]
    have hitem : value? n (front ++ (write style depth j ++ (back ++ ']' :: rest))) =
        some (j, back ++ ']' :: rest) := by
      rw [value?_gap hfront, h j List.mem_cons_self _ _ _ (by omega)]
    exact items?_last hitem (by rw [skipSpace_gap hback, skipSpace_cons (by decide)])
  | cons k js ih =>
    obtain ⟨n, rfl⟩ : ∃ n, steps = n + 1 := ⟨steps - 1, by omega⟩
    rw [writeItems] at hsteps ⊢
    simp only [List.length_append, List.length_cons] at hsteps
    simp only [List.cons_append, List.append_assoc]
    rw [items?_more (by rw [value?_gap hfront, h j List.mem_cons_self _ _ _ (by omega)])
      (skipSpace_cons (by decide) _), ih (fun i hi => h i (List.mem_cons_of_mem _ hi))
      (isGap_lineBreak style depth) (by simp only [List.length_append]; omega)]
    rfl

/-- What an array begins with, unless it ends there, are its items. -/
theorem value?_openArray {n : Nat} {cs : List Char} (h : (skipSpace cs).head? ≠ some ']') :
    value? (n + 1) ('[' :: cs) = (items? n cs).map fun r => (.array r.1, r.2) := by
  rw [value?, skipSpace_cons (by decide), ← items?_skipSpace]
  simp only [Char.reduceEq, if_false, if_true]
  split
  · next hclose => simp [hclose] at h
  · rfl

/-- An array is read back if its items are. -/
theorem reads_array {js : List Json} (hjs : ∀ j ∈ js, Textual j) (h : ∀ j ∈ js, Reads style j) :
    Reads style (.array js) := by
  intro depth steps rest hsteps
  cases js with
  | nil =>
    obtain ⟨n, rfl⟩ : ∃ n, steps = n + 1 := ⟨steps - 1, by simp [write] at hsteps; omega⟩
    rfl
  | cons j js =>
    obtain ⟨c, cs, hwrite, hspace, hc⟩ :=
      exists_cons_write (hjs j List.mem_cons_self) style (depth + 1)
    rw [write] at hsteps ⊢
    simp only [List.length_cons, List.length_append] at hsteps
    obtain ⟨n, rfl⟩ : ∃ n, steps = n + 1 := ⟨steps - 1, by omega⟩
    simp only [List.cons_append, List.append_assoc, List.nil_append]
    rw [value?_openArray, items?_write h (isGap_lineBreak _ _) (isGap_lineBreak _ _)
      (by simp only [List.length_append]; omega)]
    · rfl
    · rw [skipSpace_gap (isGap_lineBreak _ _), hwrite, List.cons_append, skipSpace_cons hspace]
      simpa using hc

/-! ### Members -/

/-- A colon, with white space behind it. -/
theorem exists_colon (style : Style) : ∃ gap, style.colon = ':' :: gap ∧ IsGap gap := by
  cases style with
  | compact => exact ⟨[], rfl, isGap_nil⟩
  | pretty => exact ⟨[' '], rfl, by simp [IsGap, isSpace]⟩

/-- What a member is written as, with what follows it. -/
theorem writeMember_append (style : Style) (depth : Nat) (s : String) (j : Json) (cs : List Char) :
    writeMember style depth (some s, j) ++ cs = '\x22' :: (s.toList.flatMap escapeChar ++
      '\x22' :: (style.colon ++ (write style depth j ++ cs))) := by
  rw [writeMember, literal_some]
  simp only [List.cons_append, List.append_assoc, List.nil_append]

theorem length_write_lt (style : Style) (depth : Nat) (s : String) (j : Json) :
    (write style depth j).length < (writeMember style depth (some s, j)).length := by
  rw [writeMember, literal_some]
  simp only [List.length_append, List.length_cons]
  omega

/-- **A member is read back**, and what stands behind it says whether it is
the last. -/
theorem members?_member {n : Nat} {s : String} {j : Json} (hj : Reads style j)
    (hfront : IsGap front) (hsteps : 2 * (writeMember style depth (some s, j)).length ≤ n + 1)
    (closing : List Char) :
    (∀ rest, skipSpace closing = '\x7d' :: rest →
      members? (n + 1) (front ++ (writeMember style depth (some s, j) ++ closing)) =
        some ([(some s, j)], rest)) ∧
    ∀ more, skipSpace closing = ',' :: more →
      members? (n + 1) (front ++ (writeMember style depth (some s, j) ++ closing)) =
        (members? n more).map fun r => ((some s, j) :: r.1, r.2) := by
  obtain ⟨gap, hcolon, hgap⟩ := exists_colon style
  have hname : skipSpace (front ++ (writeMember style depth (some s, j) ++ closing)) =
      '\x22' :: (s.toList.flatMap escapeChar ++
        '\x22' :: (':' :: (gap ++ (write style depth j ++ closing)))) := by
    rw [skipSpace_gap hfront, writeMember_append, hcolon, skipSpace_cons (by decide),
      List.cons_append]
  have hvalued : ∀ cs, skipSpace (':' :: cs) = ':' :: cs := skipSpace_cons (by decide)
  have hlength := length_write_lt style depth s j
  have hvalue : value? n (gap ++ (write style depth j ++ closing)) = some (j, closing) := by
    rw [value?_gap hgap, hj depth n closing (by omega)]
  constructor
  · intro rest hrest
    simp [members?, hname, string?_quoted, hvalued, hvalue, hrest]
  · intro more hmore
    rw [members?, hname]
    simp only [string?_quoted, Option.bind_eq_bind, Option.bind_some, hvalued, hvalue, hmore]
    cases members? n more <;> rfl

/-- **The members of an object are read back**, each from behind the comma
and the white space in front of it, up to the closing brace. -/
theorem members?_write {ms : List (Option String × Json)} {m : Option String × Json}
    (hnames : ∀ i ∈ m :: ms, i.1.isSome) (h : ∀ i ∈ m :: ms, Reads style i.2)
    (hfront : IsGap front) (hback : IsGap back)
    (hsteps : 2 * (writeMember style depth m ++ writeMembers style depth ms).length + 1 ≤ steps) :
    members? steps (front ++ (writeMember style depth m ++
      (writeMembers style depth ms ++ (back ++ '\x7d' :: rest)))) = some (m :: ms, rest) := by
  induction ms generalizing m front steps with
  | nil =>
    obtain ⟨n, rfl⟩ : ∃ n, steps = n + 1 := ⟨steps - 1, by omega⟩
    obtain ⟨s, hs⟩ := Option.isSome_iff_exists.1 (hnames m List.mem_cons_self)
    obtain ⟨name, j⟩ := m
    obtain rfl : name = some s := hs
    have hj : Reads style j := h (some s, j) List.mem_cons_self
    rw [writeMembers, List.append_nil] at hsteps
    have hclosing : skipSpace (back ++ '\x7d' :: rest) = '\x7d' :: rest := by
      rw [skipSpace_gap hback, skipSpace_cons (by decide)]
    exact (members?_member hj hfront (by omega) _).1 rest hclosing
  | cons k ms ih =>
    obtain ⟨n, rfl⟩ : ∃ n, steps = n + 1 := ⟨steps - 1, by omega⟩
    obtain ⟨s, hs⟩ := Option.isSome_iff_exists.1 (hnames m List.mem_cons_self)
    obtain ⟨name, j⟩ := m
    obtain rfl : name = some s := hs
    have hj : Reads style j := h (some s, j) List.mem_cons_self
    rw [writeMembers] at hsteps ⊢
    simp only [List.length_append, List.length_cons] at hsteps
    have hmore : members? n (style.lineBreak depth ++ (writeMember style depth k ++
        (writeMembers style depth ms ++ (back ++ '\x7d' :: rest)))) = some (k :: ms, rest) :=
      ih (fun i hi => hnames i (List.mem_cons_of_mem _ hi))
        (fun i hi => h i (List.mem_cons_of_mem _ hi)) (isGap_lineBreak style depth)
        (by simp only [List.length_append]; omega)
    simp only [List.cons_append, List.append_assoc]
    rw [(members?_member hj hfront (by omega) _).2 _ (skipSpace_cons (by decide) _), hmore]
    rfl

/-- What an object begins with, unless it ends there, are its members. -/
theorem value?_openObject {n : Nat} {cs : List Char} (h : (skipSpace cs).head? ≠ some '\x7d') :
    value? (n + 1) ('\x7b' :: cs) = (members? n cs).map fun r => (.object r.1, r.2) := by
  rw [value?, skipSpace_cons (by decide), ← members?_skipSpace]
  simp only [Char.reduceEq, if_false, if_true]
  split
  · next hclose => simp [hclose] at h
  · rfl

/-- An object is read back if the values of its members are. -/
theorem reads_object {ms : List (Option String × Json)} (hnames : ∀ m ∈ ms, m.1.isSome)
    (h : ∀ m ∈ ms, Reads style m.2) : Reads style (.object ms) := by
  intro depth steps rest hsteps
  cases ms with
  | nil =>
    obtain ⟨n, rfl⟩ : ∃ n, steps = n + 1 := ⟨steps - 1, by simp [write] at hsteps; omega⟩
    rfl
  | cons m ms =>
    rw [write] at hsteps ⊢
    simp only [List.length_cons, List.length_append] at hsteps
    obtain ⟨n, rfl⟩ : ∃ n, steps = n + 1 := ⟨steps - 1, by omega⟩
    simp only [List.cons_append, List.append_assoc, List.nil_append]
    rw [value?_openObject, members?_write hnames h (isGap_lineBreak _ _) (isGap_lineBreak _ _)
      (by simp only [List.length_append]; omega)]
    · rfl
    · obtain ⟨name, j⟩ := m
      obtain ⟨s, rfl⟩ := Option.isSome_iff_exists.1 (hnames _ List.mem_cons_self)
      rw [skipSpace_gap (isGap_lineBreak _ _), writeMember_append, skipSpace_cons (by decide)]
      simp

/-! ### All values -/

/-- **A value is read back from what it is written as**, whatever
follows. -/
theorem reads_of_textual {j : Json} (h : Textual j) : Reads style j := by
  induction h with
  | null =>
    intro depth steps rest hsteps
    obtain ⟨n, rfl⟩ : ∃ n, steps = n + 1 := ⟨steps - 1, by simp [write] at hsteps; omega⟩
    rfl
  | bool value =>
    intro depth steps rest hsteps
    obtain ⟨n, rfl⟩ : ∃ n, steps = n + 1 :=
      ⟨steps - 1, by cases value <;> simp [write] at hsteps <;> omega⟩
    cases value <;> rfl
  | string s =>
    intro depth steps rest hsteps
    obtain ⟨n, rfl⟩ : ∃ n, steps = n + 1 :=
      ⟨steps - 1, by simp [write, literal_some] at hsteps; omega⟩
    rw [write, literal_some, List.cons_append, List.append_assoc, value?,
      skipSpace_cons (by decide)]
    simp only [if_true, List.singleton_append, string?_quoted]
    rfl
  | array hjs ih => exact reads_array hjs ih
  | object hnames _ ih => exact reads_object hnames ih

/-- **A text that holds what a value is written as**, and white space behind
it, holds the value. -/
theorem parse?_write {j : Json} (h : Textual j) {gap : List Char} (hgap : IsGap gap) :
    parse? (String.ofList (write style 0 j ++ gap)) = some j := by
  have hread : value? (2 * (write style 0 j ++ gap).length + 2) (write style 0 j ++ gap) =
      some (j, gap) :=
    reads_of_textual h _ _ _ (by rw [List.length_append]; omega)
  have hend : skipSpace gap = [] := by
    have hskip := skipSpace_gap hgap []
    rwa [List.append_nil] at hskip
  rw [parse?, String.toList_ofList, hread]
  simp [hend]

end Json

end TableStruct
