import TableStruct.Proofs.Scan.Agreement

/-!
# The scan by positions

What a scan finds, said of the positions of a text and of nothing else.
From a position on, separators are skipped to the first character that is
none (`Begins`). The token that begins there ends at the first place where
its grouping lets it end (`Closed`), and its text is what stands between,
doubled quotes taken once (`Unquotes`). The scan goes on behind the closing
delimiter, and a token that ends nowhere is left over (`Scans`).

`Scans.unique` says that the positions determine the tokens and the
leftover.
-/

namespace TableStruct

/-- The characters from position `b` up to position `e`. -/
def slice (cs : List Char) (b e : Nat) : List Char :=
  (cs.drop b).take (e - b)

/-- The first character from position `p` on that is no separator stands at
`b`, and `opener` is the separator before it: the last one skipped, or `d`
if none is. -/
structure Begins (cs : List Char) (p : Nat) (d : Char) (b : Nat) (opener : Char) : Prop where
  le : p ≤ b
  /-- Only separators are skipped. -/
  skipped : ∀ i c, p ≤ i → i < b → cs[i]? = some c → isSeparator c
  /-- The token begins with a character that is no separator. -/
  first : ∃ c, cs[b]? = some c ∧ isSeparator c = false
  /-- The separator before the token. -/
  before : if b = p then opener = d else cs[b - 1]? = some opener

/-- The quoted stretch from one position to another stands for a text: an
adjacent pair of quotes for one, any other character for itself. -/
inductive Unquotes (cs : List Char) (q : Char) : Nat → List Char → Nat → Prop
  | done {b : Nat} : Unquotes cs q b [] b
  /-- A pair of quotes is passed over whole. -/
  | pair {b e : Nat} {text : List Char} :
      cs[b]? = some q → cs[b + 1]? = some q → Unquotes cs q (b + 2) text e →
      Unquotes cs q b (q :: text) e
  | char {b e : Nat} {c : Char} {text : List Char} :
      cs[b]? = some c → c ≠ q → Unquotes cs q (b + 1) text e → Unquotes cs q b (c :: text) e

/-- A bare word that begins at `b` may end at `e`: a blank, a parenthesis or
a comma stands there, and no separator before it. -/
def EndsWord (cs : List Char) (b e : Nat) : Prop :=
  b < e ∧ (∃ c, cs[e]? = some c ∧ Grouping.of c = .bare) ∧
    ∃ c, cs[e - 1]? = some c ∧ isSeparator c = false

/-- The token that begins at `b` behind `opener` ends at `e` and has the
given text. -/
inductive Closed (cs : List Char) (opener : Char) (b : Nat) : Nat → List Char → Prop
  /-- A quoted token ends at the first quote that does not begin a pair. -/
  | quoted {e : Nat} {text : List Char} :
      (Grouping.of opener).isQuoted → Unquotes cs opener b text e →
      cs[e]? = some opener → cs[e + 1]? ≠ some opener → Closed cs opener b e text
  /-- A bare word ends at the first place where it may. -/
  | bare {e : Nat} :
      Grouping.of opener = .bare → EndsWord cs b e → (∀ i, EndsWord cs b i → e ≤ i) →
      Closed cs opener b e (slice cs b e)

/-- The text accumulated from `b` to the end. -/
inductive Accumulated (cs : List Char) (opener : Char) (b : Nat) : List Char → Prop
  | quoted {text : List Char} :
      (Grouping.of opener).isQuoted → Unquotes cs opener b text cs.length →
      Accumulated cs opener b text
  | bare : Grouping.of opener = .bare → Accumulated cs opener b (slice cs b cs.length)

/-- **The scan from position `p` on, behind the separator `d`**: the tokens
in order, and the one that the end of the text leaves open. -/
inductive Scans (cs : List Char) : Nat → Char → List Token → Option Token → Prop
  /-- A token ends, and the scan goes on behind its closing delimiter. -/
  | token {p b e : Nat} {d opener closer : Char} {text : List Char} {tokens : List Token}
      {leftover : Option Token} :
      Begins cs p d b opener → Closed cs opener b e text → cs[e]? = some closer →
      Scans cs (e + 1) closer tokens leftover →
      Scans cs p d (⟨Grouping.of opener, String.ofList text, ⟨b, e⟩⟩ :: tokens) leftover
  /-- A token begins and ends nowhere. -/
  | leftover {p b : Nat} {d opener : Char} {text : List Char} :
      Begins cs p d b opener → (∀ e text, ¬ Closed cs opener b e text) →
      Accumulated cs opener b text →
      Scans cs p d [] (some ⟨Grouping.of opener, String.ofList text, ⟨b, cs.length⟩⟩)
  | nothing {p : Nat} {d : Char} :
      (∀ i c, p ≤ i → cs[i]? = some c → isSeparator c) → Scans cs p d [] none

variable {cs : List Char}

/-! ## The positions determine the scan -/

/-- No text stands before the place where a token begins. -/
theorem Begins.le_of_text {p b i : Nat} {d o c : Char} (h : Begins cs p d b o) (hi : p ≤ i)
    (hc : cs[i]? = some c) (hns : isSeparator c = false) : b ≤ i := by
  by_contra hlt
  have hsep := h.skipped i c hi (by omega) hc
  simp [hns] at hsep

theorem Begins.unique {p b b' : Nat} {d o o' : Char} (h : Begins cs p d b o)
    (h' : Begins cs p d b' o') : b = b' ∧ o = o' := by
  obtain ⟨c, hc, hns⟩ := h.first
  obtain ⟨c', hc', hns'⟩ := h'.first
  have hle : b' ≤ b := h'.le_of_text h.le hc hns
  have hge : b ≤ b' := h.le_of_text h'.le hc' hns'
  obtain rfl : b = b' := Nat.le_antisymm hge hle
  refine ⟨rfl, ?_⟩
  have hb := h.before
  have hb' := h'.before
  by_cases hp : b = p
  · rw [if_pos hp] at hb hb'
    rw [hb, hb']
  · rw [if_neg hp] at hb hb'
    exact Option.some.inj (hb.symm.trans hb')

theorem Begins.not_all {p b : Nat} {d o : Char} (h : Begins cs p d b o) :
    ¬ ∀ i c, p ≤ i → cs[i]? = some c → isSeparator c := by
  intro hall
  obtain ⟨c, hc, hns⟩ := h.first
  have := hall b c h.le hc
  simp [hns] at this

namespace Unquotes

variable {q : Char} {b e e' : Nat} {text text' : List Char}

theorem le (h : Unquotes cs q b text e) : b ≤ e := by
  induction h with
  | done => exact Nat.le_refl _
  | pair _ _ _ ih => omega
  | char _ _ _ ih => omega

/-- A quote that does not begin a pair is not passed. -/
theorem le_of_stop (h : Unquotes cs q b text e) (h' : Unquotes cs q b text' e')
    (hq : cs[e']? = some q) (hn : cs[e' + 1]? ≠ some q) : e ≤ e' := by
  induction h generalizing text' with
  | done => exact h'.le
  | pair hb hb1 _ ih =>
    -- both stretches pass over the pair, or the second stops at its first quote
    cases h' with
    | done => exact absurd hb1 hn
    | pair _ _ h' => exact ih h'
    | char hc hne _ => exact absurd (Option.some.inj (hc.symm.trans hb)) hne
  | char hc hne _ ih =>
    cases h' with
    | done => exact absurd (Option.some.inj (hc.symm.trans hq)) hne
    | pair hb _ _ => exact absurd (Option.some.inj (hc.symm.trans hb)) hne
    | char _ _ h' => exact ih h'

theorem text_unique (h : Unquotes cs q b text e) (h' : Unquotes cs q b text' e) :
    text = text' := by
  induction h generalizing text' with
  | done =>
    cases h' with
    | done => rfl
    | pair _ _ h' => have := h'.le; omega
    | char _ _ h' => have := h'.le; omega
  | pair hb hb1 h ih =>
    cases h' with
    | done => have := h.le; omega
    | pair _ _ h' => rw [ih h']
    | char hc hne _ => exact absurd (Option.some.inj (hc.symm.trans hb)) hne
  | char hc hne h ih =>
    cases h' with
    | done => have := h.le; omega
    | pair hb _ _ => exact absurd (Option.some.inj (hc.symm.trans hb)) hne
    | char hc' _ h' => rw [ih h', Option.some.inj (hc.symm.trans hc')]

end Unquotes

theorem Closed.unique {o : Char} {b e e' : Nat} {text text' : List Char}
    (h : Closed cs o b e text) (h' : Closed cs o b e' text') : e = e' ∧ text = text' := by
  cases h with
  | quoted hq hu hc hn =>
    cases h' with
    | quoted _ hu' hc' hn' =>
      obtain rfl : e = e' :=
        Nat.le_antisymm (hu.le_of_stop hu' hc' hn') (hu'.le_of_stop hu hc hn)
      exact ⟨rfl, hu.text_unique hu'⟩
    | bare hb _ _ => exact absurd hq (Grouping.not_isQuoted_of_bare hb)
  | bare hb he hmin =>
    cases h' with
    | quoted hq _ _ _ => exact absurd hq (Grouping.not_isQuoted_of_bare hb)
    | bare _ he' hmin' =>
      obtain rfl : e = e' := Nat.le_antisymm (hmin _ he') (hmin' _ he)
      exact ⟨rfl, rfl⟩

theorem Accumulated.unique {o : Char} {b : Nat} {text text' : List Char}
    (h : Accumulated cs o b text) (h' : Accumulated cs o b text') : text = text' := by
  cases h with
  | quoted hq hu =>
    cases h' with
    | quoted _ hu' => exact hu.text_unique hu'
    | bare hb => exact absurd hq (Grouping.not_isQuoted_of_bare hb)
  | bare hb =>
    cases h' with
    | quoted hq _ => exact absurd hq (Grouping.not_isQuoted_of_bare hb)
    | bare _ => rfl

/-- **The positions determine the tokens and the leftover.** -/
theorem Scans.unique {p : Nat} {d : Char} {tokens tokens' : List Token}
    {leftover leftover' : Option Token} (h : Scans cs p d tokens leftover)
    (h' : Scans cs p d tokens' leftover') : tokens = tokens' ∧ leftover = leftover' := by
  induction h generalizing tokens' leftover' with
  | token hb hc hd _ ih =>
    cases h' with
    | token hb' hc' hd' hs' =>
      obtain ⟨rfl, rfl⟩ := hb.unique hb'
      obtain ⟨rfl, rfl⟩ := hc.unique hc'
      obtain rfl := Option.some.inj (hd.symm.trans hd')
      obtain ⟨rfl, rfl⟩ := ih hs'
      exact ⟨rfl, rfl⟩
    | leftover hb' hno _ =>
      obtain ⟨rfl, rfl⟩ := hb.unique hb'
      exact absurd hc (hno _ _)
    | nothing hall => exact absurd hall hb.not_all
  | leftover hb hno ha =>
    cases h' with
    | token hb' hc' _ _ =>
      obtain ⟨rfl, rfl⟩ := hb.unique hb'
      exact absurd hc' (hno _ _)
    | leftover hb' _ ha' =>
      obtain ⟨rfl, rfl⟩ := hb.unique hb'
      rw [ha.unique ha']
      exact ⟨rfl, rfl⟩
    | nothing hall => exact absurd hall hb.not_all
  | nothing hall =>
    cases h' with
    | token hb' _ _ _ => exact absurd hall hb'.not_all
    | leftover hb' _ _ => exact absurd hall hb'.not_all
    | nothing _ => exact ⟨rfl, rfl⟩

end TableStruct
