import TableStruct.Proofs.Scan.Restart
import TableStruct.Proofs.Scan.Coverage
import TableStruct.Proofs.Scan.Writing

/-!
# Blanks between tokens

A blank outside the tokens of a text separates them, and so do any number of
blanks, of whatever kind. With each such blank widened to a gap (`respace`)
the scan finds the same words (`words_respace`).

A blank can stand between two tokens, close a bare word, or be the one
behind which a word begins, and it can be all of these at once. What a gap
has in common with it is the grouping of its characters (`Replaces`), which
is all that a scan asks of a delimiter (`scanFrom_congr`).
-/

namespace TableStruct

/-- A stretch of blanks, one at least. -/
structure Gap where
  text : List Char
  ne_nil : text ≠ []
  isBlank : text.all Text.isBlank

/-- What is written for the character `c` at place `p`: the gap of that
place for a blank that is not held by a token, and the character itself for
any other. -/
def spaced (gaps : Nat → Gap) (held : Nat → Bool) (p : Nat) (c : Char) : List Char :=
  if Text.isBlank c && !held p then (gaps p).text else [c]

/-- A text that stands at place `p`, with gaps for the blanks between its
tokens. -/
def respaced (gaps : Nat → Gap) (held : Nat → Bool) (p : Nat) : List Char → List Char
  | [] => []
  | c :: cs => spaced gaps held p c ++ respaced gaps held (p + 1) cs

/-- A token, or the one left over, holds the place. -/
def Scan.holds (a : Scan) (i : Nat) : Bool :=
  (a.tokens ++ a.leftover.toList).any (·.holds i)

/-- The statement with a gap for each blank outside its tokens. -/
def respace (gaps : Nat → Gap) (s : String) : String :=
  String.ofList (respaced gaps (scan s).holds 0 s.toList)

/-- The groupings and texts that a scan finds, and those of the leftover. -/
def Scan.words (a : Scan) : List (Grouping × String) × Option (Grouping × String) :=
  (a.tokens.map Token.word, a.leftover.map Token.word)

variable {gaps : Nat → Gap} {held : Nat → Bool} {p : Nat} {cs : List Char} {c d d' : Char}

/-! ## Characters and gaps -/

theorem of_eq_bare_of_isBlank (h : Text.isBlank c) : Grouping.of c = .bare := by
  have hs : c ≠ '\x27' := by rintro rfl; cases h
  have hb : c ≠ '\x60' := by rintro rfl; cases h
  simp [Grouping.of, hs, hb, h]

/-- Characters that do for `c`: they have its grouping, and a quote stands
for itself. -/
structure Replaces (cs : List Char) (c : Char) : Prop where
  ne_nil : cs ≠ []
  of_eq : ∀ x ∈ cs, Grouping.of x = Grouping.of c
  eq_of_isQuoted : (Grouping.of c).isQuoted → cs = [c]

theorem replaces_spaced (gaps : Nat → Gap) (held : Nat → Bool) (p : Nat) (c : Char) :
    Replaces (spaced gaps held p c) c := by
  unfold spaced
  split
  · next h =>
    have hc : Grouping.of c = .bare := of_eq_bare_of_isBlank (Bool.and_eq_true_iff.1 h).1
    refine ⟨(gaps p).ne_nil, fun x hx => ?_, fun hq => absurd hq (Grouping.not_isQuoted_of_bare hc)⟩
    rw [hc, of_eq_bare_of_isBlank (List.all_eq_true.1 (gaps p).isBlank x hx)]
  · exact ⟨List.cons_ne_nil _ _, by simp, fun _ => rfl⟩

theorem spaced_of_held (h : held p) : spaced gaps held p c = [c] := by
  simp [spaced, h]

/-- A held stretch is written as it is. -/
theorem respaced_append (cs ds : List Char) (h : ∀ i, p ≤ i → i < p + cs.length → held i) :
    respaced gaps held p (cs ++ ds) = cs ++ respaced gaps held (p + cs.length) ds := by
  induction cs generalizing p with
  | nil => rfl
  | cons c cs ih =>
    have hmore : respaced gaps held (p + 1) (cs ++ ds) =
        cs ++ respaced gaps held (p + 1 + cs.length) ds :=
      ih fun i hi hlt => h i (by omega) (by rw [List.length_cons]; omega)
    rw [List.cons_append, respaced, spaced_of_held (h p (Nat.le_refl p) (by simp)), hmore,
      List.length_cons, Nat.add_right_comm, Nat.add_assoc p]
    rfl

theorem respaced_eq_self (cs : List Char) (h : ∀ i, p ≤ i → i < p + cs.length → held i) :
    respaced gaps held p cs = cs := by
  have happend : respaced gaps held p (cs ++ []) =
      cs ++ respaced gaps held (p + cs.length) [] := respaced_append cs [] h
  rwa [respaced, List.append_nil] at happend

/-- Gaps put no quote behind a character that has none behind it. -/
theorem closes_respaced (h : Closes c cs) : Closes c (respaced gaps held p cs) := by
  intro hq
  cases cs with
  | nil => simp [respaced]
  | cons d ds =>
    obtain ⟨hne, hof, -⟩ := replaces_spaced gaps held p d
    intro hhead
    have hd : d ≠ c := by simpa using h hq
    rw [respaced, List.head?_append_of_ne_nil _ hne] at hhead
    have hc := hof c (List.mem_of_mem_head? hhead)
    exact hd (Grouping.eq_of_of_eq hq hc.symm)

/-! ## What a scan does not look at -/

/-- Delimiters of one grouping open the same body. -/
theorem Body.read_congr (hd : isSeparator d) (h : Grouping.of d' = Grouping.of d)
    (cs : List Char) : read d' cs = read d cs := by
  by_cases hq : (Grouping.of d).isQuoted
  · rw [Grouping.eq_of_of_eq hq h]
  · have hb := of_eq_bare_of_isSeparator hd hq
    rw [read_of_bare hb, read_of_bare (h.trans hb)]

theorem findToken_congr (hd : isSeparator d) (h : Grouping.of d' = Grouping.of d) (p : Nat)
    (cs : List Char) : findToken d' p cs = findToken d p cs := by
  cases cs with
  | nil => rfl
  | cons c cs =>
    by_cases hc : isSeparator c
    · rw [findToken_skip p cs hc, findToken_skip p cs hc]
    · simp only [findToken, hc, Body.read_congr hd h, h]

/-- **A scan looks at the grouping of the delimiter before it only.** -/
theorem scanFrom_congr (hd : isSeparator d) (h : Grouping.of d' = Grouping.of d) (p : Nat)
    (cs : List Char) : scanFrom d' p cs = scanFrom d p cs := by
  have hfind := findToken_congr hd h p cs
  cases hf : findToken d p cs with
  | nothing => rw [scanFrom_of_nothing hf, scanFrom_of_nothing (hfind.trans hf)]
  | leftover t => rw [scanFrom_of_leftover hf, scanFrom_of_leftover (hfind.trans hf)]
  | token t closer rest => rw [scanFrom_of_token hf, scanFrom_of_token (hfind.trans hf)]

/-- **A scan passes over what does for a separator** as it passes over the
separator. -/
theorem Replaces.scanFrom_append {seg : List Char} (h : Replaces seg c) (hc : isSeparator c)
    (d : Char) (p : Nat) (rest : List Char) :
    scanFrom d p (seg ++ rest) = scanFrom c (p + seg.length) rest := by
  obtain ⟨hne, hof, -⟩ := h
  induction seg generalizing d p with
  | nil => exact absurd rfl hne
  | cons x seg ih =>
    have hx : Grouping.of x = Grouping.of c := hof x List.mem_cons_self
    rw [List.cons_append, scanFrom_skip (isSeparator_of_of_eq hc hx)]
    cases seg with
    | nil => exact scanFrom_congr hc hx (p + 1) rest
    | cons y seg =>
      rw [ih x (p + 1) (List.cons_ne_nil _ _) fun z hz => hof z (List.mem_cons_of_mem _ hz),
        List.length_cons (a := x), Nat.add_right_comm, Nat.add_assoc p]

/-! ## Scans -/

theorem Scan.words_cons (t : Token) (a : Scan) :
    Scan.words ⟨t :: a.tokens, a.leftover⟩ = (t.word :: a.words.1, a.words.2) :=
  rfl

theorem holds_tokenOf (d : Char) (p i : Nat) (b : Body) :
    (tokenOf d p b).holds i = true ↔ p ≤ i ∧ i < p + b.width := by
  rw [Token.holds, Bool.and_eq_true, decide_eq_true_iff, decide_eq_true_iff]
  rfl

/-- **A token is found in the respaced text as it is written**, and the scan
goes on behind what does for its closing delimiter. -/
theorem exists_scanFrom_respaced (gaps : Nat → Gap) {closer : Char} {rest : List Char}
    (hd : isSeparator d) (hc : isSeparator c = false)
    (hr : (Body.read d (c :: cs)).rest = closer :: rest)
    (hheld : ∀ i, p ≤ i → i < p + (Body.read d (c :: cs)).width → held i) (p' : Nat) :
    ∃ q, scanFrom d p' (respaced gaps held p (c :: cs)) =
      ⟨tokenOf d p' (Body.read d (c :: cs)) ::
          (scanFrom closer q
            (respaced gaps held (p + (Body.read d (c :: cs)).width + 1) rest)).tokens,
        (scanFrom closer q
          (respaced gaps held (p + (Body.read d (c :: cs)).width + 1) rest)).leftover⟩ := by
  have hf : findToken d p' (c :: cs) =
      .token (tokenOf d p' (Body.read d (c :: cs))) closer rest := findToken_closed hc hr
  obtain ⟨used, hcs, hstop, hof, hcloses, hsame⟩ := exists_of_findToken hd hf
  have hwidth : (Body.read d (c :: cs)).width = used.length := Nat.add_left_cancel hstop
  rw [hwidth] at hheld ⊢
  generalize hmore : respaced gaps held (p + used.length + 1) rest = more
  have hreplaces := replaces_spaced gaps held (p + used.length) closer
  have hrespaced : respaced gaps held p (c :: cs) =
      used ++ (spaced gaps held (p + used.length) closer ++ more) := by
    rw [hcs, respaced_append used _ hheld, respaced, hmore]
  cases hseg : spaced gaps held (p + used.length) closer with
  | nil => exact absurd hseg hreplaces.ne_nil
  | cons x seg =>
    rw [hseg] at hreplaces hrespaced
    have hx : Grouping.of x = Grouping.of closer := hreplaces.of_eq x List.mem_cons_self
    have hcloser : isSeparator closer := isSeparator_of_findToken hd hf
    have hsep : isSeparator x := isSeparator_of_of_eq hcloser hx
    -- a quote stands for itself, and in both texts no second one follows
    have hcloses' : Closes x (seg ++ more) := by
      intro hq
      rw [hx] at hq
      obtain ⟨rfl, rfl⟩ := List.cons.inj (hreplaces.eq_of_isQuoted hq)
      rw [← hmore]
      exact closes_respaced hcloses hq
    refine ⟨p' + used.length + (x :: seg).length, ?_⟩
    rw [hrespaced, ← hreplaces.scanFrom_append hcloser d, List.cons_append, scanFrom_skip hsep,
      ← hstop]
    exact scanFrom_of_token (hsame x _ (hx.trans hof.symm) hcloses')

/-- **A scan of a respaced text finds the same words**, from any place on. -/
theorem words_scanFrom_respaced (gaps : Nat → Gap) {d : Char} (hd : isSeparator d) (p p' : Nat)
    (cs : List Char) (hheld : ∀ i, (scanFrom d p cs).holds i → held i) :
    (scanFrom d p' (respaced gaps held p cs)).words = (scanFrom d p cs).words := by
  match cs with
  | [] => rw [respaced, scanFrom_of_nothing rfl, scanFrom_of_nothing rfl]
  | c :: cs =>
    by_cases hc : isSeparator c
    · rw [scanFrom_skip hc] at hheld ⊢
      rw [respaced, (replaces_spaced gaps held p c).scanFrom_append hc]
      exact words_scanFrom_respaced gaps hc (p + 1) _ cs hheld
    · have hc' : isSeparator c = false := by simpa using hc
      cases hr : (Body.read d (c :: cs)).rest with
      | nil =>
        rw [scanFrom_of_leftover (findToken_open hc' hr)] at hheld ⊢
        simp only [Scan.holds, Option.toList_some, List.nil_append, List.any_cons, List.any_nil,
          Bool.or_false, holds_tokenOf] at hheld
        have hwidth : (c :: cs).length ≤ (Body.read d (c :: cs)).width := by
          rw [← List.drop_eq_nil_iff, ← (Body.rest_read hd (c :: cs)).1, hr]
        rw [respaced_eq_self (c :: cs) fun i hi hlt => hheld i ⟨hi, by omega⟩,
          scanFrom_of_leftover (findToken_open hc' hr)]
        rfl
      | cons closer rest =>
        have hf : findToken d p (c :: cs) =
            .token (tokenOf d p (Body.read d (c :: cs))) closer rest := findToken_closed hc' hr
        rw [scanFrom_of_token hf] at hheld ⊢
        simp only [Scan.holds, List.cons_append, List.any_cons, Bool.or_eq_true, holds_tokenOf]
          at hheld
        obtain ⟨q, hq⟩ := exists_scanFrom_respaced gaps hd hc' hr
          (fun i hi hlt => hheld i (.inl ⟨hi, hlt⟩)) p'
        have hmore := words_scanFrom_respaced gaps (isSeparator_of_findToken hd hf)
          (p + (Body.read d (c :: cs)).width + 1) q rest fun i hi => hheld i (.inr hi)
        rw [hq, Scan.words_cons, hmore, Scan.words_cons]
        rfl
termination_by cs.length
decreasing_by
  · exact Nat.lt_succ_self cs.length
  · exact length_rest_of_findToken hf

/-- **A respaced text has the same words.** -/
theorem words_respace (gaps : Nat → Gap) (s : String) :
    (scan (respace gaps s)).words = (scan s).words := by
  rw [scan_eq_scanFrom, scan_eq_scanFrom s, respace, String.toList_ofList]
  exact words_scanFrom_respaced gaps rfl 0 0 s.toList fun i hi => by rwa [scan_eq_scanFrom]

/-- Neither the literal nor the identifier that is left open gets a gap. -/
example : respace (fun _ => ⟨[' ', '\t', '\n'], by simp, rfl⟩) "a 'b c' \x60d e" =
    "a \t\n'b c' \t\n\x60d e" := by
  decide +kernel

end TableStruct
