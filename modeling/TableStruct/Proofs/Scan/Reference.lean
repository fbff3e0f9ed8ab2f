import TableStruct.Proofs.Scan.Positions

/-!
# The reader meets the scan by positions

The structured scan reads lists and the scan by positions reads places in
one text; the rest of the text at a place is what ties them. A body read
from a place ends at the first place where its grouping lets it end
(`closed_of_read`), or accumulates to the end (`accumulated_of_read`), so
that the structured scan is a scan by positions (`scans_scanFrom`). With
`Scans.unique` the two are one.
-/

namespace TableStruct

variable {cs : List Char}

theorem drop_eq_cons {p : Nat} {c : Char} {rest : List Char} (h : cs.drop p = c :: rest) :
    cs[p]? = some c ∧ cs.drop (p + 1) = rest := by
  constructor
  · have := congrArg List.head? h
    rwa [List.head?_drop] at this
  · have := congrArg List.tail h
    rwa [List.tail_drop] at this

/-! ## Skipped separators -/

theorem scanFrom_skip {d c : Char} (hc : isSeparator c) (p : Nat) (rest : List Char) :
    scanFrom d p (c :: rest) = scanFrom c (p + 1) rest := by
  have hf : findToken d p (c :: rest) = findToken c (p + 1) rest := findToken_skip p rest hc
  cases h : findToken c (p + 1) rest with
  | nothing => rw [scanFrom_of_nothing h, scanFrom_of_nothing (hf.trans h)]
  | leftover t => rw [scanFrom_of_leftover h, scanFrom_of_leftover (hf.trans h)]
  | token t closer tail => rw [scanFrom_of_token h, scanFrom_of_token (hf.trans h)]

theorem scanFrom_of_all {rest : List Char} (d : Char) (p : Nat)
    (h : ∀ c ∈ rest, isSeparator c) : scanFrom d p rest = ⟨[], none⟩ := by
  induction rest generalizing d p with
  | nil => exact scanFrom_of_nothing rfl
  | cons c rest ih =>
    rw [scanFrom_skip (h c List.mem_cons_self)]
    exact ih c (p + 1) fun x hx => h x (List.mem_cons_of_mem _ hx)

/-- **Separators lead to the next token or to the end.** What is skipped
does not change what the scan finds, and what stands before the token is a
separator. -/
theorem begins_or_all (p : Nat) (d : Char) (hd : isSeparator d) :
    (∀ i c, p ≤ i → cs[i]? = some c → isSeparator c) ∨
      ∃ b o, Begins cs p d b o ∧ isSeparator o ∧
        scanFrom d p (cs.drop p) = scanFrom o b (cs.drop b) := by
  generalize hrest : cs.drop p = rest
  induction rest generalizing p d with
  | nil =>
    left
    intro i c hi hc
    have hlen : cs.length ≤ p := List.drop_eq_nil_iff.1 hrest
    have := (List.getElem?_eq_some_iff.1 hc).1
    omega
  | cons c rest ih =>
    obtain ⟨hp, hnext⟩ := drop_eq_cons hrest
    by_cases hc : isSeparator c
    · rcases ih (p + 1) c hc hnext with hall | ⟨b, o, hb, ho, heq⟩
      · left
        intro i x hi hx
        rcases Nat.eq_or_lt_of_le hi with rfl | hlt
        · rwa [← Option.some.inj (hp.symm.trans hx)]
        · exact hall i x hlt hx
      · right
        refine ⟨b, o, ⟨Nat.le_of_succ_le hb.le, ?_, hb.first, ?_⟩, ho, ?_⟩
        · intro i x hi hib hx
          rcases Nat.eq_or_lt_of_le hi with rfl | hlt
          · rwa [← Option.some.inj (hp.symm.trans hx)]
          · exact hb.skipped i x hlt hib hx
        · have hle := hb.le
          have hbefore := hb.before
          rw [if_neg (by omega)]
          by_cases hbp : b = p + 1
          · rw [if_pos hbp] at hbefore
            rw [hbp, hbefore, Nat.add_sub_cancel, hp]
          · rwa [if_neg hbp] at hbefore
        · rw [scanFrom_skip hc, heq]
    · right
      refine ⟨p, d, ⟨Nat.le_refl p, ?_, ⟨c, hp, by simpa using hc⟩, by simp⟩, hd, by rw [hrest]⟩
      intro i _ hi hip
      omega

/-! ## Bare words -/

namespace Body

theorem rest_bare (after : Bool) (rest : List Char) :
    (bare after rest).rest = rest.drop (bare after rest).width := by
  induction rest generalizing after with
  | nil => rfl
  | cons c rest ih =>
    rw [bare]
    split
    · rfl
    · simp [push, ih, Nat.add_comm 1]

theorem text_bare (after : Bool) (rest : List Char) :
    (bare after rest).text = rest.take (bare after rest).width := by
  induction rest generalizing after with
  | nil => rfl
  | cons c rest ih =>
    rw [bare]
    split
    · rfl
    · simp [push, ih, Nat.add_comm 1]

theorem width_bare_le (after : Bool) (rest : List Char) :
    (bare after rest).width ≤ rest.length := by
  induction rest generalizing after with
  | nil => simp [bare]
  | cons c rest ih =>
    rw [bare]
    split
    · exact Nat.zero_le _
    · have := ih (isSeparator c)
      simp only [push, List.length_cons]
      omega

/-- A place of the rest where a bare word may end, `d` being the character
before the rest. -/
def MayEnd (d : Char) (rest : List Char) (i : Nat) : Prop :=
  (∃ c, rest[i]? = some c ∧ Grouping.of c = .bare) ∧
    ∃ c, (d :: rest)[i]? = some c ∧ isSeparator c = false

/-- **A bare word ends at the first place where it may.** -/
theorem bare_first (d : Char) (rest : List Char) :
    (∀ i < (bare (isSeparator d) rest).width, ¬ MayEnd d rest i) ∧
      ((bare (isSeparator d) rest).rest ≠ [] →
        MayEnd d rest (bare (isSeparator d) rest).width) := by
  induction rest generalizing d with
  | nil => simp [bare]
  | cons c rest ih =>
    obtain ⟨hnot, hend⟩ := ih c
    rw [bare]
    split
    · next hc =>
      simp only [Bool.and_eq_true, Bool.not_eq_true', beq_iff_eq] at hc
      refine ⟨fun i hi => absurd hi (Nat.not_lt_zero i), fun _ => ?_⟩
      exact ⟨⟨c, rfl, hc.2⟩, ⟨d, rfl, hc.1⟩⟩
    · next hc =>
      simp only [push, Nat.add_comm 1]
      refine ⟨fun i hi hmay => ?_, fun hne => hend hne⟩
      cases i with
      | zero =>
        obtain ⟨⟨x, hx, hbare⟩, ⟨y, hy, hsep⟩⟩ := hmay
        simp only [List.getElem?_cons_zero, Option.some.injEq] at hx hy
        subst hx hy
        simp [hbare, hsep] at hc
      | succ i => exact hnot i (by omega) hmay

end Body

theorem endsWord_iff {o : Char} {b : Nat} (ho : isSeparator o) (i : Nat) :
    EndsWord cs b (b + i) ↔ Body.MayEnd o (cs.drop b) i := by
  cases i with
  | zero =>
    constructor
    · rintro ⟨hlt, -⟩
      omega
    · rintro ⟨-, c, hc, hsep⟩
      simp only [List.getElem?_cons_zero, Option.some.injEq] at hc
      simp [← hc, ho] at hsep
  | succ i =>
    have hlt : b < b + (i + 1) := by omega
    simp only [EndsWord, Body.MayEnd, List.getElem?_drop, List.getElem?_cons_succ, hlt, true_and]
    rfl

/-! ## Quoted tokens -/

namespace Body

/-- **A quoted body read from a place** stands for the stretch it spans,
and what follows begins with a quote that begins no pair. -/
theorem quoted_at {q : Char} (p : Nat) (hp : p ≤ cs.length) :
    Unquotes cs q p (quoted q (cs.drop p)).text (p + (quoted q (cs.drop p)).width) ∧
      (quoted q (cs.drop p)).rest = cs.drop (p + (quoted q (cs.drop p)).width) ∧
      p + (quoted q (cs.drop p)).width ≤ cs.length ∧
      ((quoted q (cs.drop p)).rest ≠ [] →
        cs[p + (quoted q (cs.drop p)).width]? = some q ∧
          cs[p + (quoted q (cs.drop p)).width + 1]? ≠ some q) := by
  cases hrest : cs.drop p with
  | nil =>
    refine ⟨Unquotes.done, ?_, hp, fun h => absurd rfl h⟩
    simp [quoted, hrest]
  | cons c rest =>
    obtain ⟨hc, hnext⟩ := drop_eq_cons hrest
    have hlen : p < cs.length := (List.getElem?_eq_some_iff.1 hc).1
    by_cases hq : c = q
    · subst hq
      by_cases hd : rest.head? = some c
      · obtain ⟨ds, rfl⟩ := List.head?_eq_some_iff.1 hd
        obtain ⟨hd1, hnext2⟩ := drop_eq_cons hnext
        have hlen1 : p + 1 < cs.length := (List.getElem?_eq_some_iff.1 hd1).1
        obtain ⟨hu, hr, hle, hstop⟩ := quoted_at (q := c) (p + 2) hlen1
        rw [hnext2] at hu hr hle hstop
        rw [quoted_pair]
        simp only [push, ← Nat.add_assoc]
        exact ⟨Unquotes.pair hc hd1 hu, hr, hle, hstop⟩
      · -- a quote that begins no pair: the body is empty
        have hstop : cs[p + 1]? ≠ some c := by rwa [← List.head?_drop, hnext]
        rw [quoted_of_head?_ne hd]
        exact ⟨Unquotes.done, by rw [Nat.add_zero, hrest], hp, fun _ => ⟨hc, hstop⟩⟩
    · obtain ⟨hu, hr, hle, hstop⟩ := quoted_at (q := q) (p + 1) hlen
      rw [hnext] at hu hr hle hstop
      rw [quoted_cons_of_ne hq]
      simp only [push, ← Nat.add_assoc]
      exact ⟨Unquotes.char hc hq hu, hr, hle, hstop⟩
termination_by cs.length - p

end Body

/-! ## Bodies -/

/-- What a body read at `b` says of the places: the token ends where a
closing delimiter follows the body, and nowhere if nothing follows. -/
structure ReadsAt (cs : List Char) (o : Char) (b : Nat) (body : Body) : Prop where
  closed : ∀ closer rest, body.rest = closer :: rest →
    Closed cs o b (b + body.width) body.text ∧ cs[b + body.width]? = some closer ∧
      cs.drop (b + body.width + 1) = rest
  unclosed : body.rest = [] →
    b + body.width = cs.length ∧ (∀ e text, ¬ Closed cs o b e text) ∧
      Accumulated cs o b body.text

theorem readsAt_quoted {o : Char} {b : Nat} (hq : (Grouping.of o).isQuoted) (hb : b ≤ cs.length) :
    ReadsAt cs o b (Body.quoted o (cs.drop b)) := by
  obtain ⟨hu, hr, hle, hstop⟩ := Body.quoted_at (q := o) b hb
  constructor
  · intro closer rest hrest
    obtain ⟨hc, hnext⟩ := hstop (by simp [hrest])
    exact ⟨.quoted hq hu hc hnext, drop_eq_cons (hr.symm.trans hrest)⟩
  · intro hrest
    have hlen : cs.length ≤ _ := List.drop_eq_nil_iff.1 (hr.symm.trans hrest)
    have heq := Nat.le_antisymm hle hlen
    rw [heq] at hu
    refine ⟨heq, fun e text hclosed => ?_, .quoted hq hu⟩
    cases hclosed with
    | quoted _ hu' hc hn =>
      -- a closing quote would have stopped the body short of the end
      have := hu.le_of_stop hu' hc hn
      have := (List.getElem?_eq_some_iff.1 hc).1
      omega
    | bare hbare => exact absurd hq (Grouping.not_isQuoted_of_bare hbare)

theorem readsAt_bare {o : Char} {b : Nat} (ho : Grouping.of o = .bare) (hb : b ≤ cs.length) :
    ReadsAt cs o b (Body.bare true (cs.drop b)) := by
  have hsep := isSeparator_of_bare ho
  have hfirst := Body.bare_first o (cs.drop b)
  rw [hsep] at hfirst
  have hr := Body.rest_bare true (cs.drop b)
  have ht := Body.text_bare true (cs.drop b)
  have hle := Body.width_bare_le true (cs.drop b)
  revert hfirst hr ht hle
  generalize Body.bare true (cs.drop b) = body
  rintro ⟨hnot, hend⟩ hr ht hle
  rw [List.drop_drop] at hr
  rw [List.length_drop] at hle
  -- the body stops at the first place of the rest, which is a place of the text
  have hmin : ∀ i, EndsWord cs b i → b + body.width ≤ i := by
    intro i hi
    by_contra hlt
    have hbi := hi.1
    rw [show i = b + (i - b) by omega, endsWord_iff hsep] at hi
    exact hnot (i - b) (by omega) hi
  constructor
  · intro closer rest hrest
    have hends := (endsWord_iff hsep _).2 (hend (by simp [hrest]))
    have hslice : slice cs b (b + body.width) = body.text := by
      rw [slice, Nat.add_sub_cancel_left, ht]
    exact ⟨hslice ▸ .bare ho hends hmin, drop_eq_cons (hr.symm.trans hrest)⟩
  · intro hrest
    have hlen : cs.length ≤ _ := List.drop_eq_nil_iff.1 (hr.symm.trans hrest)
    have heq : b + body.width = cs.length := by omega
    have hslice : slice cs b cs.length = body.text := by
      rw [slice, ht, show cs.length - b = body.width by omega]
    refine ⟨heq, fun e text hclosed => ?_, hslice ▸ .bare ho⟩
    cases hclosed with
    | quoted hq => exact absurd hq (Grouping.not_isQuoted_of_bare ho)
    | bare _ hends _ =>
      have := hmin e hends
      obtain ⟨-, ⟨c, hc, -⟩, -⟩ := hends
      have := (List.getElem?_eq_some_iff.1 hc).1
      omega

/-- **A body read at a place ends where the places say.** -/
theorem readsAt_read {o : Char} {b : Nat} (ho : isSeparator o) (hb : b ≤ cs.length) :
    ReadsAt cs o b (Body.read o (cs.drop b)) := by
  by_cases hq : (Grouping.of o).isQuoted
  · rw [Body.read_of_isQuoted hq]
    exact readsAt_quoted hq hb
  · have hbare : Grouping.of o = .bare := of_eq_bare_of_isSeparator ho hq
    rw [Body.read_of_bare hbare]
    exact readsAt_bare hbare hb

/-! ## The whole scan -/

/-- **The structured scan is a scan by positions.** The induction is on the
text that remains. -/
theorem scans_scanFrom (p : Nat) (d : Char) (hd : isSeparator d) :
    Scans cs p d (scanFrom d p (cs.drop p)).tokens (scanFrom d p (cs.drop p)).leftover := by
  rcases begins_or_all p d hd with hall | ⟨b, o, hb, ho, heq⟩
  · have hsep : ∀ c ∈ cs.drop p, isSeparator c := by
      intro c hc
      obtain ⟨i, hi⟩ := List.mem_iff_getElem?.1 hc
      rw [List.getElem?_drop] at hi
      exact hall _ c (Nat.le_add_right p i) hi
    rw [scanFrom_of_all d p hsep]
    exact .nothing hall
  · obtain ⟨c, hc, hns⟩ := hb.first
    have hlen : b < cs.length := (List.getElem?_eq_some_iff.1 hc).1
    have hrest : cs.drop b = c :: cs.drop (b + 1) := by
      rw [List.drop_eq_getElem_cons hlen, (List.getElem?_eq_some_iff.1 hc).2]
    have hread := readsAt_read ho (Nat.le_of_lt hlen)
    rw [heq]
    cases hr : (Body.read o (cs.drop b)).rest with
    | nil =>
      obtain ⟨hstop, hno, hacc⟩ := hread.unclosed hr
      have hfind : findToken o b (cs.drop b) =
          .leftover (tokenOf o b (Body.read o (cs.drop b))) := by
        rw [hrest] at hr ⊢
        exact findToken_open hns hr
      rw [scanFrom_of_leftover hfind, tokenOf, hstop]
      exact .leftover hb hno hacc
    | cons closer rest =>
      obtain ⟨hclosed, hcloser, hdrop⟩ := hread.closed closer rest hr
      have hfind : findToken o b (cs.drop b) =
          .token (tokenOf o b (Body.read o (cs.drop b))) closer rest := by
        rw [hrest] at hr ⊢
        exact findToken_closed hns hr
      rw [scanFrom_of_token hfind, tokenOf, ← hdrop]
      exact .token hb hclosed hcloser
        (scans_scanFrom _ closer (isSeparator_of_findToken ho hfind))
termination_by cs.length - p
decreasing_by
  have := hb.le
  omega

/-- The scan of a text is a scan by positions from the first place on, behind
a blank. -/
theorem scans_scan (text : String) :
    Scans text.toList 0 ' ' (scan text).tokens (scan text).leftover := by
  rw [scan_eq_scanFrom]
  exact scans_scanFrom 0 ' ' rfl

/-- **A reader reads the scan by positions, and nothing else meets it.**
From the first place on and behind a blank, the tokens are those that a
reader drains from the text, and the leftover is what it has left. -/
theorem scans_iff_scan (text : String) (tokens : List Token) (leftover : Option Token) :
    Scans text.toList 0 ' ' tokens leftover ↔ scan text = ⟨tokens, leftover⟩ := by
  constructor
  · intro h
    obtain ⟨htokens, hleftover⟩ := (scans_scan text).unique h
    rw [← htokens, ← hleftover]
  · intro heq
    have h := scans_scan text
    rwa [heq] at h

end TableStruct
