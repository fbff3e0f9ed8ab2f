import TableStruct.Proofs.Scan.Reference

/-!
# The scan before a token and behind it

Each token divides the text of a scan. The token and the ones before it are
found by what stands up to its closing delimiter, and only a quote looks one
character further, for another one that would make it a pair (`Closes`).
What comes behind is a scan of its own, wherever its text stands.

So texts that agree up to the end of a token have it in common
(`exists_tokens_of_agree`), and the scan may start anew there
(`shift_scan_drop`).
-/

namespace TableStruct

variable {opener closer : Char} {p : Nat} {cs rest : List Char} {t : Token}

/-- With `rest` behind it a delimiter is not the first of a pair of quotes,
which would close nothing. -/
def Closes (closer : Char) (rest : List Char) : Prop :=
  (Grouping.of closer).isQuoted → rest.head? ≠ some closer

theorem Closes.of_head?_eq {rest' : List Char} (h : Closes closer rest)
    (hhead : rest'.head? = rest.head?) : Closes closer rest' := by
  intro hq
  rw [hhead]
  exact h hq

/-! ## Bodies -/

namespace Body

/-- The body with something else behind it. -/
def followedBy (rest : List Char) (b : Body) : Body :=
  { b with rest := rest }

theorem bare_upTo {after : Bool} (h : (bare after cs).rest ≠ []) {c : Char}
    (hc : Grouping.of c = .bare) (rest : List Char) :
    bare after (cs.take (bare after cs).width ++ c :: rest) =
      (bare after cs).followedBy (c :: rest) := by
  induction cs generalizing after with
  | nil => exact absurd rfl h
  | cons d cs ih =>
    rw [bare] at h ⊢
    split at h
    · next hd =>
      obtain ⟨hafter, -⟩ := Bool.and_eq_true_iff.1 hd
      rw [if_pos hd, List.take_zero, List.nil_append, bare, hafter, hc]
      rfl
    · next hd =>
      have hmore : bare (isSeparator d) (cs.take (bare (isSeparator d) cs).width ++ c :: rest) =
          (bare (isSeparator d) cs).followedBy (c :: rest) := ih h
      have htake : (d :: cs).take ((bare (isSeparator d) cs).push d 1).width =
          d :: cs.take (bare (isSeparator d) cs).width := by
        rw [push, Nat.add_comm, List.take_succ_cons]
      rw [if_neg hd, htake, List.cons_append, bare, if_neg hd, hmore]
      rfl

/-- The induction takes a doubled quote as one step. -/
theorem quoted_upTo {quote : Char} (cs : List Char) (h : (quoted quote cs).rest ≠ [])
    (hrest : rest.head? ≠ some quote) :
    quoted quote (cs.take (quoted quote cs).width ++ quote :: rest) =
      (quoted quote cs).followedBy (quote :: rest) := by
  match cs with
  | [] => exact absurd rfl h
  | c :: cs =>
    by_cases hc : c = quote
    · subst hc
      by_cases hd : cs.head? = some c
      · obtain ⟨ds, rfl⟩ := List.head?_eq_some_iff.1 hd
        rw [quoted_pair] at h ⊢
        have hmore := quoted_upTo ds h hrest
        have htake : (c :: c :: ds).take ((quoted c ds).push c 2).width =
            c :: c :: ds.take (quoted c ds).width := by
          rw [push, Nat.add_comm]
          rfl
        rw [htake, List.cons_append, List.cons_append, quoted_pair, hmore]
        rfl
      · rw [quoted_of_head?_ne hd]
        exact quoted_of_head?_ne hrest
    · rw [quoted_cons_of_ne hc] at h ⊢
      have hmore := quoted_upTo cs h hrest
      have htake : (c :: cs).take ((quoted quote cs).push c 1).width =
          c :: cs.take (quoted quote cs).width := by
        rw [push, Nat.add_comm, List.take_succ_cons]
      rw [htake, List.cons_append, quoted_cons_of_ne hc, hmore]
      rfl
termination_by cs.length

/-- **A body is read up to a delimiter that closes it**, whatever stands
behind that. -/
theorem read_upTo {c : Char} (h : (read opener cs).rest ≠ [])
    (hc : Grouping.of c = Grouping.of opener) (hrest : Closes c rest) :
    read opener (cs.take (read opener cs).width ++ c :: rest) =
      (read opener cs).followedBy (c :: rest) := by
  cases hg : Grouping.of opener with
  | bare =>
    rw [read_of_bare hg] at h ⊢
    rw [read_of_bare hg]
    exact bare_upTo h (hc.trans hg) rest
  | singleQuoted | backquoted =>
    have hq : (Grouping.of opener).isQuoted := by simp [hg, Grouping.isQuoted]
    obtain rfl : c = opener := Grouping.eq_of_of_eq hq hc
    rw [read_of_isQuoted hq] at h ⊢
    rw [read_of_isQuoted hq]
    exact quoted_upTo cs h (hrest hq)
  | unclassified => exact absurd (by simp [read, hg]) h

theorem head?_ne_of_rest_quoted {quote c : Char} (h : (quoted quote cs).rest = c :: rest) :
    rest.head? ≠ some quote := by
  fun_induction quoted quote cs with
  | case5 d ds hd =>
    obtain ⟨-, rfl⟩ := List.cons.inj h
    simpa using hd
  | _ => simp_all [push]

/-- The delimiter behind a body closes. -/
theorem closes_of_rest_read {c : Char} (h : (read opener cs).rest = c :: rest) :
    Closes c rest := by
  intro hq
  obtain rfl : opener = c := Grouping.eq_of_of_eq hq (of_eq_of_rest_read h).symm
  rw [read_of_isQuoted hq] at h
  exact head?_ne_of_rest_quoted h

/-- A body is followed by what it does not span. -/
theorem rest_read (ho : isSeparator opener) (cs : List Char) :
    (read opener cs).rest = cs.drop (read opener cs).width ∧
      (read opener cs).width ≤ cs.length := by
  by_cases hq : (Grouping.of opener).isQuoted
  · have hat := quoted_at (q := opener) 0 (Nat.zero_le cs.length)
    rw [List.drop_zero, Nat.zero_add] at hat
    rw [read_of_isQuoted hq]
    exact ⟨hat.2.1, hat.2.2.1⟩
  · rw [read_of_bare (of_eq_bare_of_isSeparator ho hq)]
    exact ⟨rest_bare true cs, width_bare_le true cs⟩

/-- What a body spans stands in front of its closing delimiter. -/
theorem eq_take_append {c : Char} (ho : isSeparator opener)
    (h : (read opener cs).rest = c :: rest) :
    cs = cs.take (read opener cs).width ++ c :: rest ∧
      (cs.take (read opener cs).width).length = (read opener cs).width := by
  obtain ⟨hrest, hwidth⟩ := rest_read ho cs
  constructor
  · rw [← h, hrest, List.take_append_drop]
  · rw [List.length_take, Nat.min_eq_left hwidth]

end Body

/-! ## Up to a token -/

/-- **A token is found by what stands up to its closing delimiter**, whatever
stands behind that. Any delimiter of its grouping closes it. -/
theorem exists_of_findToken (ho : isSeparator opener)
    (h : findToken opener p cs = .token t closer rest) :
    ∃ used, cs = used ++ closer :: rest ∧ t.span.stop = p + used.length ∧
      t.grouping = Grouping.of closer ∧ Closes closer rest ∧
      ∀ c rest', Grouping.of c = t.grouping → Closes c rest' →
        findToken opener p (used ++ c :: rest') = .token t c rest' := by
  induction cs generalizing opener p with
  | nil => cases h
  | cons c cs ih =>
    by_cases hc : isSeparator c
    · rw [findToken_skip p cs hc] at h
      obtain ⟨used, rfl, hstop, hof, hrest, hsame⟩ := ih hc h
      refine ⟨c :: used, rfl, ?_, hof, hrest, fun d rest' hd hrest' => ?_⟩
      · rw [hstop, List.length_cons]
        omega
      · rw [List.cons_append, findToken_skip _ _ hc]
        exact hsame d rest' hd hrest'
    · have hc' : isSeparator c = false := by simpa using hc
      cases hr : (Body.read opener (c :: cs)).rest with
      | nil =>
        rw [findToken_open hc' hr] at h
        cases h
      | cons closer' rest' =>
        rw [findToken_closed hc' hr] at h
        cases h
        obtain ⟨hsplit, hlen⟩ := Body.eq_take_append ho hr
        have hof := Body.of_eq_of_rest_read hr
        have hsep : isSeparator closer := isSeparator_of_of_eq ho hof
        refine ⟨_, hsplit, by rw [hlen]; rfl, hof.symm, Body.closes_of_rest_read hr,
          fun d rest' hd hrest' => ?_⟩
        have hread := Body.read_upTo (by rw [hr]; exact List.cons_ne_nil _ _) hd hrest'
        -- the body has a first character, so the token begins with it again
        cases hused : (c :: cs).take (Body.read opener (c :: cs)).width with
        | nil =>
          rw [hused, List.nil_append] at hsplit
          obtain ⟨rfl, -⟩ := List.cons.inj hsplit
          simp [hsep] at hc'
        | cons u used =>
          rw [hused, List.cons_append] at hsplit
          obtain ⟨rfl, -⟩ := List.cons.inj hsplit
          rw [hused, List.cons_append] at hread
          rw [List.cons_append, findToken_closed hc' (by rw [hread]; rfl), hread]
          rfl

/-- **A token and the ones before it are found by what stands up to its
closing delimiter**, and the scan of what stands behind goes on from
there. -/
theorem exists_of_scanFrom {before after : List Token} {leftover : Option Token}
    (ho : isSeparator opener) (h : scanFrom opener p cs = ⟨before ++ t :: after, leftover⟩) :
    ∃ used closer rest, cs = used ++ closer :: rest ∧ t.span.stop = p + used.length ∧
      t.grouping = Grouping.of closer ∧ isSeparator closer ∧ Closes closer rest ∧
      ∀ rest', Closes closer rest' → scanFrom opener p (used ++ closer :: rest') =
        ⟨before ++ t :: (scanFrom closer (t.span.stop + 1) rest').tokens,
          (scanFrom closer (t.span.stop + 1) rest').leftover⟩ := by
  induction before generalizing opener p cs with
  | nil =>
    obtain ⟨closer, rest, hf, -⟩ := exists_of_scanFrom_cons h
    obtain ⟨used, rfl, hstop, hof, hrest, hsame⟩ := exists_of_findToken ho hf
    exact ⟨used, closer, rest, rfl, hstop, hof, isSeparator_of_findToken ho hf, hrest,
      fun rest' hrest' => scanFrom_of_token (hsame closer rest' hof.symm hrest')⟩
  | cons u before ih =>
    obtain ⟨c, rest, hf, hmore⟩ := exists_of_scanFrom_cons h
    obtain ⟨used, rfl, hstop, hofc, hrest, hsame⟩ := exists_of_findToken ho hf
    obtain ⟨used', closer, rest', rfl, hstop', hof, hcloser, hrest', hmore'⟩ :=
      ih (isSeparator_of_findToken ho hf) hmore
    refine ⟨used ++ c :: used', closer, rest', by simp, ?_, hof, hcloser, hrest',
      fun tail htail => ?_⟩
    · rw [hstop', hstop, List.length_append, List.length_cons]
      omega
    · -- behind the first token stands the same character, so that its delimiter closes it again
      have hhead : (used' ++ closer :: tail).head? = (used' ++ closer :: rest').head? := by
        cases used' <;> rfl
      rw [List.append_assoc, List.cons_append,
        scanFrom_of_token (hsame c _ hofc.symm (hrest.of_head?_eq hhead)), hmore' tail htail]
      rfl

variable {s : String} {before after : List Token}

/-- A token of a text, and the text before and behind it. -/
theorem exists_of_scan (h : (scan s).tokens = before ++ t :: after) :
    ∃ used closer rest, s.toList = used ++ closer :: rest ∧ t.span.stop = used.length ∧
      t.grouping = Grouping.of closer ∧ isSeparator closer ∧ Closes closer rest ∧
      ∀ s' rest', s'.toList = used ++ closer :: rest' → Closes closer rest' →
        scan s' = ⟨before ++ t :: (scanFrom closer (t.span.stop + 1) rest').tokens,
          (scanFrom closer (t.span.stop + 1) rest').leftover⟩ := by
  have hscan : scanFrom ' ' 0 s.toList = ⟨before ++ t :: after, (scan s).leftover⟩ := by
    rw [← h, scan_eq_scanFrom]
  obtain ⟨used, closer, rest, htext, hstop, hof, hcloser, hrest, hsame⟩ :=
    exists_of_scanFrom rfl hscan
  rw [Nat.zero_add] at hstop
  refine ⟨used, closer, rest, htext, hstop, hof, hcloser, hrest, fun s' rest' hs' hrest' => ?_⟩
  rw [scan_eq_scanFrom, hs', hsame rest' hrest']

/-- **Texts that agree up to the end of a token have it in common**, and the
ones before it, if a quote that closes it closes in both. -/
theorem exists_tokens_of_agree {s' : String} (h : (scan s).tokens = before ++ t :: after)
    (hsame : ∀ i ≤ t.span.stop, s'.toList[i]? = s.toList[i]?)
    (hnext : t.grouping.isQuoted → s'.toList[t.span.stop + 1]? ≠ s.toList[t.span.stop]?) :
    ∃ after', (scan s').tokens = before ++ t :: after' := by
  obtain ⟨used, closer, rest, htext, hstop, hof, -, -, hscan⟩ := exists_of_scan h
  have hcloser : s.toList[t.span.stop]? = some closer := by
    rw [htext, hstop, List.getElem?_append_right (Nat.le_refl _), Nat.sub_self]
    rfl
  have htake : s'.toList.take (t.span.stop + 1) = used ++ [closer] := by
    have hagree : s'.toList.take (t.span.stop + 1) = s.toList.take (t.span.stop + 1) := by
      apply List.ext_getElem?
      intro i
      rw [List.getElem?_take, List.getElem?_take]
      split
      · next hi => exact hsame i (by omega)
      · rfl
    rw [hagree, htext, hstop, List.take_length_add_append]
    rfl
  have hs' : s'.toList = used ++ closer :: s'.toList.drop (t.span.stop + 1) := by
    conv_lhs => rw [← List.take_append_drop (t.span.stop + 1) s'.toList, htake]
    simp
  have hcloses : Closes closer (s'.toList.drop (t.span.stop + 1)) := by
    intro hq
    rw [List.head?_drop, ← hcloser]
    exact hnext (by rwa [hof])
  exact ⟨_, congrArg Scan.tokens (hscan s' _ hs' hcloses)⟩

/-! ## Behind a token -/

/-- The stretch, `k` characters further on. -/
def Span.shift (k : Nat) (s : Span) : Span :=
  ⟨s.start + k, s.stop + k⟩

/-- The token, `k` characters further on. -/
def Token.shift (k : Nat) (t : Token) : Token :=
  { t with span := t.span.shift k }

/-- What a search finds, `k` characters further on. -/
def Found.shift (k : Nat) : Found → Found
  | .token t closer rest => .token (t.shift k) closer rest
  | .leftover t => .leftover (t.shift k)
  | .nothing => .nothing

/-- The scan, `k` characters further on. -/
def Scan.shift (k : Nat) (s : Scan) : Scan :=
  ⟨s.tokens.map (Token.shift k), s.leftover.map (Token.shift k)⟩

theorem tokenOf_shift (opener : Char) (p k : Nat) (body : Body) :
    tokenOf opener (p + k) body = (tokenOf opener p body).shift k := by
  simp only [tokenOf, Token.shift, Span.shift, Nat.add_right_comm p k]

/-- **A search finds the same wherever its text stands.** -/
theorem findToken_shift (opener : Char) (p k : Nat) (cs : List Char) :
    findToken opener (p + k) cs = (findToken opener p cs).shift k := by
  induction cs generalizing opener p with
  | nil => rfl
  | cons c cs ih =>
    by_cases hc : isSeparator c
    · rw [findToken_skip _ _ hc, findToken_skip _ _ hc, Nat.add_right_comm]
      exact ih c (p + 1)
    · have hc' : isSeparator c = false := by simpa using hc
      cases hr : (Body.read opener (c :: cs)).rest with
      | nil =>
        rw [findToken_open hc' hr, findToken_open hc' hr, tokenOf_shift]
        rfl
      | cons closer rest =>
        rw [findToken_closed hc' hr, findToken_closed hc' hr, tokenOf_shift]
        rfl

/-- **So does a scan.** -/
theorem scanFrom_shift (opener : Char) (p k : Nat) (cs : List Char) :
    scanFrom opener (p + k) cs = (scanFrom opener p cs).shift k := by
  have hfind := findToken_shift opener p k cs
  cases hf : findToken opener p cs with
  | nothing =>
    rw [hf] at hfind
    rw [scanFrom_of_nothing hf, scanFrom_of_nothing hfind]
    rfl
  | leftover t =>
    rw [hf] at hfind
    rw [scanFrom_of_leftover hf, scanFrom_of_leftover hfind]
    rfl
  | token t closer rest =>
    rw [hf] at hfind
    have hmore := scanFrom_shift closer (t.span.stop + 1) k rest
    rw [Nat.add_right_comm] at hmore
    rw [scanFrom_of_token hf, scanFrom_of_token hfind]
    simp only [Token.shift, Span.shift]
    rw [hmore]
    rfl
termination_by cs.length
decreasing_by exact length_rest_of_findToken hf

/-- **The scan may start anew at the end of each token.** From its closing
delimiter on, the text scanned by itself has the tokens that follow and the
leftover, as many places further on as the text in front takes. -/
theorem shift_scan_drop (h : (scan s).tokens = before ++ t :: after) :
    (scan (String.ofList (s.toList.drop t.span.stop))).shift t.span.stop =
      ⟨after, (scan s).leftover⟩ := by
  obtain ⟨used, closer, rest, htext, hstop, -, hcloser, hrest, hscan⟩ := exists_of_scan h
  have hs := hscan s rest htext hrest
  have hafter : after = (scanFrom closer (t.span.stop + 1) rest).tokens := by
    rw [hs] at h
    exact (List.cons.inj (List.append_cancel_left h)).2.symm
  have hdrop : s.toList.drop t.span.stop = closer :: rest := by
    rw [htext, hstop, List.drop_left]
  rw [scan_eq_scanFrom, String.toList_ofList, hdrop, scanFrom_skip hcloser, ← scanFrom_shift,
    Nat.zero_add, Nat.add_comm, hafter, hs]

/-- Tokens of three groupings, an open one behind them, and more than one
delimiter between. -/
def glued : String :=
  "k (\x60a\x60\x60b\x60'c, d'(e) \x60\x60f"

theorem shift_scan_drop_glued :
    (scan glued).tokens = [⟨.bare, "k", ⟨0, 1⟩⟩, ⟨.backquoted, "a\x60b", ⟨4, 8⟩⟩] ++
      ⟨.singleQuoted, "c, d", ⟨10, 14⟩⟩ :: [⟨.bare, "e", ⟨16, 17⟩⟩] ∧
    (scan (String.ofList (glued.toList.drop 14))).shift 14 =
      ⟨[⟨.bare, "e", ⟨16, 17⟩⟩], some ⟨.backquoted, "f", ⟨21, 22⟩⟩⟩ := by
  have htokens : (scan glued).tokens =
      [⟨.bare, "k", ⟨0, 1⟩⟩, ⟨.backquoted, "a\x60b", ⟨4, 8⟩⟩] ++
        ⟨.singleQuoted, "c, d", ⟨10, 14⟩⟩ :: [⟨.bare, "e", ⟨16, 17⟩⟩] := by decide +kernel
  have hleftover : (scan glued).leftover = some ⟨.backquoted, "f", ⟨21, 22⟩⟩ := by decide +kernel
  refine ⟨htokens, ?_⟩
  rw [← hleftover]
  exact shift_scan_drop htokens

end TableStruct
