import TableStruct.Proofs.Scan.Restart
import TableStruct.Proofs.Text.LowerCase

/-!
# The scan of a lower-cased text

Lower-casing turns a character into one or two, a separator into itself and
no other character into a separator. So it goes through the scan: the
tokens of the lower-cased text are the tokens of the text with their texts
lower-cased and their places moved (`scan_lowerCase`). A body is read in
the same way character for character (`Body.read_lowerEach`), the search
finds the same token (`findToken_lowerEach`), and the scan goes on behind
it (`scanFrom_lowerEach`).

A capital sigma is lower-cased by what stands around it, which is not the
same in a token as in the whole text, so the text has none.
-/

namespace TableStruct

open Text

/-- Where a place of a text lies once the text is lower-cased. A dotted
capital I before it takes one place more. -/
def lowerPlace (cs : List Char) (n : Nat) : Nat :=
  n + (cs.take n).count 'İ'

theorem lowerPlace_append_add (before cs : List Char) {n : Nat} (h : n ≤ cs.length) :
    lowerPlace (before ++ cs) (before.length + n) =
      (lowerEach before).length + (lowerEach (cs.take n)).length := by
  have htake : (before ++ cs).take (before.length + n) = before ++ cs.take n :=
    List.take_length_add_append n
  rw [lowerPlace, htake, List.count_append, length_lowerEach, length_lowerEach, List.length_take,
    Nat.min_eq_left h]
  omega

theorem lowerPlace_append (before cs : List Char) :
    lowerPlace (before ++ cs) before.length = (lowerEach before).length :=
  lowerPlace_append_add before cs (Nat.zero_le _)

/-! ## Bodies -/

namespace Body

/-- Several characters of text in front. -/
def prepend (ds : List Char) (b : Body) : Body :=
  ⟨ds ++ b.text, ds.length + b.width, b.rest⟩

theorem prepend_nil (b : Body) : prepend [] b = b := by
  simp [prepend]

theorem prepend_cons (d : Char) (ds : List Char) (b : Body) :
    prepend (d :: ds) b = (prepend ds b).push d 1 := by
  simp [prepend, push, Nat.add_assoc, Nat.add_comm]

/-- A body read from a text, once the text is lower-cased. -/
def lowered (cs : List Char) (b : Body) : Body :=
  ⟨lowerEach b.text, (lowerEach (cs.take b.width)).length, lowerEach b.rest⟩

theorem lowered_push (c : Char) (cs : List Char) (b : Body) :
    (b.push c 1).lowered (c :: cs) = (b.lowered cs).prepend (lowerChar c) := by
  simp [lowered, push, prepend, Nat.add_comm 1]

theorem lowered_push_pair {quote : Char} (hq : lowerChar quote = [quote]) (cs : List Char)
    (b : Body) : (b.push quote 2).lowered (quote :: quote :: cs) = (b.lowered cs).push quote 2 := by
  have htake : (quote :: quote :: cs).take (2 + b.width) = quote :: quote :: cs.take b.width := by
    rw [Nat.add_comm]
    rfl
  simp only [lowered, push, htake, lowerEach_cons, hq, List.singleton_append, List.length_cons,
    Body.mk.injEq, true_and, and_true]
  omega

/-- Text inside a bare word is read into it. -/
theorem bare_append {after : Bool} {ds : List Char} (hds : ∀ d ∈ ds, isSeparator d = false)
    (hne : ds ≠ []) (cs : List Char) : bare after (ds ++ cs) = (bare false cs).prepend ds := by
  induction ds generalizing after with
  | nil => exact absurd rfl hne
  | cons d ds ih =>
    have hd : isSeparator d = false := hds d List.mem_cons_self
    have hother : (Grouping.of d == .bare) = false := by
      rw [not_isSeparator_iff.1 hd]
      rfl
    rw [List.cons_append, bare, hother, Bool.and_false, if_neg Bool.false_ne_true, hd, prepend_cons]
    cases ds with
    | nil => rw [prepend_nil, List.nil_append]
    | cons e ds =>
      rw [ih (fun x hx => hds x (List.mem_cons_of_mem _ hx)) (List.cons_ne_nil _ _)]

/-- Text other than the quote is read into a quoted body. -/
theorem quoted_append {quote : Char} {ds : List Char} (hds : ∀ d ∈ ds, d ≠ quote)
    (cs : List Char) : quoted quote (ds ++ cs) = (quoted quote cs).prepend ds := by
  induction ds with
  | nil => rw [prepend_nil, List.nil_append]
  | cons d ds ih =>
    rw [List.cons_append, quoted_cons_of_ne (hds d List.mem_cons_self), prepend_cons,
      ih fun x hx => hds x (List.mem_cons_of_mem _ hx)]

/-- **A bare word of a lower-cased text** is the word lower-cased. -/
theorem bare_lowerEach (after : Bool) (cs : List Char) :
    bare after (lowerEach cs) = (bare after cs).lowered cs := by
  induction cs generalizing after with
  | nil => rfl
  | cons c cs ih =>
    by_cases hc : isSeparator c
    · have hlower : lowerEach (c :: cs) = c :: lowerEach cs := by
        rw [lowerEach_cons, lowerChar_of_isSeparator hc]
        rfl
      rw [hlower, bare, bare]
      split
      · simp [lowered, lowerChar_of_isSeparator hc]
      · rw [lowered_push, ih, lowerChar_of_isSeparator hc, prepend_cons, prepend_nil]
    · have hc' : isSeparator c = false := by simpa using hc
      have hds : ∀ d ∈ lowerChar c, isSeparator d = false := fun d hd => by
        rw [isSeparator_of_mem_lowerChar hd, hc']
      have hself : bare after (c :: cs) = (bare false cs).push c 1 := by
        have hone : bare after ([c] ++ cs) = (bare false cs).prepend [c] :=
          bare_append (by simpa using hc') (List.cons_ne_nil _ _) cs
        rwa [prepend_cons, prepend_nil] at hone
      rw [lowerEach_cons, bare_append hds (lowerChar_ne_nil c), ih, hself, lowered_push]

/-- **A quoted body of a lower-cased text** is the body lower-cased. The
induction takes a doubled quote as one step. -/
theorem quoted_lowerEach {quote : Char} (hq : isSeparator quote) (cs : List Char) :
    quoted quote (lowerEach cs) = (quoted quote cs).lowered cs := by
  have hlower : lowerChar quote = [quote] := lowerChar_of_isSeparator hq
  match cs with
  | [] => rfl
  | c :: cs =>
    by_cases hc : c = quote
    · subst hc
      rw [lowerEach_cons, hlower, List.singleton_append]
      by_cases hd : cs.head? = some c
      · obtain ⟨ds, rfl⟩ := List.head?_eq_some_iff.1 hd
        rw [lowerEach_cons, hlower, List.singleton_append, quoted_pair, quoted_pair,
          lowered_push_pair hlower, quoted_lowerEach hq ds]
      · have hd' : (lowerEach cs).head? ≠ some c := by
          intro hhead
          cases cs with
          | nil => cases hhead
          | cons d ds =>
            -- what begins the lower case of `d` is the quote, so `d` is a separator itself
            obtain ⟨e, es, he⟩ := List.exists_cons_of_ne_nil (lowerChar_ne_nil d)
            obtain rfl : e = c := by simpa [he] using hhead
            have hsep : isSeparator d := by
              rw [← isSeparator_of_mem_lowerChar (by rw [he]; exact List.mem_cons_self)]
              exact hq
            rw [lowerChar_of_isSeparator hsep] at he
            exact hd (congrArg _ (List.cons.inj he).1)
        rw [quoted_of_head?_ne hd, quoted_of_head?_ne hd']
        simp [lowered, hlower]
    · have hds : ∀ d ∈ lowerChar c, d ≠ quote := by
        rintro d hd rfl
        have hsep : isSeparator c := by rw [← isSeparator_of_mem_lowerChar hd]; exact hq
        rw [lowerChar_of_isSeparator hsep] at hd
        exact hc (List.mem_singleton.1 hd).symm
      rw [lowerEach_cons, quoted_append hds, quoted_cons_of_ne hc, lowered_push,
        quoted_lowerEach hq cs]
termination_by cs.length

variable {opener : Char}

/-- **A body of a lower-cased text**, whatever opens it. -/
theorem read_lowerEach (ho : isSeparator opener) (cs : List Char) :
    read opener (lowerEach cs) = (read opener cs).lowered cs := by
  by_cases hq : (Grouping.of opener).isQuoted
  · rw [read_of_isQuoted hq, read_of_isQuoted hq, quoted_lowerEach ho]
  · have hb := of_eq_bare_of_isSeparator ho hq
    rw [read_of_bare hb, read_of_bare hb, bare_lowerEach]

/-- Reading a quoted body leaves characters out, and nothing more. -/
theorem text_quoted_sublist (quote : Char) (cs : List Char) :
    List.Sublist (quoted quote cs).text cs := by
  fun_induction quoted quote cs with
  | case1 => exact .slnil
  | case2 => exact List.nil_sublist _
  | case3 => exact .refl _
  | case4 _ ih => exact (ih.cons _).cons_cons _
  | case5 => exact List.nil_sublist _
  | case6 _ _ _ _ ih => exact ih.cons_cons _

/-- So does reading any body. -/
theorem text_read_sublist (ho : isSeparator opener) (cs : List Char) :
    List.Sublist (read opener cs).text cs := by
  by_cases hq : (Grouping.of opener).isQuoted
  · rw [read_of_isQuoted hq]
    exact text_quoted_sublist opener cs
  · rw [read_of_bare (of_eq_bare_of_isSeparator ho hq), text_bare]
    exact List.take_sublist _ _

end Body

/-! ## Tokens -/

/-- A token of a text, once the text is lower-cased. -/
def Token.lowered (cs : List Char) (t : Token) : Token :=
  ⟨t.grouping, lowerCase t.text, ⟨lowerPlace cs t.span.start, lowerPlace cs t.span.stop⟩⟩

/-- What is found in a text, once the text is lower-cased. -/
def Found.lowered (cs : List Char) : Found → Found
  | .token t closer rest => .token (t.lowered cs) closer (lowerEach rest)
  | .leftover t => .leftover (t.lowered cs)
  | .nothing => .nothing

/-- The scan of a text, once the text is lower-cased. -/
def Scan.lowered (cs : List Char) (s : Scan) : Scan :=
  ⟨s.tokens.map (Token.lowered cs), s.leftover.map (Token.lowered cs)⟩

/-- The token that a body makes in the lower-cased text, its place counted
from the front. -/
theorem lowered_tokenOf {opener : Char} (ho : isSeparator opener) (before cs : List Char)
    (hs : 'Σ' ∉ cs) :
    (tokenOf opener before.length (Body.read opener cs)).lowered (before ++ cs) =
      tokenOf opener (lowerEach before).length (Body.read opener (lowerEach cs)) := by
  have htext : 'Σ' ∉ (Body.read opener cs).text := fun h =>
    hs ((Body.text_read_sublist ho cs).mem h)
  simp only [tokenOf, Token.lowered, lowerCase, String.toList_ofList, lower_eq_lowerEach htext,
    lowerPlace_append, lowerPlace_append_add before cs (Body.rest_read ho cs).2,
    Body.read_lowerEach ho, Body.lowered]

/-- **The search finds the same token in the lower-cased text.** -/
theorem findToken_lowerEach {opener : Char} (ho : isSeparator opener) (before cs : List Char)
    (hs : 'Σ' ∉ cs) :
    findToken opener (lowerEach before).length (lowerEach cs) =
      (findToken opener before.length cs).lowered (before ++ cs) := by
  induction cs generalizing opener before with
  | nil => rfl
  | cons c cs ih =>
    by_cases hc : isSeparator c
    · have hstep := ih hc (before ++ [c]) (fun h => hs (List.mem_cons_of_mem _ h))
      rw [List.append_assoc, List.singleton_append, lowerEach_append, List.length_append,
        List.length_append, lowerEach_cons, lowerChar_of_isSeparator hc] at hstep
      rw [findToken_skip _ _ hc, lowerEach_cons, lowerChar_of_isSeparator hc, List.singleton_append,
        findToken_skip _ _ hc]
      exact hstep
    · have hc' : isSeparator c = false := by simpa using hc
      have htoken := lowered_tokenOf ho before (c :: cs) hs
      have hbody := Body.read_lowerEach ho (c :: cs)
      obtain ⟨d, ds, hd⟩ := List.exists_cons_of_ne_nil (lowerChar_ne_nil c)
      have hlower : lowerEach (c :: cs) = d :: (ds ++ lowerEach cs) := by
        rw [lowerEach_cons, hd, List.cons_append]
      have hd' : isSeparator d = false := by
        rw [isSeparator_of_mem_lowerChar (by rw [hd]; exact List.mem_cons_self), hc']
      cases hr : (Body.read opener (c :: cs)).rest with
      | nil =>
        rw [findToken_open hc' hr, Found.lowered, htoken]
        rw [Body.lowered, hr, hlower] at hbody
        rw [hlower]
        exact findToken_open hd' (by rw [hbody]; rfl)
      | cons closer rest =>
        have hcloser : isSeparator closer :=
          isSeparator_of_of_eq ho (Body.of_eq_of_rest_read hr)
        rw [findToken_closed hc' hr, Found.lowered, htoken]
        rw [Body.lowered, hr, hlower, lowerEach_cons, lowerChar_of_isSeparator hcloser] at hbody
        rw [hlower]
        exact findToken_closed hd' (by rw [hbody]; rfl)

/-- **The scan of the lower-cased text, from a place on.** -/
theorem scanFrom_lowerEach {opener : Char} (ho : isSeparator opener) (before cs : List Char)
    (hs : 'Σ' ∉ cs) :
    scanFrom opener (lowerEach before).length (lowerEach cs) =
      (scanFrom opener before.length cs).lowered (before ++ cs) := by
  have hfind := findToken_lowerEach ho before cs hs
  cases hf : findToken opener before.length cs with
  | nothing =>
    rw [hf] at hfind
    rw [scanFrom_of_nothing hf, scanFrom_of_nothing hfind]
    rfl
  | leftover t =>
    rw [hf] at hfind
    rw [scanFrom_of_leftover hf, scanFrom_of_leftover hfind]
    rfl
  | token t closer rest =>
    rw [hf] at hfind
    obtain ⟨used, rfl, hstop, -⟩ := exists_of_findToken ho hf
    have hcloser : isSeparator closer := isSeparator_of_findToken ho hf
    have hsplit : before ++ used ++ [closer] ++ rest = before ++ (used ++ closer :: rest) := by
      simp
    have hlen : t.span.stop + 1 = (before ++ used ++ [closer]).length := by
      rw [List.length_append, List.length_append, hstop]
      rfl
    have hplace : lowerPlace (before ++ (used ++ closer :: rest)) t.span.stop + 1 =
        (lowerEach (before ++ used ++ [closer])).length := by
      rw [hstop, lowerPlace_append_add before _ (by simp), List.take_left, lowerEach_append,
        lowerEach_append, List.length_append, List.length_append, lowerEach_cons,
        lowerChar_of_isSeparator hcloser]
      rfl
    -- the scan goes on behind the closing delimiter, in the rest of the same text
    have hmore := scanFrom_lowerEach hcloser (before ++ used ++ [closer]) rest
      fun h => hs (List.mem_append_right _ (List.mem_cons_of_mem _ h))
    rw [scanFrom_of_token hf, scanFrom_of_token hfind]
    simp only [Token.lowered]
    rw [hplace, hmore, hsplit, hlen]
    rfl
termination_by cs.length
decreasing_by
  rw [‹cs = _›]
  exact length_rest_of_findToken hf

/-- **The scan of a lower-cased text** is the scan of the text with the
texts of its tokens lower-cased, each standing as far on as dotted capitals
before it take one place more. -/
theorem scan_lowerCase {s : String} (hs : 'Σ' ∉ s.toList) :
    scan (lowerCase s) = (scan s).lowered s.toList := by
  have hspace : isSeparator ' ' := rfl
  have h := scanFrom_lowerEach hspace [] s.toList hs
  rw [scan_eq_scanFrom, scan_eq_scanFrom, lowerCase, String.toList_ofList, lower_eq_lowerEach hs]
  exact h

end TableStruct
