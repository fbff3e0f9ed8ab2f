import TableStruct.Proofs.Scan.Agreement

/-!
# Reading a text request by request

A reader may be asked for the next token, for all that remain, whether it
has read the whole text and for what the end left open, in any order and any
number of times. `Ahead` is what it has before it: the tokens to come and
then the end, or nothing once it has met the end. Each request takes its
answer off the front of that (`Ahead.serve`), so that the answers together
are the scan of the text, piece by piece (`answers_ofString`).

That the whole text has been read can be seen before the end is met, where
the last delimiter is the last character. What is left open is known only
when the end is met.
-/

namespace TableStruct

namespace Reader

/-- What a reader can be asked for. -/
inductive Request where
  /-- The next token. -/
  | next
  /-- The next token, as an iteration asks for it. -/
  | iter
  /-- All the tokens that remain. -/
  | tokenize
  /-- Whether the whole text has been read. -/
  | exhausted
  /-- The token that the end of the text left open. -/
  | unterminated
  deriving DecidableEq, Repr

/-- What a reader answers. -/
inductive Answer where
  /-- The next token, if there is one. -/
  | token (t : Option Token)
  /-- The tokens that remained. -/
  | tokens (ts : List Token)
  | exhausted (whole : Bool)
  | unterminated (t : Option Token)
  deriving DecidableEq, Repr

namespace Answer

/-- The tokens that an answer hands out. -/
def read : Answer → List Token
  | token t => t.toList
  | tokens ts => ts
  | exhausted _ | unterminated _ => []

/-- The answer shows that no tokens remain. -/
def ends : Answer → Bool
  | token t => t.isNone
  | tokens _ => true
  | exhausted _ | unterminated _ => false

/-- The answer is as it should be, `ended` telling whether an earlier one
showed the end of a text that leaves `leftover` open. Before that nothing is
known to be left open; from then on all answers are settled. -/
def Suits (leftover : Option Token) (ended : Bool) : Answer → Prop
  | token t => ended → t = none
  | tokens ts => ended → ts = []
  | exhausted whole => ended → whole
  | unterminated t => t = if ended then leftover else none

end Answer

/-- The answer to a request, and the reader after it. -/
def serve (r : Reader) : Request → Answer × Reader
  | .next | .iter => (.token r.next.1, r.next.2)
  | .tokenize => (.tokens r.drain.1, r.drain.2)
  | .exhausted => (.exhausted r.exhausted, r)
  | .unterminated => (.unterminated r.leftover, r)

/-- The answers to one request after the other. -/
def answers (r : Reader) : List Request → List Answer
  | [] => []
  | q :: qs => (r.serve q).1 :: answers (r.serve q).2 qs

/-- What a reader has before it: some tokens and then the end, which leaves
`leftover` open, or nothing once it has met the end. -/
inductive Ahead (r : Reader) (leftover : Option Token) : Bool → List Token → Prop
  /-- It stands behind a separator, and the rest of the text is to be
  scanned. -/
  | early {todo : List Token} : isSeparator r.previous → r.leftover = none →
      scanFrom r.previous r.position r.rest = ⟨todo, leftover⟩ → Ahead r leftover false todo
  | ended : r.rest = [] → r.leftover = leftover → Ahead r leftover true []

variable {r r' : Reader} {leftover : Option Token} {ended : Bool} {todo : List Token} {t : Token}

/-- A reader at the beginning of a text has its scan before it. -/
theorem ahead_ofString (text : String) :
    (ofString text).Ahead (scan text).leftover false (scan text).tokens := by
  refine .early rfl rfl ?_
  rw [scan_eq_scanFrom]
  rfl

/-! ## One request -/

/-- At the end there is no next token, and nothing changes. -/
theorem next_of_rest_nil (h : r.rest = []) : r.next = (none, r) := by
  obtain ⟨previous, active, position, rest, leftover⟩ := r
  obtain rfl : rest = [] := h
  simp [next, readOn]

theorem drain_of_next_none (h : r.next = (none, r')) : r.drain = ([], r') := by
  rw [drain]
  split <;> simp_all

theorem drain_of_next_some (h : r.next = (some t, r')) :
    r.drain = (t :: r'.drain.1, r'.drain.2) := by
  rw [drain]
  split <;> simp_all

namespace Ahead

/-- Behind the end nothing comes. -/
theorem eq_nil_of_ended (h : r.Ahead leftover ended todo) (he : ended) : todo = [] := by
  cases h with
  | early => cases he
  | ended => rfl

theorem leftover_eq (h : r.Ahead leftover ended todo) :
    r.leftover = if ended then leftover else none := by
  cases h with
  | early _ hleftover _ => exact hleftover
  | ended _ hleftover => exact hleftover

theorem exhausted_of_ended (h : r.Ahead leftover ended todo) (he : ended) : r.exhausted := by
  cases h with
  | early => cases he
  | ended hrest _ => simp [exhausted, hrest]

/-- A reader that has read the whole text has no token before it. -/
theorem eq_nil_of_exhausted (h : r.Ahead leftover ended todo) (hr : r.exhausted) : todo = [] := by
  cases h with
  | early _ _ hscan =>
    rw [List.isEmpty_iff.1 hr, scanFrom_of_nothing rfl] at hscan
    exact (Scan.mk.inj hscan).1.symm
  | ended => rfl

/-- **The next token is the first one ahead.** Where there is none, the end
is met. -/
theorem next (h : r.Ahead leftover ended todo) :
    ∃ r', r.next = (todo.head?, r') ∧ r'.Ahead leftover todo.isEmpty todo.tail := by
  obtain ⟨previous, active, position, rest, left⟩ := r
  cases h with
  | ended hrest hleft => exact ⟨_, next_of_rest_nil hrest, .ended hrest hleft⟩
  | early hp hleft hscan =>
    obtain rfl : left = none := hleft
    have hnext := next_answers rest previous active position none hp
    dsimp only at hp hscan
    cases hf : findToken previous position rest with
    | nothing =>
      rw [scanFrom_of_nothing hf] at hscan
      rw [hf] at hnext
      cases hscan
      obtain ⟨c, grouping, stop, hnone⟩ := hnext
      exact ⟨_, hnone, .ended rfl rfl⟩
    | leftover u =>
      rw [scanFrom_of_leftover hf] at hscan
      rw [hf] at hnext
      cases hscan
      obtain ⟨c, grouping, stop, hnone⟩ := hnext
      exact ⟨_, hnone, .ended rfl rfl⟩
    | token u closer rest' =>
      rw [scanFrom_of_token hf] at hscan
      rw [hf] at hnext
      cases hscan
      exact ⟨_, hnext, .early (isSeparator_of_findToken hp hf) rfl rfl⟩

/-- All the tokens that remain are those ahead. -/
theorem drain (h : r.Ahead leftover ended todo) :
    ∃ r', r.drain = (todo, r') ∧ r'.Ahead leftover true [] := by
  induction todo generalizing r ended with
  | nil =>
    obtain ⟨r', hnext, hr'⟩ := h.next
    exact ⟨r', drain_of_next_none hnext, hr'⟩
  | cons t todo ih =>
    obtain ⟨r', hnext, hr'⟩ := h.next
    obtain ⟨r'', hdrain, hr''⟩ := ih hr'
    exact ⟨r'', by rw [drain_of_next_some hnext, hdrain], hr''⟩

/-- **What a request does.** Its answer hands out the first of the tokens
ahead, and leaves the reader before the others. -/
theorem serve (h : r.Ahead leftover ended todo) (q : Request) :
    ∃ todo', todo = (r.serve q).1.read ++ todo' ∧
      (r.serve q).2.Ahead leftover (ended || (r.serve q).1.ends) todo' ∧
      (r.serve q).1.Suits leftover ended ∧
      ((r.serve q).1 = .exhausted true → todo' = []) := by
  cases q with
  | next | iter =>
    obtain ⟨r', hnext, hr'⟩ := h.next
    refine ⟨todo.tail, ?_⟩
    cases todo with
    | nil => simpa [Reader.serve, hnext, Answer.read, Answer.ends, Answer.Suits] using hr'
    | cons t todo =>
      obtain rfl : ended = false := by
        by_contra hended
        cases h.eq_nil_of_ended (by simpa using hended)
      simpa [Reader.serve, hnext, Answer.read, Answer.ends, Answer.Suits] using hr'
  | tokenize =>
    obtain ⟨r', hdrain, hr'⟩ := h.drain
    refine ⟨[], ?_⟩
    simpa [Reader.serve, hdrain, hr', Answer.read, Answer.ends, Answer.Suits] using
      h.eq_nil_of_ended
  | exhausted =>
    refine ⟨todo, ?_⟩
    simpa [Reader.serve, h, Answer.read, Answer.ends, Answer.Suits] using
      ⟨h.exhausted_of_ended, h.eq_nil_of_exhausted⟩
  | unterminated =>
    refine ⟨todo, ?_⟩
    simpa [Reader.serve, h, Answer.read, Answer.ends, Answer.Suits] using h.leftover_eq

/-! ## Any requests -/

/-- **What is handed out was ahead**, in order, and all of it once an answer
shows the end. -/
theorem flatMap_answers (h : r.Ahead leftover ended todo) (qs : List Request) :
    (r.answers qs).flatMap Answer.read <+: todo ∧
      ((r.answers qs).any Answer.ends → (r.answers qs).flatMap Answer.read = todo) := by
  induction qs generalizing r ended todo with
  | nil => exact ⟨List.nil_prefix, nofun⟩
  | cons q qs ih =>
    obtain ⟨todo', rfl, hr', -, -⟩ := h.serve q
    obtain ⟨hfront, hall⟩ := ih hr'
    rw [answers, List.flatMap_cons, List.any_cons]
    refine ⟨(List.prefix_append_right_inj _).2 hfront, fun hends => ?_⟩
    congr 1
    by_cases hq : (r.serve q).1.ends
    · -- the end is met, so nothing is ahead, and nothing more is handed out
      rw [hq, Bool.or_true] at hr'
      obtain rfl := hr'.eq_nil_of_ended rfl
      exact List.prefix_nil.1 hfront
    · simp only [hq, Bool.false_or] at hends
      exact hall hends

/-- **Each answer suits the ones before it.** -/
theorem suits_answers (h : r.Ahead leftover ended todo) {qs : List Request}
    {before after : List Answer} {a : Answer} (hqs : r.answers qs = before ++ a :: after) :
    a.Suits leftover (ended || before.any Answer.ends) := by
  induction qs generalizing r ended todo before with
  | nil => simp [answers] at hqs
  | cons q qs ih =>
    obtain ⟨todo', -, hr', hsuits, -⟩ := h.serve q
    rw [answers] at hqs
    cases before with
    | nil =>
      obtain ⟨rfl, -⟩ := List.cons.inj hqs
      simpa using hsuits
    | cons b before =>
      obtain ⟨rfl, hmore⟩ := List.cons.inj hqs
      rw [List.any_cons, ← Bool.or_assoc]
      exact ih hr' hmore

/-- Once the whole text is known to have been read, no token is handed
out. -/
theorem flatMap_of_exhausted (h : r.Ahead leftover ended todo) {qs : List Request}
    {before after : List Answer} (hqs : r.answers qs = before ++ .exhausted true :: after) :
    after.flatMap Answer.read = [] := by
  induction qs generalizing r ended todo before with
  | nil => simp [answers] at hqs
  | cons q qs ih =>
    obtain ⟨todo', -, hr', -, hnone⟩ := h.serve q
    rw [answers] at hqs
    cases before with
    | nil =>
      obtain ⟨hq, rfl⟩ := List.cons.inj hqs
      obtain rfl := hnone hq
      exact List.prefix_nil.1 (hr'.flatMap_answers qs).1
    | cons b before => exact ih hr' (List.cons.inj hqs).2

end Ahead

end Reader

/-- **Any requests read the one scan of a text.** The tokens handed out are
the first ones of the scan, and all of them once an answer shows the end.
Each answer suits those before it: until one shows the end nothing is left
open, and from then on there is no token any more, the whole text has been
read, and what the scan leaves over is left open. Nor is a token handed out
once the whole text is known to have been read. -/
theorem answers_ofString (text : String) (qs : List Reader.Request) :
    ((Reader.ofString text).answers qs).flatMap Reader.Answer.read <+: (scan text).tokens ∧
    (((Reader.ofString text).answers qs).any Reader.Answer.ends →
      ((Reader.ofString text).answers qs).flatMap Reader.Answer.read = (scan text).tokens) ∧
    (∀ before a after, (Reader.ofString text).answers qs = before ++ a :: after →
      a.Suits (scan text).leftover (before.any Reader.Answer.ends)) ∧
    ∀ before after, (Reader.ofString text).answers qs = before ++ .exhausted true :: after →
      after.flatMap Reader.Answer.read = [] := by
  have hahead := Reader.ahead_ofString text
  obtain ⟨hfront, hall⟩ := hahead.flatMap_answers qs
  refine ⟨hfront, hall, fun before a after hqs => ?_, fun before after hqs => ?_⟩
  · have hsuits := hahead.suits_answers hqs
    rwa [Bool.false_or] at hsuits
  · exact hahead.flatMap_of_exhausted hqs

/-- The end of a text that a blank ends is met only by the request that finds
no token. -/
example : (Reader.ofString "a b ").answers
      [.next, .exhausted, .iter, .exhausted, .unterminated, .tokenize, .next] =
    [.token (some ⟨.bare, "a", ⟨0, 1⟩⟩), .exhausted false, .token (some ⟨.bare, "b", ⟨2, 3⟩⟩),
      .exhausted true, .unterminated none, .tokens [], .token none] := by
  decide +kernel

end TableStruct
