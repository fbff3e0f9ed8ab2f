import TableStruct.Statement
import Mathlib.Data.List.Basic

/-!
# Comments in front of a source text

A source text is cut at its semicolons before anything else is looked at,
and the comments at the front of each fragment are dropped. So a comment in
front of a source text is not seen, nor is a row of comments
(`ofSource_comments`), if no semicolon is in it. One that has a semicolon is
cut there like any other text: what stands before the semicolon is an open
comment and no statement, and what stands behind it begins the next
fragment.

The two ends of a fragment are trimmed and its comments dropped in one
equation (`body_eq`), from which a comment in front is read off.
-/

namespace TableStruct

namespace Statement

open Text

/-! ## Fragments without their comments -/

theorem afterLine_trimEnd (cs : List Char) : afterLine (trimEnd cs) = trimEnd (afterLine cs) := by
  induction cs with
  | nil => rfl
  | cons c cs ih =>
    by_cases hc : c = '\n'
    · subst hc
      rw [afterLine, if_pos rfl]
      by_cases hnil : trimEnd cs = []
      · rw [trimEnd_cons_of_nil hnil, hnil]
        rfl
      · rw [trimEnd_cons_of_ne_nil hnil, afterLine, if_pos rfl]
    · rw [afterLine, if_neg hc, ← ih]
      by_cases hnil : trimEnd cs = []
      · rw [trimEnd_cons_of_nil hnil, hnil]
        split
        · rfl
        · simp [afterLine, hc]
      · rw [trimEnd_cons_of_ne_nil hnil, afterLine, if_neg hc]

theorem afterBlock_cons {c : Char} {cs : List Char} (h : ¬ (c = '*' ∧ cs.head? = some '/')) :
    afterBlock (c :: cs) = afterBlock cs := by
  rw [afterBlock]
  rintro rest rfl rfl
  exact h ⟨rfl, rfl⟩

theorem afterBlock_trimEnd (cs : List Char) :
    afterBlock (trimEnd cs) = trimEnd (afterBlock cs) := by
  fun_induction afterBlock cs with
  | case1 cs =>
    rw [trimEnd_cons_of_not_blank (by decide), trimEnd_cons_of_not_blank (by decide), afterBlock]
  | case2 c cs hnot ih =>
    rw [← ih]
    by_cases hnil : trimEnd cs = []
    · rw [trimEnd_cons_of_nil hnil, hnil]
      split
      · rfl
      · exact afterBlock_cons (by simp)
    · rw [trimEnd_cons_of_ne_nil hnil]
      refine afterBlock_cons ?_
      rintro ⟨rfl, hhead⟩
      -- a character that is left at the front of a trimmed text was there before
      obtain ⟨blanks, heq, -⟩ := exists_append_of_trimEnd cs
      obtain ⟨rest, hrest⟩ := List.head?_eq_some_iff.1 hhead
      rw [hrest, List.cons_append] at heq
      exact hnot _ rfl heq
  | case3 => rfl

/-- A text that begins with no comment is left as it is. -/
theorem dropComments_of_head {cs : List Char} (hline : ∀ rest, cs ≠ '-' :: '-' :: rest)
    (hblock : ∀ rest, cs ≠ '/' :: '*' :: rest) : dropComments cs = cs := by
  rw [dropComments]
  · exact fun rest h => hline rest h
  · exact fun rest h => hblock rest h

@[simp] theorem dropComments_nil : dropComments [] = [] :=
  dropComments_of_head (by simp) (by simp)

/-- **Comments are dropped from a trimmed text as from the text itself.**
The end of a text is trimmed before its comments are dropped, or after. -/
theorem dropComments_trimEnd (cs : List Char) :
    dropComments (trimEnd cs) = trimEnd (dropComments cs) := by
  fun_induction dropComments cs with
  | case1 cs ih =>
    rw [trimEnd_cons_of_not_blank (by decide), trimEnd_cons_of_not_blank (by decide), dropComments,
      afterLine_trimEnd, ← trimEnd_trimStart, ih]
  | case2 cs ih =>
    rw [trimEnd_cons_of_not_blank (by decide), trimEnd_cons_of_not_blank (by decide), dropComments,
      afterBlock_trimEnd, ← trimEnd_trimStart, ih]
  | case3 cs hline hblock =>
    obtain ⟨blanks, heq, -⟩ := exists_append_of_trimEnd cs
    refine dropComments_of_head ?_ ?_
    · intro rest hrest
      rw [hrest] at heq
      exact hline _ heq
    · intro rest hrest
      rw [hrest] at heq
      exact hblock _ heq

/-- **What is left of a fragment**, its end trimmed last. -/
theorem body_eq (fragment : List Char) :
    body fragment = trimEnd (dropComments (trimStart fragment)) := by
  rw [body, trim, dropComments_trimEnd]

/-! ## Comments -/

/-- A comment as it is written. -/
inductive Comment where
  /-- From two hyphens to the end of the line. -/
  | line (inside : List Char)
  /-- From `/*` to the next `*/`. -/
  | block (inside : List Char)
  deriving DecidableEq, Repr

namespace Comment

/-- What the comment says. -/
def inside : Comment → List Char
  | line inside | block inside => inside

/-- What begins the comment. -/
def opening : Comment → List Char
  | line _ => ['-', '-']
  | block _ => ['/', '*']

/-- What ends the comment. -/
def closing : Comment → List Char
  | line _ => ['\n']
  | block _ => ['*', '/']

/-- The comment with its delimiters. -/
def text (m : Comment) : List Char :=
  m.opening ++ m.inside ++ m.closing

/-- A source text with the comment in front. -/
def before (m : Comment) (source : String) : String :=
  String.ofList (m.text ++ source.toList)

/-- Nothing inside ends the comment. -/
def IsWhole : Comment → Prop
  | line inside => '\n' ∉ inside
  | block inside => ¬ ['*', '/'] <:+: inside

instance : DecidablePred IsWhole
  | line inside => inferInstanceAs (Decidable ('\n' ∉ inside))
  | block inside => inferInstanceAs (Decidable (¬ ['*', '/'] <:+: inside))

/-- Every comment begins with a character that is not blank. -/
theorem trimStart_opening (m : Comment) (rest : List Char) :
    trimStart (m.opening ++ rest) = m.opening ++ rest := by
  cases m <;> rfl

end Comment

/-- A line without a line feed has no end. -/
theorem afterLine_of_endless {inside : List Char} (h : '\n' ∉ inside) (rest : List Char) :
    afterLine (inside ++ rest) = afterLine rest := by
  induction inside with
  | nil => rfl
  | cons c inside ih =>
    rw [List.mem_cons, not_or] at h
    rw [List.cons_append, afterLine, if_neg (Ne.symm h.1), ih h.2]

/-- A block ends behind what is inside, where that does not end it: no end
begins with the last character inside and the first one of the rest. -/
theorem afterBlock_of_endless {inside : List Char} (h : ¬ ['*', '/'] <:+: inside)
    {rest : List Char} (hrest : rest.head? ≠ some '/') :
    afterBlock (inside ++ rest) = afterBlock rest := by
  induction inside with
  | nil => rfl
  | cons c inside ih =>
    have hmore : ¬ ['*', '/'] <:+: inside := fun hin => h (hin.trans (List.infix_cons_iff.2
      (.inr (List.infix_refl _))))
    rw [List.cons_append, afterBlock_cons, ih hmore]
    rintro ⟨rfl, hhead⟩
    cases inside with
    | nil => exact hrest hhead
    | cons d inside =>
      obtain rfl : d = '/' := by simpa using hhead
      exact h ⟨[], inside, rfl⟩

namespace Comment

/-- What follows the end of a comment of this kind, or nothing. -/
def after : Comment → List Char → List Char
  | line _ => afterLine
  | block _ => afterBlock

/-- A whole comment ends behind what is inside. -/
theorem after_inside {m : Comment} (hm : m.IsWhole) (rest : List Char) :
    m.after (m.inside ++ (m.closing ++ rest)) = rest := by
  cases m with
  | line inside =>
    show afterLine (inside ++ '\n' :: rest) = rest
    rw [afterLine_of_endless hm, afterLine, if_pos rfl]
  | block inside =>
    show afterBlock (inside ++ '*' :: '/' :: rest) = rest
    rw [afterBlock_of_endless hm (by simp), afterBlock]

/-- No part of what is inside ends a whole comment. -/
theorem after_part {m : Comment} (hm : m.IsWhole) {front back : List Char}
    (h : m.inside = front ++ back) : m.after front = [] := by
  cases m with
  | line inside =>
    obtain rfl : inside = front ++ back := h
    have hfront : '\n' ∉ front := fun hmem => hm (List.mem_append_left _ hmem)
    have hafter := afterLine_of_endless hfront []
    rwa [List.append_nil] at hafter
  | block inside =>
    obtain rfl : inside = front ++ back := h
    have hfront : ¬ ['*', '/'] <:+: front := fun hin =>
      hm (hin.trans (List.prefix_append _ _).isInfix)
    have hempty : ([] : List Char).head? ≠ some '/' := by simp
    have hafter := afterBlock_of_endless hfront hempty
    rwa [List.append_nil] at hafter

end Comment

theorem dropComments_opening (m : Comment) (cs : List Char) :
    dropComments (m.opening ++ cs) = dropComments (trimStart (m.after cs)) := by
  cases m with
  | line inside =>
    rw [Comment.opening, List.cons_append, List.singleton_append, dropComments]
    rfl
  | block inside =>
    rw [Comment.opening, List.cons_append, List.singleton_append, dropComments]
    rfl

/-- **A whole comment in front of a fragment is dropped.** -/
theorem body_text {m : Comment} (hm : m.IsWhole) (fragment : List Char) :
    body (m.text ++ fragment) = body fragment := by
  rw [body_eq, body_eq, Comment.text, List.append_assoc, List.append_assoc, m.trimStart_opening,
    dropComments_opening, Comment.after_inside hm]

/-- **A comment that does not end takes all with it.** -/
theorem body_opening {m : Comment} (hm : m.IsWhole) {front back : List Char}
    (h : m.inside = front ++ back) : body (m.opening ++ front) = [] := by
  rw [body_eq, m.trimStart_opening, dropComments_opening, Comment.after_part hm h]
  exact congrArg trimEnd dropComments_nil

/-! ## Source texts -/

/-- The statements of a source text, as lists of characters. -/
def statements (cs : List Char) : List (List Char) :=
  ((cs.splitOn ';').map body).filter isCreate

theorem ofSource_eq (source : String) :
    ofSource source = (statements source.toList).map String.ofList := rfl

/-- **A semicolon cuts a source text in two**, wherever it stands. -/
theorem statements_append (a b : List Char) :
    statements (a ++ ';' :: b) = statements a ++ statements b := by
  simp only [statements, List.splitOn_append_cons_self, List.map_append, List.filter_append]

/-- What has no semicolon is one fragment. -/
theorem statements_of_not_mem {cs : List Char} (h : ';' ∉ cs) :
    statements cs = [body cs].filter isCreate := by
  rw [statements, List.splitOn_eq_singleton h, List.map_singleton]

/-- A text that has no semicolon and begins with no comment is a statement
or has none. -/
theorem statements_of_head {cs : List Char} (hsemi : ';' ∉ cs)
    (hline : (trim cs).head? ≠ some '-') (hblock : (trim cs).head? ≠ some '/') :
    statements cs = [trim cs].filter isCreate := by
  have hbody : body cs = trim cs := by
    refine dropComments_of_head ?_ ?_
    · intro rest h
      exact hline (by rw [h, List.head?_cons])
    · intro rest h
      exact hblock (by rw [h, List.head?_cons])
  rw [statements_of_not_mem hsemi, hbody]

/-- What has no semicolon belongs to the first fragment. -/
theorem statements_front {front : List Char} (hsemi : ';' ∉ front)
    (h : ∀ fragment, body (front ++ fragment) = body fragment) (cs : List Char) :
    statements (front ++ cs) = statements cs := by
  by_cases hmem : ';' ∈ cs
  · obtain ⟨fragment, rest, rfl, hfragment⟩ := List.eq_append_cons_of_mem hmem
    have hall : ';' ∉ front ++ fragment := by simp [hsemi, hfragment]
    rw [← List.append_assoc, statements_append, statements_append, statements_of_not_mem hall,
      statements_of_not_mem hfragment, h]
  · have hall : ';' ∉ front ++ cs := by simp [hsemi, hmem]
    rw [statements_of_not_mem hall, statements_of_not_mem hmem, h]

/-- A comment without a semicolon in front of a source text is not seen. -/
theorem statements_text {m : Comment} (hm : m.IsWhole) (hsemi : ';' ∉ m.inside) (cs : List Char) :
    statements (m.text ++ cs) = statements cs := by
  refine statements_front ?_ (body_text hm) cs
  cases m <;> simpa [Comment.text, Comment.opening, Comment.inside, Comment.closing] using hsemi

/-- **A comment with a semicolon is cut there.** What stands before it is
no statement. -/
theorem statements_text_of_semicolon {m : Comment} (hm : m.IsWhole) (front back : List Char)
    (h : m.inside = front ++ ';' :: back) (hsemi : ';' ∉ front) (cs : List Char) :
    statements (m.text ++ cs) = statements (back ++ m.closing ++ cs) := by
  have hcut : m.text ++ cs = (m.opening ++ front) ++ ';' :: (back ++ m.closing ++ cs) := by
    simp [Comment.text, h]
  have hopen : ';' ∉ m.opening ++ front := by
    cases m <;> simpa [Comment.opening] using hsemi
  have hnone : statements (m.opening ++ front) = [] := by
    rw [statements_of_not_mem hopen, body_opening hm h]
    rfl
  rw [hcut, statements_append, hnone, List.nil_append]

/-- **Comments in front of a source text are not seen**, if they have no
semicolon. One that has is cut at the first: what stands behind it begins
the source text. -/
theorem ofSource_comments (source : String) :
    (∀ ms : List Comment, (∀ m ∈ ms, m.IsWhole ∧ ';' ∉ m.inside) →
      ofSource (ms.foldr Comment.before source) = ofSource source) ∧
    ∀ m : Comment, m.IsWhole → ∀ front back, m.inside = front ++ ';' :: back → ';' ∉ front →
      ofSource (m.before source) =
        ofSource (String.ofList (back ++ m.closing ++ source.toList)) := by
  constructor
  · intro ms hms
    induction ms with
    | nil => rfl
    | cons m ms ih =>
      obtain ⟨hm, hsemi⟩ := hms m List.mem_cons_self
      have hmore := ih fun n hn => hms n (List.mem_cons_of_mem _ hn)
      rw [List.foldr_cons, ← hmore, ofSource_eq, ofSource_eq, Comment.before,
        String.toList_ofList, statements_text hm hsemi]
  · intro m hm front back h hsemi
    rw [ofSource_eq, ofSource_eq, Comment.before, String.toList_ofList, String.toList_ofList,
      statements_text_of_semicolon hm _ _ h hsemi]

/-- Comments with the delimiters of the other kind in them, and an empty
one. -/
def header : List Comment :=
  [.line ['`', '/', '*'], .block ['-', '-', '\n', '*', ' ', '/'], .line [], .block ['*']]

theorem ofSource_comments_header : (∀ m ∈ header, m.IsWhole ∧ ';' ∉ m.inside) ∧
    ofSource (header.foldr Comment.before "CREATE TABLE `t`") = ["CREATE TABLE `t`"] ∧
    (Comment.line ['a', ';', 'b']).IsWhole ∧ ['a', ';', 'b'] = ['a'] ++ ';' :: ['b'] ∧
    ';' ∉ ['a'] ∧
    ofSource ((Comment.line ['a', ';', 'b']).before "CREATE TABLE `t`") =
      ofSource (String.ofList (['b'] ++ ['\n'] ++ "CREATE TABLE `t`".toList)) := by
  have hheader : ∀ m ∈ header, m.IsWhole ∧ ';' ∉ m.inside := by decide
  have hline : (Comment.line ['a', ';', 'b']).IsWhole := by decide
  have hsemi : ';' ∉ ['a'] := by decide
  have hplain : ofSource "CREATE TABLE `t`" = ["CREATE TABLE `t`"] := by
    rw [ofSource_eq, statements_of_head (by decide) (by decide) (by decide)]
    decide
  exact ⟨hheader, ((ofSource_comments _).1 header hheader).trans hplain, hline, rfl, hsemi,
    (ofSource_comments _).2 _ hline _ _ rfl hsemi⟩

/-- **Comments with a semicolon are seen.** A block comment hides the
statement behind it, and a line comment lets out a statement of its own. -/
theorem ofSource_comment_ne :
    (Comment.block ['a', ';', 'b']).IsWhole ∧
    ofSource ((Comment.block ['a', ';', 'b']).before "create table `t`") ≠
      ofSource "create table `t`" ∧
    (Comment.line (';' :: "create table `u`".toList)).IsWhole ∧
    ofSource ((Comment.line (';' :: "create table `u`".toList)).before "") ≠ ofSource "" := by
  have hblock : (Comment.block ['a', ';', 'b']).IsWhole := by decide
  have hline : (Comment.line (';' :: "create table `u`".toList)).IsWhole := by decide
  -- of a comment that is cut, what stands behind the semicolon begins the source text
  have hhidden : ofSource ((Comment.block ['a', ';', 'b']).before "create table `t`") = [] := by
    rw [ofSource_eq, Comment.before, String.toList_ofList,
      statements_text_of_semicolon hblock ['a'] ['b'] rfl (by decide),
      statements_of_head (by decide) (by decide) (by decide)]
    decide
  have hplain : ofSource "create table `t`" = ["create table `t`"] := by
    rw [ofSource_eq, statements_of_head (by decide) (by decide) (by decide)]
    decide
  have hlet : ofSource ((Comment.line (';' :: "create table `u`".toList)).before "") =
      ["create table `u`"] := by
    rw [ofSource_eq, Comment.before, String.toList_ofList,
      statements_text_of_semicolon hline [] _ rfl (by decide),
      statements_of_head (by decide) (by decide) (by decide)]
    decide
  have hnone : ofSource "" = [] := by
    rw [ofSource_eq, statements_of_head (by decide) (by decide) (by decide)]
    decide
  rw [hhidden, hplain, hlet, hnone]
  exact ⟨hblock, by decide, hline, by decide⟩

end Statement

end TableStruct
