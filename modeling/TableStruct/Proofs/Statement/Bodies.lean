import TableStruct.Proofs.Statement.Comments
import TableStruct.Proofs.Text.Blank

/-!
# What is left of a fragment

In front of what is left of a fragment stand blanks and comments and nothing
else (`exists_leads`), and what is left begins with neither. There is only one
way to cut a text like that: blanks and comments are told apart by how they
begin, and each comment ends where it first can (`Leads.dropComments_eq`). So
the two facts, with the end trimmed, say what is left of every fragment
(`body_eq_iff`).
-/

namespace TableStruct

namespace Statement

open Text

variable {cs front rest fragment : List Char}

/-- The text begins with no blank and no comment. -/
structure IsBare (cs : List Char) : Prop where
  blank : ∀ c, cs.head? = some c → isBlank c = false
  comment : ∀ m : Comment, ¬ m.opening <+: cs

/-- The first text is blanks and comments in front of `rest`. A comment
without an end is the last of them, and nothing is left behind it. -/
inductive Leads (rest : List Char) : List Char → Prop
  | nothing : Leads rest []
  | blanks {run front : List Char} : (∀ c ∈ run, isBlank c) → Leads rest front →
      Leads rest (run ++ front)
  | comment {m : Comment} {front : List Char} : m.IsWhole → Leads rest front →
      Leads rest (m.text ++ front)
  | endless {m : Comment} : m.IsWhole → rest = [] → Leads rest (m.opening ++ m.inside)

/-! ## A comment at the front -/

/-- A block comment ends at its first end, or has none. -/
theorem exists_block (cs : List Char) : ∃ inside, (Comment.block inside).IsWhole ∧
    (cs = inside ++ '*' :: '/' :: afterBlock cs ∨ cs = inside ∧ afterBlock cs = []) := by
  have hnil : (Comment.block []).IsWhole := by decide
  fun_induction afterBlock cs with
  | case1 cs => exact ⟨[], hnil, .inl rfl⟩
  | case2 c cs hnot ih =>
    obtain ⟨inside, hwhole, hcs⟩ := ih
    refine ⟨c :: inside, fun hin => ?_, ?_⟩
    · rcases List.infix_cons_iff.1 hin with ⟨more, hmore⟩ | hin
      · -- the end would begin with the first character
        obtain ⟨rfl, hinside⟩ := List.cons.inj hmore
        have hhead : inside = '/' :: more := hinside.symm
        subst hhead
        rcases hcs with hcs | ⟨hcs, -⟩
        · exact hnot _ rfl hcs
        · exact hnot _ rfl hcs
      · exact hwhole hin
    · rcases hcs with hcs | ⟨hcs, hafter⟩
      · refine .inl ?_
        rw [List.cons_append, ← hcs]
      · exact .inr ⟨by rw [← hcs], hafter⟩
  | case3 => exact ⟨[], hnil, .inr ⟨rfl, rfl⟩⟩

/-- A line comment ends at the first line feed, or has no end. -/
theorem exists_line (cs : List Char) : ∃ inside, (Comment.line inside).IsWhole ∧
    (cs = inside ++ '\n' :: afterLine cs ∨ cs = inside ∧ afterLine cs = []) := by
  by_cases hmem : '\n' ∈ cs
  · obtain ⟨inside, after, rfl, hwhole⟩ := List.eq_append_cons_of_mem hmem
    have hafter : afterLine (inside ++ '\n' :: after) = after :=
      Comment.after_inside (m := .line inside) hwhole after
    exact ⟨inside, hwhole, .inl (by rw [hafter])⟩
  · exact ⟨cs, hmem, .inr ⟨rfl, Comment.after_part (m := .line cs) hmem (List.append_nil cs).symm⟩⟩

/-- **What follows the opening of a comment is the comment**, up to where it
ends if it does. -/
theorem Comment.exists_of_opening (m : Comment) (cs : List Char) :
    ∃ n : Comment, n.IsWhole ∧ n.opening = m.opening ∧
      (cs = n.inside ++ (n.closing ++ m.after cs) ∨ cs = n.inside ∧ m.after cs = []) := by
  cases m with
  | line =>
    obtain ⟨inside, hwhole, hcs⟩ := exists_line cs
    exact ⟨.line inside, hwhole, rfl, hcs⟩
  | block =>
    obtain ⟨inside, hwhole, hcs⟩ := exists_block cs
    exact ⟨.block inside, hwhole, rfl, hcs⟩

/-! ## Blanks and comments at the front -/

/-- The opening of a comment leads on from what leads to the rest behind the
comment. -/
theorem Leads.opening (m : Comment) (hcs : trimStart (m.after cs) = front ++ rest)
    (h : Leads rest front) : ∃ front', m.opening ++ cs = front' ++ rest ∧ Leads rest front' := by
  obtain ⟨n, hwhole, hopening, heq | ⟨heq, hafter⟩⟩ := m.exists_of_opening cs
  · have hblanks : ∀ c ∈ (m.after cs).takeWhile isBlank, isBlank c :=
      List.all_eq_true.1 List.all_takeWhile
    refine ⟨n.text ++ ((m.after cs).takeWhile isBlank ++ front), ?_,
      .comment hwhole (.blanks hblanks h)⟩
    have hsplit : (m.after cs).takeWhile isBlank ++ (front ++ rest) = m.after cs := by
      rw [← hcs]
      exact List.takeWhile_append_dropWhile
    calc m.opening ++ cs
        = n.opening ++ (n.inside ++ (n.closing ++ m.after cs)) := by rw [hopening, ← heq]
      _ = n.text ++ ((m.after cs).takeWhile isBlank ++ (front ++ rest)) := by
          rw [hsplit, Comment.text]
          simp only [List.append_assoc]
      _ = n.text ++ ((m.after cs).takeWhile isBlank ++ front) ++ rest := by
          simp only [List.append_assoc]
  · rw [hafter] at hcs
    obtain ⟨-, hrest⟩ := List.append_eq_nil_iff.1 hcs.symm
    subst hrest
    exact ⟨n.opening ++ n.inside, by rw [hopening, ← heq, List.append_nil], .endless hwhole rfl⟩

/-- **What is dropped is blanks and comments.** -/
theorem exists_leads (cs : List Char) :
    ∃ front, cs = front ++ dropComments cs ∧ Leads (dropComments cs) front := by
  fun_induction dropComments cs with
  | case1 cs ih =>
    obtain ⟨front, hcs, hleads⟩ := ih
    exact hleads.opening (.line []) hcs
  | case2 cs ih =>
    obtain ⟨front, hcs, hleads⟩ := ih
    exact hleads.opening (.block []) hcs
  | case3 cs => exact ⟨[], rfl, .nothing⟩

/-- What is left begins with no comment, and with no blank unless the text
does. -/
theorem isBare_dropComments (h : ∀ c, cs.head? = some c → isBlank c = false) :
    IsBare (dropComments cs) := by
  fun_induction dropComments cs with
  | case1 cs ih => exact ih fun c => isBlank_of_head?_trimStart
  | case2 cs ih => exact ih fun c => isBlank_of_head?_trimStart
  | case3 cs hline hblock =>
    refine ⟨h, fun m hm => ?_⟩
    obtain ⟨rest, hrest⟩ := hm
    cases m with
    | line => exact hline rest hrest.symm
    | block => exact hblock rest hrest.symm

/-- A bare text is left as it is. -/
theorem IsBare.dropComments_trimStart (h : IsBare rest) :
    dropComments (trimStart rest) = rest := by
  rw [trimStart_eq_self h.blank]
  refine dropComments_of_head (fun more heq => ?_) (fun more heq => ?_)
  · exact h.comment (.line []) ⟨more, heq.symm⟩
  · exact h.comment (.block []) ⟨more, heq.symm⟩

/-- **Blanks and comments are dropped up to the first text that is neither.** -/
theorem Leads.dropComments_eq (h : Leads rest front) (hrest : IsBare rest) :
    dropComments (trimStart (front ++ rest)) = rest := by
  induction h with
  | nothing => exact hrest.dropComments_trimStart
  | blanks hrun _ ih =>
    rw [List.append_assoc, trimStart, List.dropWhile_append_of_pos hrun]
    exact ih
  | @comment m front hwhole _ ih =>
    rw [List.append_assoc, Comment.text, List.append_assoc, List.append_assoc,
      m.trimStart_opening, dropComments_opening, Comment.after_inside hwhole]
    exact ih
  | @endless m hwhole hnil =>
    subst hnil
    rw [List.append_nil, m.trimStart_opening, dropComments_opening,
      Comment.after_part hwhole (List.append_nil _).symm]
    exact dropComments_nil

/-- **Comments are dropped off the front**, and nothing else is. -/
theorem dropComments_suffix (cs : List Char) : dropComments cs <:+ cs := by
  obtain ⟨front, hcs, -⟩ := exists_leads cs
  exact ⟨front, hcs.symm⟩

/-! ## What is left -/

/-- What is left of a fragment is a piece of it. -/
theorem body_isInfix (fragment : List Char) : body fragment <:+: fragment := by
  obtain ⟨blanks, heq, -⟩ := exists_append_of_trimEnd (dropComments (trimStart fragment))
  have hprefix : body fragment <+: dropComments (trimStart fragment) :=
    ⟨blanks, by rw [body_eq, ← heq]⟩
  have hsuffix : dropComments (trimStart fragment) <:+ fragment :=
    (dropComments_suffix _).trans (List.dropWhile_suffix _)
  exact hprefix.isInfix.trans hsuffix.isInfix

/-- What is left of a fragment does not end in a blank. -/
theorem isBlank_of_getLast?_body {c : Char} (h : (body fragment).getLast? = some c) :
    isBlank c = false := by
  rw [body_eq] at h
  exact isBlank_of_getLast?_trimEnd h

/-- The second text is what is left of the first without the blanks and
comments in front. -/
structure IsLeft (text rest : List Char) : Prop where
  /-- Blanks and comments lead to it, and nothing stands behind it. -/
  leads : ∃ front, text = front ++ rest ∧ Leads rest front
  /-- No blank and no comment is at its front. -/
  bare : IsBare rest
  /-- No blank is at its end. -/
  ending : ∀ c, rest.getLast? = some c → isBlank c = false

/-- **What is left of a fragment** is what stands behind the blanks and
comments at the front of the trimmed fragment: a text that begins with
neither, and nothing at all if the last of these comments has no end. -/
theorem body_eq_iff : body fragment = rest ↔ IsLeft (trim fragment) rest := by
  constructor
  · rintro rfl
    exact ⟨exists_leads _, isBare_dropComments fun c => isBlank_of_head?_trim,
      fun c => isBlank_of_getLast?_body⟩
  · rintro ⟨⟨front, htext, hleads⟩, hbare, -⟩
    have htrim : trimStart (trim fragment) = trim fragment :=
      trimStart_eq_self fun c => isBlank_of_head?_trim
    rw [body, ← htrim, htext]
    exact hleads.dropComments_eq hbare

/-- The slash of an opening does not close the comment, and what opens a
comment inside another is part of it. -/
example : body "-- /* \n/*/ -- */\tcreate x ".toList = "create x".toList := by decide +kernel

end Statement

end TableStruct
