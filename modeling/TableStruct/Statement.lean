import TableStruct.Text.Ascii
import TableStruct.Text.Blank

/-!
# Statements of a source text

A source text is cut at its semicolons. A fragment begins where its blanks
and comments end, and a statement is a fragment that begins with `create`
in any case. A comment is a line comment, from two hyphens to the end of
the line, or a block comment, from `/*` to the next `*/`; one that does not
end takes the rest of the fragment with it.
-/

namespace TableStruct

namespace Statement

/-- What follows the first line feed, or nothing. -/
def afterLine : List Char → List Char
  | [] => []
  | c :: cs => if c = '\n' then cs else afterLine cs

/-- What follows the first end of a block comment, or nothing. -/
def afterBlock : List Char → List Char
  | '*' :: '/' :: cs => cs
  | _ :: cs => afterBlock cs
  | [] => []

theorem length_afterLine (cs : List Char) : (afterLine cs).length ≤ cs.length := by
  induction cs with
  | nil => simp [afterLine]
  | cons c cs ih => rw [afterLine]; split <;> simp; omega

theorem length_afterBlock (cs : List Char) : (afterBlock cs).length ≤ cs.length := by
  fun_induction afterBlock cs <;> simp <;> omega

theorem length_trimStart (cs : List Char) : (Text.trimStart cs).length ≤ cs.length :=
  (List.dropWhile_sublist _).length_le

/-- Drops the comments at the front, with the blanks after each. -/
def dropComments : List Char → List Char
  | '-' :: '-' :: cs => dropComments (Text.trimStart (afterLine cs))
  | '/' :: '*' :: cs => dropComments (Text.trimStart (afterBlock cs))
  | cs => cs
termination_by cs => cs.length
decreasing_by
  · have := length_trimStart (afterLine cs)
    have := length_afterLine cs
    simp only [List.length_cons]; omega
  · have := length_trimStart (afterBlock cs)
    have := length_afterBlock cs
    simp only [List.length_cons]; omega

/-- A fragment without the blanks around it and the comments before it. -/
def body (fragment : List Char) : List Char :=
  dropComments (Text.trim fragment)

/-- The text begins with `create`, in any case. -/
def isCreate (cs : List Char) : Bool :=
  Text.sameLetters (cs.take 6) "create".toList

/-- The `create` statements of a source text, in order. -/
def ofSource (source : String) : List String :=
  (((source.toList.splitOn ';').map body).filter isCreate).map String.ofList

end Statement

end TableStruct
