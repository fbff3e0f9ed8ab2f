/-!
# Ordered lists keyed by strings

Sets of strings and tables keyed by strings are kept as lists in increasing
code-point order without repetition, so that equal contents are equal
lists.
-/

namespace TableStruct

namespace Text

/-- Adds a word to an increasing list that may hold it already. -/
def insertWord (word : String) : List String → List String
  | [] => [word]
  | w :: ws =>
    if word < w then word :: w :: ws
    else if word = w then w :: ws
    else w :: insertWord word ws

/-- Sets the value of a key in a list of entries with increasing keys. -/
def insertEntry {α : Type} (key : String) (value : α) : List (String × α) → List (String × α)
  | [] => [(key, value)]
  | e :: es =>
    if key < e.1 then (key, value) :: e :: es
    else if key = e.1 then (key, value) :: es
    else e :: insertEntry key value es

/-- The words after an insertion are the new one and those before. -/
theorem mem_insertWord {word w : String} {ws : List String} :
    w ∈ insertWord word ws ↔ w = word ∨ w ∈ ws := by
  induction ws with
  | nil => simp [insertWord]
  | cons v vs ih =>
    rw [insertWord]
    split
    · simp
    · split
      · next h => simp [h]
      · simp only [List.mem_cons, ih]
        grind

end Text

end TableStruct
