import TableStruct.Text.Ordered
import Mathlib.Data.List.Sort
import Mathlib.Data.String.Basic

/-!
# Increasing lists of strings

A word goes where it belongs in an increasing list, so that the list stays
increasing (`Increasing.insertWord`), and of any two such lists with the same
words there is only one (`Increasing.ext`). The keys of a list of entries are
such a list. What a key stands for is looked up without regard to the order
(`lookup_insertEntry`); that each entry is found is due to it
(`lookup_eq_some_iff`).
-/

namespace TableStruct

namespace Text

/-- The words increase in code-point order. -/
def Increasing (ws : List String) : Prop :=
  ws.Pairwise (· < ·)

namespace Increasing

variable {word : String} {ws vs : List String}

theorem nodup (h : Increasing ws) : ws.Nodup :=
  List.Pairwise.imp (fun hlt => ne_of_lt hlt) h

/-- **A word is inserted in its place.** -/
theorem insertWord (word : String) (h : Increasing ws) : Increasing (insertWord word ws) := by
  induction ws with
  | nil => exact List.pairwise_singleton _ _
  | cons w ws ih =>
    obtain ⟨hfirst, hrest⟩ := List.pairwise_cons.1 h
    rw [Text.insertWord]
    split
    · next hlt =>
      refine List.pairwise_cons.2 ⟨fun v hv => ?_, h⟩
      rcases List.mem_cons.1 hv with rfl | hv
      · exact hlt
      · exact lt_trans hlt (hfirst v hv)
    · next hnot =>
      split
      · exact h
      · next hne =>
        have hlt : w < word := lt_of_le_of_ne (not_lt.1 hnot) (Ne.symm hne)
        refine List.pairwise_cons.2 ⟨fun v hv => ?_, ih hrest⟩
        rcases mem_insertWord.1 hv with rfl | hv
        · exact hlt
        · exact hfirst v hv

/-- **Increasing lists are told apart by their words.** -/
theorem ext (hws : Increasing ws) (hvs : Increasing vs) (h : ∀ w, w ∈ ws ↔ w ∈ vs) : ws = vs :=
  List.Pairwise.eq_of_mem_iff hws hvs h

end Increasing

/-! ## Entries -/

variable {α : Type} {key k : String} {value : α} {es : List (String × α)}

/-- Setting the value of a key inserts the key. -/
theorem keys_insertEntry (key : String) (value : α) (es : List (String × α)) :
    (insertEntry key value es).map Prod.fst = insertWord key (es.map Prod.fst) := by
  induction es with
  | nil => rfl
  | cons e es ih =>
    rw [insertEntry, List.map_cons, insertWord]
    split
    · rfl
    · split
      · next heq => rw [List.map_cons, heq]
      · rw [List.map_cons, ih]

theorem lookup_cons_eq (e : String × α) (es : List (String × α)) (k : String) :
    (e :: es).lookup k = if k = e.1 then some e.2 else es.lookup k := by
  rw [List.lookup_cons]
  by_cases hk : k = e.1
  · rw [if_pos hk, beq_iff_eq.2 hk]
  · rw [if_neg hk, beq_eq_false_iff_ne.2 hk]

/-- **The key that is set is the only one whose value changes.** -/
theorem lookup_insertEntry (key : String) (value : α) (es : List (String × α)) (k : String) :
    (insertEntry key value es).lookup k = if k = key then some value else es.lookup k := by
  induction es with
  | nil => exact lookup_cons_eq (key, value) [] k
  | cons e es ih =>
    rw [insertEntry]
    split
    · exact lookup_cons_eq (key, value) (e :: es) k
    · split
      · next heq =>
        rw [lookup_cons_eq, lookup_cons_eq]
        by_cases hk : k = key
        · rw [if_pos hk, if_pos hk]
        · rw [if_neg hk, if_neg hk, if_neg (heq ▸ hk)]
      · next hne =>
        rw [lookup_cons_eq, lookup_cons_eq, ih]
        by_cases hk : k = e.1
        · rw [if_pos hk, if_pos hk, if_neg (hk ▸ Ne.symm hne)]
        · rw [if_neg hk, if_neg hk]

/-- **Every entry is found under its key.** -/
theorem lookup_eq_some_iff (h : Increasing (es.map Prod.fst)) :
    es.lookup k = some value ↔ (k, value) ∈ es := by
  rw [List.lookup_eq_some_iff]
  constructor
  · rintro ⟨before, after, rfl, -⟩
    exact List.mem_append_right _ List.mem_cons_self
  · intro hmem
    obtain ⟨before, after, rfl⟩ := List.append_of_mem hmem
    refine ⟨before, after, rfl, fun e he => ?_⟩
    have hnodup := h.nodup
    rw [List.map_append, List.map_cons, List.nodup_append] at hnodup
    have hne := hnodup.2.2 e.1 (List.mem_map_of_mem he) k List.mem_cons_self
    simpa using Ne.symm hne

end Text

end TableStruct
