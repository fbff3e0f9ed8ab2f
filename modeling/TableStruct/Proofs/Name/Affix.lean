import TableStruct.Name.Casing
import Mathlib.Data.List.Basic

/-!
# Affixes and what they leave

The lead and the trail of a name are taken off one after the other, and in
most names it does not matter which is first
(`stripTrail_stripLead`). It does where the two overlap in the name: then
the one that is taken off first leaves too little of the other, and so only
the lead is taken off (`strip_surrounded`).
-/

namespace TableStruct

namespace Affix

variable {lead trail cs : List Char}

@[simp] theorem stripLead_append (lead cs : List Char) : stripLead lead (lead ++ cs) = cs := by
  rw [stripLead, List.isPrefixOf?_eq_some_iff_append_eq.2 rfl, Option.getD_some]

@[simp] theorem stripTrail_append (cs trail : List Char) : stripTrail trail (cs ++ trail) = cs := by
  rw [stripTrail, List.isSuffixOf?_eq_some_iff_append_eq.2 rfl, Option.getD_some]

theorem stripLead_of_not_isPrefix (h : ¬ lead <+: cs) : stripLead lead cs = cs := by
  have hnone : lead.isPrefixOf? cs = none := by
    rw [Option.eq_none_iff_forall_ne_some]
    exact fun rest hrest => h ⟨rest, List.isPrefixOf?_eq_some_iff_append_eq.1 hrest⟩
  rw [stripLead, hnone, Option.getD_none]

theorem stripTrail_of_not_isSuffix (h : ¬ trail <:+ cs) : stripTrail trail cs = cs := by
  have hnone : trail.isSuffixOf? cs = none := by
    rw [Option.eq_none_iff_forall_ne_some]
    exact fun rest hrest => h ⟨rest, List.isSuffixOf?_eq_some_iff_append_eq.1 hrest⟩
  rw [stripTrail, hnone, Option.getD_none]

/-- **The lead and the trail are taken off in any order**, if there is room
for both. -/
theorem stripTrail_stripLead
    (hroom : lead <+: cs → trail <:+ cs → lead.length + trail.length ≤ cs.length) :
    stripTrail trail (stripLead lead cs) = stripLead lead (stripTrail trail cs) := by
  by_cases hlead : lead <+: cs
  · obtain ⟨rest, rfl⟩ := hlead
    have hsuffix : rest <:+ lead ++ rest := List.suffix_append lead rest
    rw [stripLead_append]
    by_cases htrail : trail <:+ lead ++ rest
    · have hlen : trail.length ≤ rest.length := by
        have := hroom (List.prefix_append lead rest) htrail
        rw [List.length_append] at this
        omega
      obtain ⟨m, rfl⟩ := List.suffix_of_suffix_length_le htrail hsuffix hlen
      rw [stripTrail_append, ← List.append_assoc, stripTrail_append, stripLead_append]
    · rw [stripTrail_of_not_isSuffix htrail, stripLead_append,
        stripTrail_of_not_isSuffix fun h => htrail (h.trans hsuffix)]
  · rw [stripLead_of_not_isPrefix hlead]
    by_cases htrail : trail <:+ cs
    · obtain ⟨m, rfl⟩ := htrail
      rw [stripTrail_append,
        stripLead_of_not_isPrefix fun h => hlead (h.trans (List.prefix_append m trail))]
    · rw [stripTrail_of_not_isSuffix htrail, stripLead_of_not_isPrefix hlead]

/-- Takes off the trail, and then the lead of what is left. -/
def stripFromEnd (a : Affix) (raw : String) : String :=
  String.ofList (stripLead a.lead.toList (stripTrail a.trail.toList raw.toList))

/-- The name begins with the lead and ends with the trail, and the two have
characters of it in common. -/
structure Overlaps (a : Affix) (raw : String) : Prop where
  lead : a.lead.toList <+: raw.toList
  trail : a.trail.toList <:+ raw.toList
  short : raw.length < a.lead.length + a.trail.length

@[simp] theorem strip_append (a : Affix) (m : String) : a.strip (a.lead ++ m ++ a.trail) = m := by
  rw [strip, String.toList_append, String.toList_append, List.append_assoc, stripLead_append,
    stripTrail_append, String.ofList_toList]

/-- Without a lead and a trail nothing is taken off. -/
@[simp] theorem strip_empty (raw : String) : (⟨"", ""⟩ : Affix).strip raw = raw := by
  simpa using strip_append ⟨"", ""⟩ raw

theorem strip_eq_stripFromEnd {a : Affix} {raw : String} (h : ¬ a.Overlaps raw) :
    a.strip raw = a.stripFromEnd raw := by
  rw [strip, stripFromEnd, stripTrail_stripLead]
  intro hlead htrail
  simp only [String.length_toList]
  exact Nat.le_of_not_lt fun hshort => h ⟨hlead, htrail, hshort⟩

theorem strip_of_overlaps {a : Affix} {raw : String} (h : a.Overlaps raw) :
    a.strip raw = String.ofList (raw.toList.drop a.lead.length) := by
  obtain ⟨rest, hrest⟩ := h.lead
  have hshort := h.short
  have hlen := congrArg List.length hrest
  simp only [List.length_append, String.length_toList] at hlen
  have htrail : ¬ a.trail.toList <:+ rest := by
    intro hsuffix
    have hle := hsuffix.length_le
    rw [String.length_toList] at hle
    omega
  rw [strip, ← hrest, stripLead_append, stripTrail_of_not_isSuffix htrail, ← String.length_toList,
    List.drop_left]

/-- **What an affix leaves.** What stands between the lead and the trail is
left as it is, and cased as a name of its own. It makes no difference which
of the two is taken off first, unless they overlap in the name, and then the
lead is taken off and the trail is not. -/
theorem strip_surrounded (a : Affix) :
    (∀ m, a.strip (a.lead ++ m ++ a.trail) = m ∧
      identifier a (a.lead ++ m ++ a.trail) = Abbreviations.standard.pascalCase m) ∧
    ∀ raw, (¬ a.Overlaps raw → a.strip raw = a.stripFromEnd raw) ∧
      (a.Overlaps raw → a.strip raw = String.ofList (raw.toList.drop a.lead.length)) := by
  refine ⟨fun m => ⟨strip_append a m, ?_⟩, fun raw => ⟨strip_eq_stripFromEnd, strip_of_overlaps⟩⟩
  show Abbreviations.standard.pascalCase (a.strip _) = _
  rw [strip_append]

/-- The underscore of `v_x` belongs to the lead and to the trail. It goes with
the one that is taken off first. -/
theorem strip_surrounded_overlap :
    (¬ (⟨"v_", "_x"⟩ : Affix).Overlaps "v__x" ∧
      (⟨"v_", "_x"⟩ : Affix).strip "v__x" = (⟨"v_", "_x"⟩ : Affix).stripFromEnd "v__x") ∧
    (⟨"v_", "_x"⟩ : Affix).Overlaps "v_x" ∧ (⟨"v_", "_x"⟩ : Affix).strip "v_x" = "x" ∧
      (⟨"v_", "_x"⟩ : Affix).stripFromEnd "v_x" = "v" := by
  have hroom : ¬ (⟨"v_", "_x"⟩ : Affix).Overlaps "v__x" := fun h => absurd h.short (by decide)
  have hoverlap : (⟨"v_", "_x"⟩ : Affix).Overlaps "v_x" :=
    ⟨by decide, by decide, by decide⟩
  obtain ⟨-, hraw⟩ := strip_surrounded ⟨"v_", "_x"⟩
  exact ⟨⟨hroom, (hraw _).1 hroom⟩, hoverlap, ((hraw _).2 hoverlap).trans (by decide), by decide⟩

end Affix

end TableStruct
