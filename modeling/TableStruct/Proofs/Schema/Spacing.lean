import TableStruct.Proofs.Scan.Spacing
import TableStruct.Proofs.Schema.RoundTrip

/-!
# The layout of a statement does not matter

What is read off a statement depends on the words that its scan finds, and
an error tells more only about where a quote was opened
(`Extraction.schema_ofScan_words`). So the blanks between the tokens can be
widened as one likes (`extract_respace`).
-/

namespace TableStruct

/-- The problem without the place of an open quote. -/
def Problem.unplaced : Problem → Problem
  | .unterminatedQuote grouping _ => .unterminatedQuote grouping 0
  | p => p

namespace Extraction

theorem openQuote?_words {u v : Option Token} (h : u.map Token.word = v.map Token.word) :
    (openQuote? u).map Problem.unplaced = (openQuote? v).map Problem.unplaced := by
  cases u with
  | none =>
    cases v with
    | none => rfl
    | some v => cases h
  | some u =>
    cases v with
    | none => cases h
    | some v =>
      have hof : u.grouping = v.grouping := congrArg Prod.fst (Option.some.inj h)
      by_cases hq : v.grouping.isQuoted <;>
        simp [openQuote?, Option.filter, Problem.unplaced, hof, hq]

/-- **What is read off scanned tokens depends on their words**, but for the
place of an open quote. -/
theorem schema_ofScan_words (strict : Bool) {a b : Scan} (ha : ∀ t ∈ a.tokens, t.text ≠ "")
    (hb : ∀ t ∈ b.tokens, t.text ≠ "") (h : a.words = b.words) :
    (ofScan strict a).schema.mapError Problem.unplaced =
      (ofScan strict b).schema.mapError Problem.unplaced := by
  obtain ⟨htokens, hleftover⟩ := Prod.mk.inj h
  have hgather : Draft.gather {} {} a.tokens = Draft.gather {} {} b.tokens := by
    rw [gather_words, htokens, ← gather_words]
  rw [schema_ofScan strict ha, schema_ofScan strict hb, hgather]
  cases strict && !(Draft.gather {} {} b.tokens).2 with
  | false => rfl
  | true =>
    have hquote := openQuote?_words hleftover
    simp only [if_true]
    cases hu : openQuote? a.leftover with
    | none =>
      rw [hu, Option.map_none, eq_comm, Option.map_eq_none_iff] at hquote
      rw [hquote]
    | some p =>
      rw [hu, Option.map_some, eq_comm, Option.map_eq_some_iff] at hquote
      obtain ⟨q, hq, hsame⟩ := hquote
      rw [hq]
      exact congrArg Except.error hsame.symm

end Extraction

/-- **Layout does not matter.** With each blank outside the tokens widened
to a gap, whatever the gaps are, a statement has the same tokens and leftover
but for their places, and the same outcome but for the place of an open
quote. -/
theorem extract_respace (gaps : Nat → Gap) (s : String) :
    (scan (respace gaps s)).tokens.map Token.word = (scan s).tokens.map Token.word ∧
      (scan (respace gaps s)).leftover.map Token.word = (scan s).leftover.map Token.word ∧
      ∀ strict, (extract strict (respace gaps s)).mapError Problem.unplaced =
        (extract strict s).mapError Problem.unplaced := by
  have hwords := words_respace gaps s
  obtain ⟨htokens, hleftover⟩ := Prod.mk.inj hwords
  exact ⟨htokens, hleftover, fun strict => Extraction.schema_ofScan_words strict
    (fun _ => text_ne_of_mem_scan) (fun _ => text_ne_of_mem_scan) hwords⟩

end TableStruct
