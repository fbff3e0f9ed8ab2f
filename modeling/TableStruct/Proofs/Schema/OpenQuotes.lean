import TableStruct.Proofs.Scan.Quotes
import TableStruct.Proofs.Schema.Strictness

/-!
# Quotes that strict extraction reports

Strict extraction looks at the token that the end of a statement cuts off
and reports it if it is quoted. That token and the quote that a scan for
quotes finds open (`Quote.ofStatement`) are not the same thing: the token
has the grouping of the last separator before it, and so an open quote is
not seen where another separator, or nothing at all, follows it.

`extract_of_openQuote` says when a statement with an open quote is refused,
if its index clauses were not reached, and when the open quote is the reason.
Where it is in no token and not seen, strict extraction goes on as if it were
not there; what is lost in that way is in `extract_of_openQuote_lost`.
-/

namespace TableStruct

variable {s : String}

/-- **A bare word that the statement cuts off is passed over.** -/
theorem extract_of_leftover_bare
    (hbare : ∀ t ∈ (scan s).leftover, t.grouping.isQuoted = false) :
    extract true s =
      match (Reading.ofStatement s).untyped? with
      | some t => .error (.untypedField ((Reading.ofStatement s).table?.getD "") t.text)
      | none => extract false s := by
  have hunclosed : (Reading.ofTokens {} (scan s).tokens).unclosed? (scan s).leftover = none := by
    have hfilter : (scan s).leftover.filter (fun t => t.grouping.isQuoted) = none := by
      simpa [Option.filter_eq_none_iff] using hbare
    rw [Reading.unclosed?, hfilter, ite_self]
  have hstrict : extract true s = _ :=
    Extraction.schema_ofScan_strict fun u hu => text_ne_of_mem_scan hu
  rw [hstrict, hunclosed]
  rfl

/-- Lenient extraction reports no quote. -/
theorem extract_lenient_ne (s : String) (g : Grouping) (p : Nat) :
    extract false s ≠ .error (.unterminatedQuote g p) := by
  have hlenient : extract false s = _ :=
    Extraction.schema_ofScan_lenient fun u hu => text_ne_of_mem_scan hu
  rw [hlenient]
  split <;> simp

/-- **Strict extraction reports the token that the statement cuts off** just
if that is quoted, and reports no other. -/
theorem unterminatedQuote_iff (hstop : (Reading.ofStatement s).stopped = false) (g : Grouping)
    (p : Nat) :
    extract true s = .error (.unterminatedQuote g p) ↔
      ∃ t, (scan s).leftover = some t ∧ t.grouping.isQuoted ∧ t.grouping = g ∧
        t.span.start = p := by
  by_cases hquoted : ∃ t ∈ (scan s).leftover, t.grouping.isQuoted
  · obtain ⟨t, ht, hquoted⟩ := hquoted
    have hunclosed : (Reading.ofStatement s).unclosed? (scan s).leftover = some t := by
      simp [Reading.unclosed?, hstop, Option.mem_def.1 ht, Option.filter, hquoted]
    have hstrict : extract true s = _ :=
      Extraction.schema_ofScan_strict fun u hu => text_ne_of_mem_scan hu
    rw [Reading.ofStatement] at hunclosed
    rw [hstrict, hunclosed, Option.mem_def.1 ht]
    simp [hquoted]
  · have hbare : ∀ t ∈ (scan s).leftover, t.grouping.isQuoted = false := by
      simpa using hquoted
    constructor
    · intro h
      rw [extract_of_leftover_bare hbare] at h
      split at h
      · cases h
      · exact absurd h (extract_lenient_ne s g p)
    · rintro ⟨t, ht, hcut, -, -⟩
      exact absurd ⟨t, ht, hcut⟩ hquoted

/-- **Strict extraction fails** just if a quote stands right before the text
that the statement cuts off, the last token read names a column, or lenient
extraction fails. -/
theorem exists_error_iff (hstop : (Reading.ofStatement s).stopped = false) :
    (∃ e, extract true s = .error e) ↔
      (∃ t ∈ (scan s).leftover, (Grouping.of (charBefore s.toList t.span.start)).isQuoted) ∨
        (Reading.ofStatement s).untyped?.isSome ∨ ∃ e, extract false s = .error e := by
  have hopened : ∀ t ∈ (scan s).leftover,
      t.grouping = Grouping.of (charBefore s.toList t.span.start) := fun t ht =>
    ((covers_scan s).spelt t (List.mem_append_right _ (Option.mem_toList.2 ht))).opened
  by_cases hquoted : ∃ t ∈ (scan s).leftover,
      (Grouping.of (charBefore s.toList t.span.start)).isQuoted
  · obtain ⟨t, ht, hquote⟩ := hquoted
    have hreport : extract true s = .error (.unterminatedQuote t.grouping t.span.start) :=
      (unterminatedQuote_iff hstop _ _).2 ⟨t, ht, hopened t ht ▸ hquote, rfl, rfl⟩
    exact ⟨fun _ => .inl ⟨t, ht, hquote⟩, fun _ => ⟨_, hreport⟩⟩
  · have hbare : ∀ t ∈ (scan s).leftover, t.grouping.isQuoted = false := by
      intro t ht
      rw [hopened t ht]
      simpa using fun hquote => hquoted ⟨t, ht, hquote⟩
    rw [extract_of_leftover_bare hbare, or_iff_right hquoted]
    cases (Reading.ofStatement s).untyped? with
    | some t => simp
    | none => simp

/-- **What becomes of an open quote**, if the index clauses were not reached.
Strict extraction does not look for it, and fails just if a quote stands
right before the text that the statement cuts off, the last token read names
a column, or lenient extraction fails.

Where the open quote is in no token and what follows it begins at `b`, behind
the separator `o`, it is reported there just if `o` is the quote's own
character, or a quote of the other kind that nothing closes. Where in addition
all tokens are in front of it, and `o` is no quote or nothing follows, it is
passed over: an untyped last column is still reported, and otherwise the
answer is that of lenient extraction. -/
theorem extract_of_openQuote {q : Quote} (hq : Quote.ofStatement s = some q)
    (hstop : (Reading.ofStatement s).stopped = false) :
    ((∃ e, extract true s = .error e) ↔
      (∃ t ∈ (scan s).leftover, (Grouping.of (charBefore s.toList t.span.start)).isQuoted) ∨
        (Reading.ofStatement s).untyped?.isSome ∨ ∃ e, extract false s = .error e) ∧
    ((∀ t ∈ (scan s).tokens ++ (scan s).leftover.toList, t.holds q.position = false) →
      (∀ b o, Begins s.toList (q.position + 1) q.mark b o →
        (extract true s = .error (.unterminatedQuote (Grouping.of o) b) ↔
          o = q.mark ∨ (Grouping.of o).isQuoted ∧ ∀ e text, ¬ Closed s.toList o b e text)) ∧
      ((∀ t ∈ (scan s).tokens, t.span.stop ≤ q.position) →
        (∀ b o, Begins s.toList (q.position + 1) q.mark b o →
          (Grouping.of o).isQuoted = false) →
        extract true s =
          match (Reading.ofStatement s).untyped? with
          | some t => .error (.untypedField ((Reading.ofStatement s).table?.getD "") t.text)
          | none => extract false s)) := by
  refine ⟨exists_error_iff hstop, fun hout => ⟨fun b o hb => ?_, fun hfront hbare => ?_⟩⟩
  · rw [unterminatedQuote_iff hstop]
    exact leftover_iff_of_openQuote hq hout hb
  · refine extract_of_leftover_bare fun t ht => ?_
    obtain ⟨o, hb, hgrouping⟩ := exists_begins_of_openQuote hq hout hfront (Option.mem_def.1 ht)
    rw [hgrouping]
    exact hbare _ o hb

/-- A comment that the end of the statement cuts off. -/
def cutComment : String :=
  "create table `t` (`a` int comment 'it''s (`b`, c"

/-- One whose text begins with a blank. -/
def cutBlankComment : String :=
  "create table `t` (`a` int comment ' x"

/-- The first comment is reported, at its quote, and the second is not: the
blank is the separator before its text. -/
theorem extract_of_openQuote_comment :
    (Quote.ofStatement cutComment = some ⟨'\x27', 34⟩ ∧
      (Reading.ofStatement cutComment).stopped = false ∧
      (∀ t ∈ (scan cutComment).tokens ++ (scan cutComment).leftover.toList,
        t.holds 34 = false) ∧
      extract true cutComment = .error (.unterminatedQuote .singleQuoted 35)) ∧
    (Quote.ofStatement cutBlankComment = some ⟨'\x27', 34⟩ ∧
      (Reading.ofStatement cutBlankComment).stopped = false ∧
      (∀ t ∈ (scan cutBlankComment).tokens ++ (scan cutBlankComment).leftover.toList,
        t.holds 34 = false) ∧
      extract true cutBlankComment = extract false cutBlankComment) := by
  have hquote : Quote.ofStatement cutComment = some ⟨'\x27', 34⟩ := by decide +kernel
  have hstop : (Reading.ofStatement cutComment).stopped = false := by decide +kernel
  have hout : ∀ t ∈ (scan cutComment).tokens ++ (scan cutComment).leftover.toList,
      t.holds 34 = false := by decide +kernel
  have hbegins : Begins cutComment.toList 35 '\x27' 35 '\x27' :=
    ⟨Nat.le_refl _, fun i c hi hlt => absurd hi (Nat.not_le_of_lt hlt),
      ⟨'i', by decide +kernel, by decide⟩, rfl⟩
  have hblankQuote : Quote.ofStatement cutBlankComment = some ⟨'\x27', 34⟩ := by decide +kernel
  have hblankStop : (Reading.ofStatement cutBlankComment).stopped = false := by decide +kernel
  have hblankOut : ∀ t ∈ (scan cutBlankComment).tokens ++ (scan cutBlankComment).leftover.toList,
      t.holds 34 = false := by decide +kernel
  have hfront : ∀ t ∈ (scan cutBlankComment).tokens, t.span.stop ≤ 34 := by decide +kernel
  have hblank : Begins cutBlankComment.toList 35 '\x27' 36 ' ' := by
    refine ⟨by decide, fun i c hi hlt hc => ?_, ⟨'x', by decide +kernel, by decide⟩, ?_⟩
    · obtain rfl : i = 35 := by omega
      have hget : cutBlankComment.toList[35]? = some ' ' := by decide +kernel
      obtain rfl := Option.some.inj (hget.symm.trans hc)
      decide
    · decide +kernel
  refine ⟨⟨hquote, hstop, hout,
      (((extract_of_openQuote hquote hstop).2 hout).1 35 _ hbegins).2 (.inl rfl)⟩,
    hblankQuote, hblankStop, hblankOut, ?_⟩
  have hpassed := ((extract_of_openQuote hblankQuote hblankStop).2 hblankOut).2 hfront
    fun b o hb => by
      obtain ⟨rfl, rfl⟩ := hb.unique hblank
      decide
  have huntyped : (Reading.ofStatement cutBlankComment).untyped? = none := by decide +kernel
  rw [hpassed, huntyped]

/-- **An open quote can be lost**: behind it a blank opens a bare word of its
own, or nothing follows. -/
theorem extract_of_openQuote_lost :
    (Quote.ofStatement cutBlankComment = some ⟨'\x27', 34⟩ ∧
      (Reading.ofStatement cutBlankComment).stopped = false ∧
      extract true cutBlankComment = .ok ⟨"t", [⟨"a", "int", none⟩]⟩) ∧
    (Quote.ofStatement "create table `t` (`a` int comment '" = some ⟨'\x27', 34⟩ ∧
      (Reading.ofStatement "create table `t` (`a` int comment '").stopped = false ∧
      extract true "create table `t` (`a` int comment '" = .ok ⟨"t", [⟨"a", "int", none⟩]⟩) := by
  refine ⟨⟨?_, ?_, ?_⟩, ?_, ?_, ?_⟩ <;> decide +kernel

end TableStruct
