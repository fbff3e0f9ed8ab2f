import TableStruct.Proofs.Scan.Restart
import TableStruct.Proofs.Schema.Gathering

/-!
# Nothing counts behind the index clauses

Where the index clauses begin the reading of a statement stops, and all that
stands behind that token is discarded: the tokens there, a quote that is
left open there, and whatever else the text holds. Statements that agree up
to there have the same outcome (`extract_of_stopsAt`).

The token is an identifier, and it ends at a backquote. The character behind
that is looked at for a second backquote, and is the only one behind the
token that matters.
-/

namespace TableStruct

variable {strict : Bool} {s s' : String} {t : Token}

/-- Extraction reaches the index clauses at the token: it takes up the
tokens before without coming to them, and stops at this one. -/
def StopsAt (strict : Bool) (s : String) (t : Token) : Prop :=
  ∃ before after d d', (scan s).tokens = before ++ t :: after ∧
    Draft.read strict {} {} before = .ok (d, false) ∧
    Draft.read strict {} {} (before ++ [t]) = .ok (d', true)

namespace Draft

variable {x : Context} {d d' d'' : Draft} {ts : List Token} {stopped : Bool}

/-- What a reading does with the first token: it stops there, or takes it up
and reads on. -/
theorem exists_of_read_cons (h : read strict x d (t :: ts) = .ok (d', stopped)) :
    (x.roles? t = none ∧ d' = d ∧ stopped) ∨
      ∃ roles e, x.roles? t = some roles ∧
        roles.foldlM (fun d role => d.assign strict t.text role) d = .ok e ∧
        read strict (x.after t roles) e ts = .ok (d', stopped) := by
  cases hr : x.roles? t with
  | none =>
    rw [read, hr] at h
    cases h
    exact .inl ⟨rfl, rfl, rfl⟩
  | some roles =>
    right
    cases hroles : roles.foldlM (fun d role => d.assign strict t.text role) d with
    | error p =>
      rw [read, hr] at h
      dsimp only at h
      rw [hroles] at h
      cases h
    | ok e =>
      rw [read_cons hr hroles] at h
      exact ⟨roles, e, rfl, hroles, h⟩

/-- **A reading that has stopped reads no further.** -/
theorem read_append_of_stopped (h : read strict x d ts = .ok (d', true)) (us : List Token) :
    read strict x d (ts ++ us) = .ok (d', true) := by
  induction ts generalizing x d with
  | nil => cases h
  | cons t ts ih =>
    rw [List.cons_append]
    rcases exists_of_read_cons h with ⟨hr, rfl, -⟩ | ⟨roles, e, hr, hroles, hmore⟩
    · rw [read, hr]
    · rw [read_cons hr hroles]
      exact ih hmore

/-- **A reading stops at an identifier.** -/
theorem isBackquoted_of_stopped (h : read strict x d ts = .ok (d', false))
    (hstop : read strict x d (ts ++ [t]) = .ok (d'', true)) : t.isBackquoted := by
  induction ts generalizing x d with
  | nil =>
    rcases exists_of_read_cons hstop with ⟨hr, -, -⟩ | ⟨roles, e, -, -, hmore⟩
    · by_contra hb
      rw [Context.roles?, if_neg hb] at hr
      cases hr
    · cases hmore
  | cons u ts ih =>
    rcases exists_of_read_cons h with ⟨-, -, hfalse⟩ | ⟨roles, e, hr, hroles, hmore⟩
    · cases hfalse
    · rw [List.cons_append, read_cons hr hroles] at hstop
      exact ih hmore hstop

/-- Finishing a schema reports no open quote. -/
theorem settle_bind_ne (d : Draft) (g : Grouping) (p : Nat) :
    (d.settle strict).bind schema ≠ .error (.unterminatedQuote g p) := by
  have hschema : ∀ d : Draft, d.schema ≠ .error (.unterminatedQuote g p) := by
    intro d
    rw [schema]
    split <;> simp
  rw [settle]
  split
  · exact hschema d
  · split
    · exact hschema _
    · split
      · simp [Except.bind]
      · exact hschema _

end Draft

namespace Extraction

/-- **What a reading that has stopped comes to** is what finishing the last
column comes to. What the scan leaves over is not looked at. -/
theorem schema_ofScan_of_stopped {a : Scan} {d : Draft}
    (h : Draft.read strict {} {} a.tokens = .ok (d, true)) :
    (ofScan strict a).schema = (d.settle strict).bind Draft.schema := by
  rw [ofScan, h]
  simp only [Bool.not_true, Bool.and_false]
  cases d.settle strict <;> rfl

end Extraction

/-- **Nothing behind the index clauses counts.** Where extraction stops at a
token, a statement that agrees up to the end of that token, its closing
backquote included, and has no second backquote there, stops at it too and
has the same outcome. An open quote is in neither case reported. -/
theorem extract_of_stopsAt (h : StopsAt strict s t)
    (hsame : ∀ i ≤ t.span.stop, s'.toList[i]? = s.toList[i]?)
    (hnext : s'.toList[t.span.stop + 1]? ≠ some '\x60') :
    extract strict s' = extract strict s ∧ StopsAt strict s' t ∧
      ∀ g p, extract strict s' ≠ .error (.unterminatedQuote g p) := by
  obtain ⟨before, after, d, d', hs, hread, hstop⟩ := h
  have hb := Draft.isBackquoted_of_stopped hread hstop
  -- the token ends at a backquote, and in neither statement does a second one follow
  obtain ⟨-, c, hc, -, hof⟩ := (covers_scan s).closed t (by rw [hs]; simp)
  rw [show t.grouping = .backquoted by simpa [Token.isBackquoted] using hb,
    Grouping.of_eq_backquoted] at hof
  have hcloses : t.grouping.isQuoted →
      s'.toList[t.span.stop + 1]? ≠ s.toList[t.span.stop]? := fun _ => by rwa [hc, hof]
  obtain ⟨after', hs'⟩ := exists_tokens_of_agree hs hsame hcloses
  have hall : ∀ us, Draft.read strict {} {} (before ++ t :: us) = .ok (d', true) := by
    intro us
    have hmore := Draft.read_append_of_stopped hstop us
    rwa [List.append_assoc] at hmore
  have hextract : extract strict s = (d'.settle strict).bind Draft.schema :=
    Extraction.schema_ofScan_of_stopped (by rw [hs, hall])
  have hextract' : extract strict s' = (d'.settle strict).bind Draft.schema :=
    Extraction.schema_ofScan_of_stopped (by rw [hs', hall])
  refine ⟨by rw [hextract, hextract'], ⟨before, after', d, d', hs', hread, hstop⟩, fun g p => ?_⟩
  rw [hextract']
  exact d'.settle_bind_ne g p

/-- A statement with an index clause, and behind it a column whose comment
the end cuts off. -/
def indexed : String :=
  "create table `t` (`a` int, key `k` (`a`), `c` text comment 'x"

/-- The same as far as the name of the index. -/
def indexCut : String :=
  "create table `t` (`a` int, key `k`'(`b"

theorem extract_of_stopsAt_indexed :
    StopsAt true indexed ⟨.backquoted, "k", ⟨32, 33⟩⟩ ∧
    (∀ i ≤ 33, indexCut.toList[i]? = indexed.toList[i]?) ∧
    indexCut.toList[34]? ≠ some '\x60' ∧
    extract true indexCut = extract true indexed ∧
    StopsAt true indexCut ⟨.backquoted, "k", ⟨32, 33⟩⟩ ∧
    ∀ g p, extract true indexCut ≠ .error (.unterminatedQuote g p) := by
  have hstops : StopsAt true indexed ⟨.backquoted, "k", ⟨32, 33⟩⟩ := by
    refine ⟨(scan indexed).tokens.take 6, (scan indexed).tokens.drop 7,
      ⟨"t", [], some ⟨"a", "int", none⟩, []⟩, ⟨"t", [], some ⟨"a", "int", none⟩, []⟩, ?_, ?_, ?_⟩
    all_goals decide +kernel
  have hsame : ∀ i ≤ 33, indexCut.toList[i]? = indexed.toList[i]? := by decide +kernel
  have hnext : indexCut.toList[34]? ≠ some '\x60' := by decide +kernel
  exact ⟨hstops, hsame, hnext, extract_of_stopsAt hstops hsame hnext⟩

end TableStruct
