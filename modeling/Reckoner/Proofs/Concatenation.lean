import Reckoner.Proofs.Layout
import Reckoner.Proofs.Lines
import Reckoner.Proofs.Report

/-!
# One text after another

A text that is a program can be put before another text without a gap. The two do not run
together, because a program ends in blank space or in a semicolon (`exists_body_of_parse`). So
the tokens of the whole are those of the first text without its end mark and those of the
second, further down by the lines of the first (`exists_row_of_scan`, `scan_add`). The
statements of the first text are read as before, and the reader then stands at the second
(`parse_append`).
-/

namespace Reckoner

/-! ## Scanning -/

theorem lineAfter_eq (line : Nat) (c : Char) : lineAfter line c = line + lineFeeds [c] := by
  by_cases hc : c = '\n' <;> simp [lineAfter, lineFeeds, hc]

/-- Further down, a text has the same tokens or the same error, further down. -/
theorem scan_add (line k : Nat) (cs : List Char) :
    scan (line + k) cs =
      mapResult (· + k) (List.map (Located.mapLine (· + k))) (scan line cs) := by
  induction cs using text_induction generalizing line with
  | nil =>
    rw [scan_nil, scan_nil]
    rfl
  | blank c cs hc ih =>
    rw [scan_blank _ hc, scan_blank _ hc, ← ih, lineAfter_eq, lineAfter_eq, Nat.add_right_comm]
  | lexeme l t after hl ha ih =>
    rw [scan_lexeme _ hl ha, scan_lexeme _ hl ha, ih, ← Located.mapLine_eq (· + k) ⟨t, line⟩]
    cases scan line after <;> rfl
  | leadingZero l after hl ha =>
    rw [scan_leadingZero _ hl ha, scan_leadingZero _ hl ha]
    rfl
  | stray c cs hc =>
    rw [scan_stray _ hc, scan_stray _ hc]
    rfl

/-- No character prolongs the last token of the row. -/
def Closed (row : List Located) : Prop :=
  ∀ t ∈ row.getLast?, ∀ c, t.token.prolongs c = false

theorem Closed.of_cons {t : Located} {row : List Located} (h : Closed (t :: row)) : Closed row := by
  intro u hu
  refine h u ?_
  rw [Option.mem_def] at hu
  simp [List.getLast?_cons, hu]

theorem Closed.append {row : List Located} (h : Closed row) (hne : row ≠ []) (u : List Located) :
    Closed (u ++ row) := by
  intro t ht
  refine h t ?_
  rwa [List.getLast?_append, List.getLast?_eq_some_getLast hne, Option.some_or,
    ← List.getLast?_eq_some_getLast hne] at ht

/-- The tokens of a text are a row and the one end mark. Behind a closed row come the tokens of
what follows the text. -/
theorem exists_row_of_scan {line : Nat} {cs : List Char} {ts : List Located}
    (h : scan line cs = .ok ts) : ∃ row, ts = row ++ [⟨.eof, line + lineFeeds cs⟩] ∧
      (∀ t ∈ row, t.token ≠ .eof) ∧ (Closed row → ∀ ds, scan line (cs ++ ds) =
        (scan (line + lineFeeds cs) ds).map (row ++ ·)) := by
  induction cs using text_induction generalizing line ts with
  | nil =>
    rw [scan_nil] at h
    cases h
    exact ⟨[], rfl, by simp, fun _ ds => Scans.nil⟩
  | blank c cs hc ih =>
    have hline : lineAfter line c + lineFeeds cs = line + lineFeeds (c :: cs) := by
      rw [lineAfter_eq, Nat.add_assoc, ← lineFeeds_append, List.singleton_append]
    rw [scan_blank _ hc] at h
    obtain ⟨row, rfl, hrow, hseam⟩ := ih h
    refine ⟨row, by rw [hline], hrow, fun hclosed ds => ?_⟩
    rw [List.cons_append, scan_blank _ hc, hseam hclosed, hline]
  | lexeme l t after hl ha ih =>
    obtain ⟨us, hus, rfl⟩ := (scan_lexeme_eq_ok_iff _ hl ha).1 h
    obtain ⟨row, rfl, hrow, hseam⟩ := ih hus
    have hline : lineFeeds (l ++ after) = lineFeeds after := by
      rw [lineFeeds_append, hl.lineFeeds_eq_zero, Nat.zero_add]
    have hne : ∀ u ∈ ⟨t, line⟩ :: row, u.token ≠ .eof :=
      List.forall_mem_cons.2 ⟨hl.token_ne.1, hrow⟩
    refine ⟨⟨t, line⟩ :: row, by rw [hline]; rfl, hne, ?_⟩
    intro hclosed ds
    -- At the end of the text the lexeme is the last one, and the row says that it ends there.
    have hends : Ends t (after ++ ds) := ha.append fun hnil d _ => by
      subst hnil
      rw [scan_nil] at hus
      have hrow : row = [] := by simpa using congrArg List.length (Except.ok.inj hus)
      subst hrow
      exact hclosed ⟨t, line⟩ rfl d
    rw [List.append_assoc, scan_lexeme _ hl hends, hseam hclosed.of_cons, hline]
    cases scan (line + lineFeeds after) ds <;> rfl
  | leadingZero l after hl ha => simp [scan_leadingZero _ hl ha] at h
  | stray c cs hc => simp [scan_stray _ hc] at h

/-! ## Reading -/

/-- The tokens `pre` are read as the statements `p`, whatever follows, and the reader goes on
behind them. -/
def Precedes (pre : List Located) (p : List Statement) : Prop :=
  ∀ ts, statements (pre ++ ts) = (statements ts).map (p ++ ·)

theorem Precedes.nil : Precedes [] [] := by
  intro ts
  rw [List.nil_append]
  cases statements ts with
  | mk outcome us => cases outcome <;> rfl

theorem Precedes.step {u pre : List Located} {s : Statement} {p : List Statement}
    (hs : DerivesStatement u s) (h : Precedes pre p) : Precedes (u ++ pre) (s :: p) := by
  intro ts
  have hread : assignment (u ++ (pre ++ ts)) = .done s (pre ++ ts) :=
    assignment_eq_done_iff.2 ⟨u, rfl, hs⟩
  rw [List.append_assoc, statements_of_assignment hread, h ts]
  cases statements ts with
  | mk outcome us => cases outcome <;> rfl

/-- The tokens of a program are those of its statements and the end mark. A statement ends in a
semicolon, which no character prolongs. -/
theorem DerivesProgram.exists_body {w : List Located} {p : List Statement}
    (h : DerivesProgram w p) :
    ∃ pre l, w = pre ++ [⟨.eof, l⟩] ∧ Closed pre ∧ Precedes pre p := by
  induction h with
  | @done l => exact ⟨[], l, rfl, by simp [Closed], .nil⟩
  | @step u v s p hs _ ih =>
    obtain ⟨pre, l, rfl, hclosed, hpre⟩ := ih
    refine ⟨u ++ pre, l, by simp, ?_, .step hs hpre⟩
    obtain @⟨name, u, a, k, m, n, hu⟩ := hs
    have hsemicolon : Closed [⟨.semicolon, n⟩] := by
      rintro t ⟨⟩ c
      rfl
    rcases List.eq_nil_or_concat pre with rfl | ⟨pre, t, rfl⟩
    · rw [List.append_nil]
      exact hsemicolon.append (by simp) _
    · exact hclosed.append (by simp) _

theorem lastLine_append {pre ts : List Located} (h : ts ≠ []) :
    lastLine (pre ++ ts) = lastLine ts := by
  rw [lastLine, lastLine, List.getLast?_append, List.getLast?_eq_some_getLast h, Option.some_or]

theorem parse_append {pre ts : List Located} {p : List Statement} (h : Precedes pre p)
    (hts : ts ≠ []) : parse (pre ++ ts) = (parse ts).map (p ++ ·) := by
  unfold parse
  rw [h ts, lastLine_append hts]
  cases statements ts with
  | mk outcome us =>
    cases outcome with
    | ok q => rfl
    | error e =>
      obtain ⟨line, cause⟩ := e
      cases cause <;> rfl

theorem eq_of_append_eof {row pre us : List Located} {t : Located} {l : Nat}
    (h : row ++ [t] = pre ++ ⟨.eof, l⟩ :: us) (hrow : ∀ t ∈ row, t.token ≠ .eof) : row = pre := by
  rcases List.eq_nil_or_concat us with rfl | ⟨us, u, rfl⟩
  · exact (List.append_inj' h rfl).1
  · have h' : row ++ [t] = (pre ++ ⟨.eof, l⟩ :: us) ++ [u] := by simpa using h
    obtain ⟨rfl, -⟩ := List.append_inj' h' rfl
    exact absurd rfl (hrow ⟨.eof, l⟩ (by simp))

/-- The tokens of a text that is a program, and what can be put behind it. -/
theorem exists_body_of_parse {line : Nat} {cs : List Char} {ts : List Located}
    {p : List Statement} (hts : scan line cs = .ok ts) (hp : parse ts = .ok p) :
    ∃ row, Precedes row p ∧ ∀ ds, scan line (cs ++ ds) =
      (scan (line + lineFeeds cs) ds).map (row ++ ·) := by
  obtain ⟨row, rfl, hrow, hseam⟩ := exists_row_of_scan hts
  obtain ⟨us, hus⟩ := parse_eq_ok_iff_statements.1 hp
  obtain ⟨w, hw, hd⟩ := statements_eq_done_iff.1 hus
  obtain ⟨pre, l, rfl, hclosed, hpre⟩ := hd.exists_body
  obtain rfl : row = pre := eq_of_append_eof (by simpa using hw) hrow
  exact ⟨row, hpre, hseam hclosed⟩

/-! ## The whole text -/

/-- Behind a text that is a program, another text is read as it is alone, further down. -/
theorem parse_tokenize_append {s₁ : String} {a : List Statement}
    (h : tokenize s₁ >>= parse = .ok a) (s₂ : String) :
    tokenize (s₁ ++ s₂) >>= parse =
      mapResult (· + lineFeeds s₁.toList)
        (fun b => a ++ b.map (Statement.mapLines (· + lineFeeds s₁.toList)))
        (tokenize s₂ >>= parse) := by
  obtain ⟨ts, hts, hp⟩ := bind_eq_ok_iff.1 h
  obtain ⟨row, hrow, hseam⟩ := exists_body_of_parse hts hp
  rw [tokenize, String.toList_append, hseam, scan_add]
  cases h₂ : scan 1 s₂.toList with
  | error e =>
    rw [tokenize, h₂]
    rfl
  | ok us =>
    have hus : us ≠ [] := ne_nil_of_scan h₂
    rw [tokenize, h₂]
    change parse (row ++ us.map _) = mapResult _ _ (parse us)
    rw [parse_append hrow (by simpa using hus), parse_relabel _ hus]
    cases parse us <;> rfl

/-- A text behind a text that is a program is read as it is alone : a program as the same
statements behind those of the first text, and an error as the same error, in both cases with
the lines of the first text added. The whole then runs as the two programs one after the other
in one store. -/
theorem parse_tokenize_append_cases (s₁ s₂ : String) (a : List Statement)
    (h : tokenize s₁ >>= parse = .ok a) :
    (∀ b, tokenize s₂ >>= parse = .ok b →
      tokenize (s₁ ++ s₂) >>= parse =
          .ok (a ++ b.map (Statement.mapLines (· + lineFeeds s₁.toList))) ∧
        evaluate (s₁ ++ s₂) = ((Store.empty.run a).andThen fun s =>
          s.run (b.map (Statement.mapLines (· + lineFeeds s₁.toList)))).result) ∧
    ∀ e, tokenize s₂ >>= parse = .error e →
      tokenize (s₁ ++ s₂) >>= parse = .error ⟨e.line + lineFeeds s₁.toList, e.cause⟩ := by
  refine ⟨fun b hb => ?_, fun e he => ?_⟩
  · have hread := parse_tokenize_append h s₂
    rw [hb] at hread
    refine ⟨hread, ?_⟩
    obtain ⟨ts, hts, hp⟩ := bind_eq_ok_iff.1 hread
    rw [evaluate, hts, ← Store.run_append]
    change parse ts >>= _ = _
    rw [hp]
    rfl
  · rw [parse_tokenize_append h, he]
    exact congrArg Except.error (e.mapLine_eq _)

/-- Two programs without a gap between them, the first with a line feed in it, and a faulty
literal in place of the second. -/
theorem parse_tokenize_append_assigned :
    tokenize "x =\n1;" >>= parse = .ok [⟨"x", .number 1 2, 1⟩] ∧
      tokenize ("x =\n1;" ++ "y = x;") >>= parse =
        .ok [⟨"x", .number 1 2, 1⟩, ⟨"y", .var "x" 2, 2⟩] ∧
      evaluate ("x =\n1;" ++ "y = x;") = .ok ⟨[("x", 1), ("y", 1)]⟩ ∧
      tokenize ("x =\n1;" ++ "007") >>= parse = .error ⟨2, .leadingZero "007"⟩ := by
  have htokens₁ : tokenize "x =\n1;" = .ok [⟨.ident "x", 1⟩, ⟨.assign, 1⟩, ⟨.integer 1, 2⟩,
      ⟨.semicolon, 2⟩, ⟨.eof, 2⟩] := by
    decide +kernel
  have htokens₂ : tokenize "y = x;" = .ok [⟨.ident "y", 1⟩, ⟨.assign, 1⟩, ⟨.ident "x", 1⟩,
      ⟨.semicolon, 1⟩, ⟨.eof, 1⟩] := by
    decide +kernel
  have hfaulty : tokenize "007" = .error ⟨1, .leadingZero "007"⟩ := by
    decide +kernel
  have h₁ : tokenize "x =\n1;" >>= parse = .ok [⟨"x", .number 1 2, 1⟩] := by
    rw [htokens₁]
    exact (DerivesProgram.step (.assign (.product (.factor .number))) .done).parse_append []
  have h₂ : tokenize "y = x;" >>= parse = .ok [⟨"y", .var "x" 1, 1⟩] := by
    rw [htokens₂]
    exact (DerivesProgram.step (.assign (.product (.factor .var))) .done).parse_append []
  have h₃ : tokenize "007" >>= parse = .error ⟨1, .leadingZero "007"⟩ := by
    rw [hfaulty]
    rfl
  obtain ⟨hread, hrun⟩ := (parse_tokenize_append_cases _ "y = x;" _ h₁).1 _ h₂
  have hfails := (parse_tokenize_append_cases _ "007" _ h₁).2 _ h₃
  exact ⟨h₁, hread, hrun.trans (by decide +kernel), hfails⟩

end Reckoner
