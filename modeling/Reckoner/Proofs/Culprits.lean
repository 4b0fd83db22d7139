import Reckoner.Proofs.Concatenation
import Reckoner.Proofs.Definedness
import Reckoner.Proofs.Viability

/-!
# Errors and the lines that show them

The error of a source text is on a line of the text, and that line shows what the error is
about (`Culprit`) : the stray character, the literal with the leading zero, a lexeme of the kind
that was found, or the variable as it is written. An error at the end mark is on the last line.

A part of a text that holds no line feed stands on the line that the line feeds before it count
(`standsOn`). The scanner counts them as it goes, so its own errors are where it says
(`culprit_of_scan`), and so are the tokens (`hasToken_of_mem`). Later errors take their line from
a token : the wrong one (`culprit_of_parse`) or the name of the variable (`culprit_of_run`). The
tokens do not run out, because a row that is viable with its end mark is a program
(`Viable.parse_of_eof`).
-/

namespace Reckoner

/-! ## Lines of a text -/

/-- The part `l` of the text `cs`, with `before` and `after` around it, stands on the line `n`,
which it shares with the end of `before` and the start of `after`. -/
structure StandsOn (cs : List Char) (n : Nat) (before l after : List Char) : Prop where
  text : cs = before ++ l ++ after
  number : n = 1 + lineFeeds before
  line : ∃ left right, left <:+ before ∧ right <+: after ∧
    (cs.splitOn '\n')[n - 1]? = some (left ++ l ++ right)

/-- A text that starts without a line feed shares its first line with what follows. -/
theorem exists_splitOn_append {l : List Char} (hl : '\n' ∉ l) (after : List Char) :
    ∃ right, right <+: after ∧ ((l ++ after).splitOn '\n')[0]? = some (l ++ right) := by
  by_cases hafter : '\n' ∈ after
  · obtain ⟨right, rest, rfl, hright⟩ := List.eq_append_cons_of_mem hafter
    have hfree : '\n' ∉ l ++ right := by simp [hl, hright]
    refine ⟨right, List.prefix_append _ _, ?_⟩
    rw [← List.append_assoc, List.splitOn_append_cons_self_of_not_mem hfree]
    rfl
  · have hfree : '\n' ∉ l ++ after := by simp [hl, hafter]
    refine ⟨after, List.prefix_rfl, ?_⟩
    rw [List.splitOn_eq_singleton hfree]
    rfl

/-- The line of a part is found by counting the line feeds before it. It starts with the text
before the part if that holds none. -/
theorem exists_splitOn_getElem? (before : List Char) {l : List Char} (hl : '\n' ∉ l)
    (after : List Char) : ∃ left right, left <:+ before ∧ right <+: after ∧
      (lineFeeds before = 0 → left = before) ∧
      ((before ++ (l ++ after)).splitOn '\n')[lineFeeds before]? = some (left ++ (l ++ right)) := by
  induction before with
  | nil =>
    obtain ⟨right, hright, hline⟩ := exists_splitOn_append hl after
    exact ⟨[], right, List.suffix_rfl, hright, fun _ => rfl, hline⟩
  | cons c before ih =>
    obtain ⟨left, right, hleft, hright, hfirst, hline⟩ := ih
    rw [List.cons_append, List.splitOn_cons_eq_if_modifyHead]
    by_cases hc : c = '\n'
    · have hfeeds : lineFeeds (c :: before) = lineFeeds before + 1 := by simp [lineFeeds, hc]
      refine ⟨left, right, hleft.trans (List.suffix_cons c before), hright, by simp [hfeeds], ?_⟩
      rw [if_pos (by simpa using hc), hfeeds, List.getElem?_cons_succ, hline]
    · have hfeeds : lineFeeds (c :: before) = lineFeeds before := by simp [lineFeeds, hc]
      rw [if_neg (by simpa using hc), hfeeds, List.getElem?_modifyHead, hline]
      by_cases hzero : lineFeeds before = 0
      · obtain rfl := hfirst hzero
        exact ⟨c :: left, right, List.suffix_rfl, hright, fun _ => rfl, by simp [hzero]⟩
      · refine ⟨left, right, hleft.trans (List.suffix_cons c before), hright, fun h => ?_, ?_⟩
        · exact absurd h hzero
        · simp [hzero]

/-- A part without a line feed stands on a line. -/
theorem standsOn (before : List Char) {l : List Char} (hl : '\n' ∉ l) (after : List Char) :
    StandsOn (before ++ l ++ after) (1 + lineFeeds before) before l after := by
  obtain ⟨left, right, hleft, hright, -, hline⟩ := exists_splitOn_getElem? before hl after
  refine ⟨rfl, rfl, left, right, hleft, hright, ?_⟩
  rw [Nat.add_sub_cancel_left]
  simpa using hline

theorem StandsOn.le {cs : List Char} {n : Nat} {before l after : List Char}
    (h : StandsOn cs n before l after) : 1 ≤ n ∧ n ≤ 1 + lineFeeds cs := by
  rw [h.number, h.text, lineFeeds_append, lineFeeds_append]
  omega

/-! ## What an error is about -/

/-- On the line `n`, the text has a lexeme of the token `t`, one of those of a proper layout. -/
def HasToken (cs : List Char) (n : Nat) (t : Token) : Prop :=
  ∃ before piece after rest, Layout.Proper ⟨before ++ piece :: after, rest⟩ ∧ piece.token = t ∧
    StandsOn cs n (Layout.textFrom piece.gap before) piece.lexeme (Layout.textFrom rest after)

/-- On the line `n` the text has a lexeme of the kind `k`, or its end, if that is what `k` is. -/
def HasKind (cs : List Char) (n : Nat) (k : Kind) : Prop :=
  if k = .eof then n = 1 + lineFeeds cs else ∃ t : Token, t.kind = k ∧ HasToken cs n t

/-- No digit stands right before or right after a part. -/
def MaximalDigits (before after : List Char) : Prop :=
  (∀ c ∈ before.getLast?, c.isDigit = false) ∧ ∀ c ∈ after.head?, c.isDigit = false

/-- The line `n` of the text shows what the cause is about, and no blank space was expected. -/
def Culprit (cs : List Char) (n : Nat) : Cause → Prop
  | .unexpectedCharacter c => Stray c ∧ ∃ before after, StandsOn cs n before [c] after
  | .leadingZero digits => LeadingZero digits.toList ∧ ∃ before after,
      StandsOn cs n before digits.toList after ∧ MaximalDigits before after
  | .unexpectedToken expected found => expected ≠ .blank ∧ HasKind cs n found
  | .expectedExpression found => HasKind cs n found
  | .endOfInput => False
  | .unknownVariable name => HasToken cs n (.ident name)

/-- The kinds of tokens that a cause mentions. -/
def Cause.kinds : Cause → List Kind
  | .unexpectedToken expected found => [expected, found]
  | .expectedExpression found => [found]
  | _ => []

theorem HasToken.le {cs : List Char} {n : Nat} {t : Token} (h : HasToken cs n t) :
    1 ≤ n ∧ n ≤ 1 + lineFeeds cs := by
  obtain ⟨_, _, _, _, -, -, hline⟩ := h
  exact hline.le

theorem HasKind.le {cs : List Char} {n : Nat} {k : Kind} (h : HasKind cs n k) :
    1 ≤ n ∧ n ≤ 1 + lineFeeds cs := by
  unfold HasKind at h
  split at h
  · omega
  · obtain ⟨t, -, ht⟩ := h
    exact ht.le

theorem Culprit.le {cs : List Char} {n : Nat} {cause : Cause} (h : Culprit cs n cause) :
    1 ≤ n ∧ n ≤ 1 + lineFeeds cs := by
  cases cause with
  | unexpectedCharacter c =>
    obtain ⟨-, _, _, hline⟩ := h
    exact hline.le
  | leadingZero digits =>
    obtain ⟨-, _, _, hline, -⟩ := h
    exact hline.le
  | unexpectedToken expected found => exact h.2.le
  | expectedExpression found => exact HasKind.le h
  | endOfInput => exact h.elim
  | unknownVariable name => exact HasToken.le h

/-- A token of a text has a lexeme. -/
theorem HasToken.exists_lexeme {cs : List Char} {n : Nat} {t : Token} (h : HasToken cs n t) :
    ∃ l, Lexeme l t := by
  obtain ⟨before, piece, after, rest, hp, rfl, -⟩ := h
  exact ⟨piece.lexeme, hp.lexemes piece (by simp)⟩

theorem HasKind.ne_blank {cs : List Char} {n : Nat} {k : Kind} (h : HasKind cs n k) :
    k ≠ .blank := by
  rintro rfl
  rw [HasKind, if_neg (by decide)] at h
  obtain ⟨t, hk, ht⟩ := h
  obtain ⟨l, hl⟩ := ht.exists_lexeme
  exact hl.token_ne.2 (Token.eq_of_kind hk (by decide))

theorem Culprit.blank_notMem_kinds {cs : List Char} {n : Nat} {cause : Cause}
    (h : Culprit cs n cause) : .blank ∉ cause.kinds := by
  cases cause with
  | unexpectedToken expected found => simp [Cause.kinds, h.1.symm, h.2.ne_blank.symm]
  | expectedExpression found => simp [Cause.kinds, (HasKind.ne_blank h).symm]
  | _ => simp [Cause.kinds]

/-! ## Errors of the scanner -/

/-- A digit at the end of a lexeme is not followed by one. -/
theorem Lexeme.isDigit_head? {l after : List Char} {t : Token} (h : Lexeme l t)
    (ha : Ends t after) : ∀ c ∈ l.getLast?, c.isDigit → ∀ d ∈ after.head?, d.isDigit = false := by
  intro c hc hdigit d hd
  have hend := ha d hd
  cases h with
  | name => exact (startsName_of_not_continuesName hend).2
  | zero => exact hend
  | numeral => exact hend
  | _ =>
    cases hc
    cases hdigit

/-- The scanner's error stands where the scanner says, if it did not start behind a digit and
before another. -/
theorem culprit_of_scan {before cs : List Char} {e : Error}
    (hedge : ∀ c ∈ before.getLast?, c.isDigit → ∀ d ∈ cs.head?, d.isDigit = false)
    (h : scan (1 + lineFeeds before) cs = .error e) : Culprit (before ++ cs) e.line e.cause := by
  induction cs using text_induction generalizing before with
  | nil => simp [scan_nil] at h
  | blank c cs hc ih =>
    have hgap : ∀ d ∈ [c], Text.isBlank d := by simpa using hc
    rw [← List.singleton_append, scan_gap _ hgap, Nat.add_assoc, ← lineFeeds_append] at h
    rw [← List.singleton_append, ← List.append_assoc]
    refine ih (fun d hd hdigit => ?_) h
    obtain rfl : c = d := by simpa using hd
    simp [(startsName_of_not_continuesName (continuesName_of_isBlank hc)).2] at hdigit
  | lexeme l t after hl ha ih =>
    have hafter : scan (1 + lineFeeds (before ++ l)) after = .error e := by
      rw [scan_lexeme _ hl ha] at h
      rw [hl.lineFeeds_append]
      cases hs : scan (1 + lineFeeds before) after with
      | ok ts => simp [hs, Except.map] at h
      | error e' => simpa [hs, Except.map] using h
    rw [← List.append_assoc]
    refine ih (fun d hd => hl.isDigit_head? ha d ?_) hafter
    obtain ⟨c, cs, rfl⟩ := hl.exists_cons
    simpa [List.getLast?_append] using hd
  | leadingZero l after hl ha =>
    rw [scan_leadingZero _ hl ha] at h
    cases h
    have hfeed : '\n' ∉ l := by
      obtain ⟨hdigits⟩ := hl
      intro hmem
      rcases List.mem_cons.1 hmem with hzero | hmem
      · simp at hzero
      · simpa using hdigits _ hmem
    have hbefore : ∀ c ∈ before.getLast?, c.isDigit = false := by
      intro c hc
      rw [← Bool.not_eq_true]
      intro hdigit
      obtain ⟨-⟩ := hl
      simpa using hedge c hc hdigit '0' rfl
    rw [← List.append_assoc]
    simp only [Culprit, String.toList_ofList]
    exact ⟨hl, before, after, standsOn before hfeed after, hbefore, ha⟩
  | stray c cs hc =>
    rw [scan_stray _ hc] at h
    cases h
    have hfeed : '\n' ∉ [c] := by
      intro hmem
      obtain rfl : '\n' = c := by simpa using hmem
      simpa [Text.isBlank_lineFeed] using hc.notBlank
    have := standsOn before hfeed cs
    exact ⟨hc, before, cs, by simpa using this⟩

/-! ## Tokens -/

namespace Layout

/-- A token of a layout is the end mark, on the last line, or that of a piece, on its line. -/
theorem mem_tokensFrom {rest before : List Char} {pieces : List Piece} {t : Token} {n : Nat}
    (h : ⟨t, n⟩ ∈ tokensFrom rest before pieces) :
    (t = .eof ∧ n = 1 + lineFeeds (before ++ textFrom rest pieces)) ∨
      ∃ ps piece qs, pieces = ps ++ piece :: qs ∧ piece.token = t ∧
        n = 1 + lineFeeds (before ++ textFrom piece.gap ps) := by
  induction pieces generalizing before with
  | nil => exact .inl (by simpa [tokensFrom, textFrom] using h)
  | cons piece pieces ih =>
    rcases List.mem_cons.1 h with heq | hmem
    · obtain ⟨rfl, rfl⟩ := Located.mk.inj heq
      exact .inr ⟨[], piece, pieces, rfl, rfl, rfl⟩
    · rcases ih hmem with ⟨rfl, rfl⟩ | ⟨ps, p, qs, rfl, rfl, rfl⟩
      · exact .inl ⟨rfl, by simp [textFrom]⟩
      · exact .inr ⟨piece :: ps, p, qs, rfl, rfl, by simp [textFrom]⟩

theorem textFrom_append (rest : List Char) (ps : List Piece) (piece : Piece) (qs : List Piece) :
    textFrom rest (ps ++ piece :: qs) =
      textFrom piece.gap ps ++ piece.lexeme ++ textFrom rest qs := by
  induction ps with
  | nil => rfl
  | cons p ps ih => simp [textFrom, ih]

end Layout

/-- The tokens of a text are the end mark on the last line and lexemes on their lines. -/
theorem hasToken_of_mem {cs : List Char} {ts : List Located} (h : scan 1 cs = .ok ts)
    {t : Located} (ht : t ∈ ts) :
    (t.token = .eof ∧ t.line = 1 + lineFeeds cs) ∨ HasToken cs t.line t.token := by
  obtain ⟨⟨pieces, rest⟩, hp, rfl, rfl⟩ := Layout.exists_of_scan [] h
  rcases Layout.mem_tokensFrom ht with hend | ⟨ps, piece, qs, rfl, htoken, hline⟩
  · exact .inl hend
  · have hl := hp.lexemes piece (by simp)
    have hfeed : '\n' ∉ piece.lexeme := List.count_eq_zero.1 hl.lineFeeds_eq_zero
    have hstands := standsOn (Layout.textFrom piece.gap ps) hfeed (Layout.textFrom rest qs)
    rw [← Layout.textFrom_append, ← List.nil_append (Layout.textFrom piece.gap ps),
      ← hline] at hstands
    exact .inr ⟨ps, piece, qs, rest, hp, htoken, hstands⟩

theorem hasKind_of_mem {cs : List Char} {ts : List Located} (h : scan 1 cs = .ok ts)
    {t : Located} (ht : t ∈ ts) : HasKind cs t.line t.kind := by
  rcases hasToken_of_mem h ht with ⟨htoken, hline⟩ | htoken
  · rw [HasKind, if_pos (by rw [Located.kind, htoken]; rfl)]
    exact hline
  · obtain ⟨l, hl⟩ := htoken.exists_lexeme
    have hkind : t.kind ≠ .eof := fun hk => hl.token_ne.1 (Token.eq_of_kind hk (by decide))
    rw [HasKind, if_neg hkind]
    exact ⟨t.token, rfl, htoken⟩

/-! ## Errors of the reader -/

theorem DerivesProgram.token_ne_blank {w : List Located} {p : List Statement}
    (h : DerivesProgram w p) : ∀ t ∈ w, t.token ≠ .blank := by
  induction h with
  | done => simp
  | step hs _ ih =>
    obtain ⟨hu⟩ := hs
    have := hu.token_ne
    grind

/-- A token with no end mark before it is the first end mark or stands before it. -/
theorem eq_or_mem_of_append_eof {w us pre vs : List Located} {t : Located} {l : Nat}
    (h : w ++ t :: us = pre ++ ⟨.eof, l⟩ :: vs) (hw : ∀ u ∈ w, u.token ≠ .eof) :
    (w = pre ∧ t = ⟨.eof, l⟩) ∨ t ∈ pre := by
  rcases List.append_eq_append_iff.1 h with ⟨x, rfl, hx⟩ | ⟨x, rfl, hx⟩
  · cases x with
    | nil => exact .inl ⟨by simp, (List.cons.inj hx).1⟩
    | cons a x => exact .inr (by simp [(List.cons.inj hx).1])
  · cases x with
    | nil => exact .inl ⟨by simp, (List.cons.inj hx).1.symm⟩
    | cons a x =>
      obtain ⟨rfl, -⟩ := List.cons.inj hx
      exact absurd rfl (hw ⟨.eof, l⟩ (by simp))

theorem Viable.exists_derivesProgram {ts : List Located} (h : Viable ts) :
    ∃ us pre l vs p, ts ++ us = pre ++ ⟨.eof, l⟩ :: vs ∧ (∀ t ∈ pre, t.token ≠ .eof) ∧
      DerivesProgram (pre ++ [⟨.eof, l⟩]) p := by
  obtain ⟨us, p, hp⟩ := h
  obtain ⟨vs, hs⟩ := parse_eq_ok_iff_statements.1 hp
  obtain ⟨x, hx, hd⟩ := statements_eq_done_iff.1 hs
  obtain ⟨pre, l, rfl, hpre⟩ := hd.exists_eof
  exact ⟨us, pre, l, vs, p, by simpa using hx, hpre, hd⟩

/-- Blank space makes a row unviable. -/
theorem Viable.token_ne_blank {w : List Located} {t : Located} (h : Viable (w ++ [t]))
    (hw : ∀ u ∈ w, u.token ≠ .eof) : t.token ≠ .blank := by
  obtain ⟨us, pre, l, vs, p, hsplit, -, hd⟩ := h.exists_derivesProgram
  refine hd.token_ne_blank t ?_
  rcases eq_or_mem_of_append_eof (by simpa using hsplit) hw with ⟨-, rfl⟩ | hmem
  · simp
  · simp [hmem]

/-- A row that is viable with its end mark is a program. -/
theorem Viable.parse_of_eof {row : List Located} {l : Nat} (h : Viable (row ++ [⟨.eof, l⟩]))
    (hrow : ∀ u ∈ row, u.token ≠ .eof) : ∃ p, parse (row ++ [⟨.eof, l⟩]) = .ok p := by
  obtain ⟨us, pre, m, vs, p, hsplit, hpre, hd⟩ := h.exists_derivesProgram
  rcases eq_or_mem_of_append_eof (by simpa using hsplit) hrow with ⟨rfl, heof⟩ | hmem
  · rw [← heof] at hd
    exact ⟨p, by simpa using hd.parse_append []⟩
  · exact absurd rfl (hpre _ hmem)

/-- The reader's error is about a token of the text. -/
theorem culprit_of_parse {cs : List Char} {ts : List Located} {e : Error}
    (hts : scan 1 cs = .ok ts) (h : parse ts = .error e) :
    Culprit cs e.line e.cause := by
  obtain ⟨row, hrow, heof, -⟩ := exists_row_of_scan hts
  rcases cases_of_parse_eq_error h with ⟨-, hviable⟩ | ⟨w, t, us, wanted, hw, hwrong⟩
  · rw [hrow] at hviable h
    obtain ⟨p, hp⟩ := hviable.parse_of_eof heof
    simp [hp] at h
  · have hkind : HasKind cs t.line t.kind := hasKind_of_mem hts (by simp [hw])
    have hbefore : ∀ u ∈ w, u.token ≠ .eof := by
      intro u hu
      have hdrop : w ++ (t :: us).dropLast = row := by
        have := congrArg List.dropLast (hw.symm.trans hrow)
        simpa using this
      exact heof u (by simp [← hdrop, hu])
    cases hwrong.blames with
    | token expected =>
      have hexpected : expected ≠ .blank := by
        rintro rfl
        exact (hwrong.replaced ⟨.blank, 0⟩ rfl).token_ne_blank hbefore rfl
      exact ⟨hexpected, hkind⟩
    | expression => exact hkind

/-! ## The error of a text -/

/-- The variable that stops a run is a token of the text. -/
theorem culprit_of_run {cs : List Char} {ts : List Located} {p : List Statement} {e : Error}
    (hts : scan 1 cs = .ok ts) (hp : parse ts = .ok p)
    (h : (Store.empty.run p).error? = some e) :
    Culprit cs e.line e.cause := by
  obtain ⟨st, hst, r, hr, rfl⟩ := Store.exists_read_of_error? h
  have hmem := mem_of_read_of_parse hp st hst r hr
  rcases hasToken_of_mem hts hmem with ⟨heof, -⟩ | htoken
  · cases heof
  · exact htoken

theorem culprit_of_evaluate {source : String} {e : Error} (h : evaluate source = .error e) :
    Culprit source.toList e.line e.cause := by
  rcases evaluate_eq_error_iff.1 h with hscan | ⟨ts, hts, hparse | ⟨p, hp, hrun⟩⟩
  · exact @culprit_of_scan [] _ _ (by simp) hscan
  · exact culprit_of_parse hts hparse
  · exact culprit_of_run hts hp hrun

/-- The error of a source text is on one of its lines, and the line shows what it is about : the
stray character, the digits with the leading zero and no digit next to them, a lexeme of the kind
that was found, or the variable as written. The tokens never run out, an error at the end mark is
on the last line, and no error speaks of blank space. -/
theorem line_of_error_shows_culprit (source : String) (e : Error)
    (h : evaluate source = .error e) :
    1 ≤ e.line ∧ e.line ≤ 1 + lineFeeds source.toList ∧ e.cause ≠ .endOfInput ∧
      .blank ∉ e.cause.kinds ∧ Culprit source.toList e.line e.cause := by
  have hculprit := culprit_of_evaluate h
  refine ⟨hculprit.le.1, hculprit.le.2, fun hend => ?_, hculprit.blank_notMem_kinds, hculprit⟩
  rw [hend] at hculprit
  exact hculprit

/-- A literal with a leading zero on the second line, whose digits are also the end of another
literal there, and a sign where an operand is missing on the third. -/
theorem line_of_error_shows_leadingZero :
    evaluate "x = 1;\ny = 1007 + 007;" = .error ⟨2, .leadingZero "007"⟩ ∧
      (∃ before after, StandsOn "x = 1;\ny = 1007 + 007;".toList 2 before "007".toList after ∧
        MaximalDigits before after) ∧
      evaluate "x = 1;\ny = (x +\n* 2);" = .error ⟨3, .expectedExpression .times⟩ ∧
      HasKind "x = 1;\ny = (x +\n* 2);".toList 3 .times := by
  have hscan : tokenize "x = 1;\ny = 1007 + 007;" = .error ⟨2, .leadingZero "007"⟩ := by
    decide +kernel
  have htokens : tokenize "x = 1;\ny = (x +\n* 2);" = .ok [⟨.ident "x", 1⟩, ⟨.assign, 1⟩,
      ⟨.integer 1, 1⟩, ⟨.semicolon, 1⟩, ⟨.ident "y", 2⟩, ⟨.assign, 2⟩, ⟨.leftParen, 2⟩,
      ⟨.ident "x", 2⟩, ⟨.plus, 2⟩, ⟨.times, 3⟩, ⟨.integer 2, 3⟩, ⟨.rightParen, 3⟩,
      ⟨.semicolon, 3⟩, ⟨.eof, 3⟩] := by
    decide +kernel
  have hzero : evaluate "x = 1;\ny = 1007 + 007;" = .error ⟨2, .leadingZero "007"⟩ :=
    evaluate_eq_error_iff.2 (.inl hscan)
  have htimes : evaluate "x = 1;\ny = (x +\n* 2);" = .error ⟨3, .expectedExpression .times⟩ := by
    refine evaluate_eq_error_iff.2 (.inr ⟨_, htokens, .inl ?_⟩)
    simp [parse, statements_cons, assignment, identifier, definition, expect, phrase_sum,
      phrase_product, phrase_factor_cons, chain_cons, Prec.operator?, Prec.operand,
      Located.kind, Token.kind, Reading.map]
  obtain ⟨-, -, -, -, -, hdigits⟩ := line_of_error_shows_culprit _ _ hzero
  obtain ⟨-, -, -, -, hkind⟩ := line_of_error_shows_culprit _ _ htimes
  exact ⟨hzero, hdigits, htimes, hkind⟩

end Reckoner
