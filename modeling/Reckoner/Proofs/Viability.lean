import Reckoner.Proofs.Lookahead

/-!
# Errors stand at the first token that cannot follow

A row of tokens is viable when more tokens can make it a program. Reading a program fails as
early as it can : what was passed over is viable, and if the error is about a token, no tokens
behind that one would have helped.

That nothing helps is `localAt_statements`. For the rest, every reader is looked at behind a row
`v` that is already read. Where it stands there, something is awaited (`Awaits`) : if an
expression of the level comes next, the row stays viable. A reader that fails is then stuck
(`Stuck`) : the row up to there is viable, and it stays so with any of the wanted tokens
(`Blames`) in place of the one that is ahead. Reading one thing after another keeps this
(`FailsAfter.bind`).
-/

namespace Reckoner

/-- More tokens make the row a program. -/
def Viable (ts : List Located) : Prop :=
  ∃ us p, parse (ts ++ us) = .ok p

theorem Viable.of_append {w x : List Located} (h : Viable (w ++ x)) : Viable w := by
  obtain ⟨us, p, hp⟩ := h
  exact ⟨x ++ us, p, by rwa [← List.append_assoc]⟩

theorem DerivesProgram.viable {w x : List Located} {p : List Statement}
    (h : DerivesProgram (w ++ x) p) : Viable w := by
  refine ⟨x, p, ?_⟩
  simpa using h.parse_append []

/-! ## Being stuck -/

/-- The kinds of tokens that an expression can start with. -/
def Kind.StartsExpression (k : Kind) : Prop :=
  k ∈ [.ident, .integer, .leftParen, .plus, .minus]

instance : DecidablePred Kind.StartsExpression :=
  fun k => inferInstanceAs (Decidable (k ∈ _))

/-- The error is about the token `t`, which stands where a token of a kind in `wanted` has to
stand. -/
inductive Blames : Error → Located → (Kind → Prop) → Prop where
  | token (expected : Kind) (t : Located) :
    Blames ⟨t.line, .unexpectedToken expected t.kind⟩ t (· = expected)
  | expression (t : Located) :
    Blames ⟨t.line, .expectedExpression t.kind⟩ t Kind.StartsExpression

/-- Behind the row `w`, with the error `e` and the last tokens ahead, no reader could go on :
either the tokens have run out, or the first one ahead is blamed and any wanted one in its
place is fine. -/
inductive Stuck (w : List Located) : Error → List Located → Prop where
  | atEnd (viable : Viable w) : Stuck w endOfTokens []
  | atToken {e : Error} {t : Located} {us : List Located} {wanted : Kind → Prop}
      (viable : Viable w) (blames : Blames e t wanted)
      (replaced : ∀ t' : Located, wanted t'.kind → Viable (w ++ [t'])) : Stuck w e (t :: us)

variable {α β : Type} {v ts : List Located}

/-- If the reader fails at `ts` behind the row `v`, it is stuck behind what it has read. -/
def FailsAfter (v : List Located) (r : Reader α) (ts : List Located) : Prop :=
  ∀ e us, r ts = .fail e us → ∃ w, ts = w ++ us ∧ Stuck (v ++ w) e us

namespace FailsAfter

theorem of_done {r : Reader α} {a : α} {us : List Located} (h : r ts = .done a us) :
    FailsAfter v r ts := by
  intro e us' hr
  simp [h] at hr

/-- A reader that goes on as `r'` behind the first token. -/
theorem of_cons {r : Reader α} {t : Located} (r' : Reader α) (h : r (t :: ts) = r' ts)
    (hr' : FailsAfter (v ++ [t]) r' ts) : FailsAfter v r (t :: ts) := by
  intro e us hr
  obtain ⟨w, rfl, hw⟩ := hr' e us (h.symm.trans hr)
  exact ⟨t :: w, rfl, by simpa using hw⟩

/-- Reading on behind what a reader has read. -/
theorem bind {r : Reader α} {f : α → Reader β} (hr : FailsAfter v r ts)
    (hf : ∀ a us, r ts = .done a us → ∃ w, ts = w ++ us ∧ FailsAfter (v ++ w) (f a) us) :
    FailsAfter v (fun ts => (r ts).bind f) ts := by
  intro e us h
  cases hrts : r ts with
  | mk outcome rest =>
    simp only [hrts] at h
    cases outcome with
    | error e' =>
      rw [Reading.bind_fail] at h
      cases h
      exact hr e us hrts
    | ok a =>
      rw [Reading.bind_done] at h
      obtain ⟨w, rfl, hw⟩ := hf a rest hrts
      obtain ⟨x, rfl, hx⟩ := hw e us h
      exact ⟨w ++ x, by simp, by simpa using hx⟩

theorem map {r : Reader α} (f : α → β) (hr : FailsAfter v r ts)
    (hl : LocalAt r ts) : FailsAfter v (fun ts => (r ts).map f) ts := by
  refine bind hr fun a us h => ?_
  obtain ⟨w, hw⟩ := hl.exists_append h
  exact ⟨w, hw, of_done rfl⟩

end FailsAfter

/-- There are tokens of every kind. -/
theorem Kind.exists_token (k : Kind) : ∃ t : Located, t.kind = k := by
  cases k with
  | ident => exact ⟨⟨.ident "", 0⟩, rfl⟩
  | integer => exact ⟨⟨.integer 0, 0⟩, rfl⟩
  | plus => exact ⟨⟨.plus, 0⟩, rfl⟩
  | minus => exact ⟨⟨.minus, 0⟩, rfl⟩
  | times => exact ⟨⟨.times, 0⟩, rfl⟩
  | assign => exact ⟨⟨.assign, 0⟩, rfl⟩
  | leftParen => exact ⟨⟨.leftParen, 0⟩, rfl⟩
  | rightParen => exact ⟨⟨.rightParen, 0⟩, rfl⟩
  | semicolon => exact ⟨⟨.semicolon, 0⟩, rfl⟩
  | blank => exact ⟨⟨.blank, 0⟩, rfl⟩
  | eof => exact ⟨⟨.eof, 0⟩, rfl⟩

theorem failsAfter_expect {kind : Kind} (h : ∀ t : Located, t.kind = kind → Viable (v ++ [t])) :
    FailsAfter v (expect kind) ts := by
  intro e us hr
  obtain ⟨t', ht'⟩ := kind.exists_token
  have hviable : Viable v := (h t' ht').of_append
  cases ts with
  | nil =>
    cases hr
    exact ⟨[], rfl, by simpa using .atEnd hviable⟩
  | cons t ts =>
    by_cases hk : t.kind = kind
    · simp [expect, hk] at hr
    · rw [expect, if_neg hk] at hr
      cases hr
      exact ⟨[], rfl, by simpa using .atToken hviable (.token kind t) h⟩

theorem failsAfter_identifier (h : ∀ t : Located, t.kind = .ident → Viable (v ++ [t])) :
    FailsAfter v identifier ts := by
  intro e us hr
  -- A name fails like the expectation of its kind.
  have hexpect : expect .ident ts = .fail e us := by
    cases ts with
    | nil => cases hr; rfl
    | cons t ts =>
      obtain ⟨token, line⟩ := t
      cases token with
      | ident name => simp [identifier] at hr
      | _ => cases hr; rfl
  exact failsAfter_expect h e us hexpect

/-! ## Expressions -/

/-- Behind the row `v` an expression of the level can stand. -/
def Awaits (v : List Located) (p : Prec) : Prop :=
  ∀ w a, Derives p w a → Viable (v ++ w)

namespace Awaits

theorem operand {p : Prec} (h : Awaits v p) : Awaits v p.operand :=
  fun w a hw => h w a hw.of_operand

/-- An operator of a chain awaits an operand. -/
theorem operator {p : Prec} {t : Located} {op : Operator} {u : List Located} {left : Expr}
    (h : Awaits v p) (hop : p.operator? t.token = some op) (hu : Derives p u left) :
    Awaits (v ++ u ++ [t]) p.operand := by
  intro w a hw
  have := h _ _ (Derives.binary hop hu hw)
  simpa using this

/-- A sign awaits a factor. -/
theorem sign {t : Located} {s : Sign} (h : Awaits v .factor) (hs : Sign.ofToken? t.token = some s) :
    Awaits (v ++ [t]) .factor := by
  intro w a hw
  obtain ⟨token, line⟩ := t
  cases token <;> cases hs
  · simpa using h _ _ (Derives.plus (l := line) hw)
  · simpa using h _ _ (Derives.minus (l := line) hw)

/-- A closing parenthesis can stand behind an expression in parentheses. -/
theorem close {l : Nat} {u : List Located} {a : Expr} (h : Awaits v .factor)
    (hu : Derives .sum u a) (t : Located) (ht : t.kind = .rightParen) :
    Viable (v ++ [⟨.leftParen, l⟩] ++ u ++ [t]) := by
  obtain ⟨token, m⟩ := t
  obtain rfl : token = .rightParen := Token.eq_of_kind ht (by decide)
  have := h _ _ (Derives.group (l := l) (m := m) hu)
  simpa using this

/-- An opening parenthesis awaits an expression. -/
theorem paren (h : Awaits v .factor) (l : Nat) : Awaits (v ++ [⟨.leftParen, l⟩]) .sum :=
  fun _ _ hw => (h.close hw ⟨.rightParen, l⟩ rfl).of_append

/-- Every token that an expression can start with is fine where a factor is awaited. -/
theorem start (h : Awaits v .factor) (t : Located) (ht : t.kind.StartsExpression) :
    Viable (v ++ [t]) := by
  have hzero : Derives .factor [⟨.integer 0, 0⟩] (.number 0 0) := .number
  obtain ⟨token, line⟩ := t
  cases token with
  | ident name => exact h _ _ .var
  | integer value => exact h _ _ .number
  | plus => exact (h.sign (s := .plus) rfl _ _ hzero).of_append
  | minus => exact (h.sign (s := .minus) rfl _ _ hzero).of_append
  | leftParen => exact (h.paren line _ _ (.product (.factor hzero))).of_append
  | _ => simp [Kind.StartsExpression, Located.kind, Token.kind] at ht

theorem viable (h : Awaits v .factor) : Viable v :=
  (h.start ⟨.integer 0, 0⟩ (by decide)).of_append

end Awaits

theorem failsAfter_factor (h : Awaits v .factor)
    (ih : ∀ p us v, us.length < ts.length → Awaits v p → FailsAfter v (phrase p) us) :
    FailsAfter v (phrase .factor) ts := by
  cases ts with
  | nil =>
    intro e us hr
    rw [phrase_factor_nil] at hr
    cases hr
    exact ⟨[], rfl, by simpa using .atEnd h.viable⟩
  | cons t ts =>
    obtain ⟨token, line⟩ := t
    cases token with
    | plus =>
      refine .of_cons _ (by rw [phrase_factor_cons]) ?_
      exact (ih .factor ts _ (by simp) (h.sign (s := .plus) rfl)).map _ (localAt_phrase _ _)
    | minus =>
      refine .of_cons _ (by rw [phrase_factor_cons]) ?_
      exact (ih .factor ts _ (by simp) (h.sign (s := .minus) rfl)).map _ (localAt_phrase _ _)
    | integer value => exact .of_done (by rw [phrase_factor_cons])
    | ident name => exact .of_done (by rw [phrase_factor_cons])
    | leftParen =>
      refine .of_cons _ (by rw [phrase_factor_cons]) ?_
      refine .bind (ih .sum ts _ (by simp) (h.paren line)) fun a us hp => ?_
      obtain ⟨w, hw, hd, -⟩ := phrase_eq_done_iff.1 hp
      exact ⟨w, hw, .map _ (failsAfter_expect (h.close hd)) (localAt_expect _ _)⟩
    | _ =>
      intro e us hr
      rw [phrase_factor_cons] at hr
      cases hr
      exact ⟨[], rfl, by simpa using .atToken h.viable (.expression ⟨_, line⟩) h.start⟩

theorem failsAfter_phrase {p : Prec} (h : Awaits v p) : FailsAfter v (phrase p) ts := by
  -- A chain has its left part, a derived expression, behind it.
  have both := phrase_chain_course
    (P := fun p ts => ∀ v, Awaits v p → FailsAfter v (phrase p) ts)
    (C := fun p left ts => ∀ v u, Awaits v p → Derives p u left →
      FailsAfter (v ++ u) (chain p left) ts)
    (fun ts ih v h => failsAfter_factor h fun p us v hlt hp => ih p us hlt v hp)
    (fun p ts hp hc v h => ?_) (fun p left v u _ _ => .of_done (chain_nil p left))
    (fun p left t ts hop v u _ _ => .of_done (by rw [chain_cons, hop]))
    fun p left t ts op hop hp hc v u h hu => ?_
  · exact both.1 p ts v h
  · rw [funext (phrase_eq_bind p)]
    refine .bind (hp v h.operand) fun a us ha => ?_
    obtain ⟨w, rfl, hw, -⟩ := phrase_eq_done_iff.1 ha
    exact ⟨w, rfl, hc a us ha v w h hw.of_operand⟩
  · refine .of_cons _ (by rw [chain_cons, hop]) ?_
    refine .bind (hp _ (h.operator hop hu)) fun b us hb => ?_
    obtain ⟨w, rfl, hw, -⟩ := phrase_eq_done_iff.1 hb
    have := hc b us hb v _ h (.binary hop hu hw)
    exact ⟨w, rfl, by simpa using this⟩

/-! ## Assignments and programs -/

theorem failsAfter_definition {name : String} {l : Nat}
    (h : ∀ w s, DerivesStatement (⟨.ident name, l⟩ :: w) s → Viable (v ++ w)) :
    FailsAfter v definition ts := by
  have hsemicolon : ∀ m u a, Derives .sum u a → ∀ t : Located, t.kind = .semicolon →
      Viable (v ++ [⟨.assign, m⟩] ++ u ++ [t]) := by
    rintro m u a hu ⟨token, n⟩ ht
    obtain rfl : token = .semicolon := Token.eq_of_kind ht (by decide)
    simpa using h _ _ (DerivesStatement.assign (m := m) (n := n) hu)
  have hexpr : ∀ m, Awaits (v ++ [⟨.assign, m⟩]) .sum := fun m u a hu =>
    (hsemicolon m u a hu ⟨.semicolon, 0⟩ rfl).of_append
  have hassign : ∀ t : Located, t.kind = .assign → Viable (v ++ [t]) := by
    rintro ⟨token, m⟩ ht
    obtain rfl : token = .assign := Token.eq_of_kind ht (by decide)
    exact (hexpr m).operand.operand.viable
  refine .bind (failsAfter_expect hassign) fun t us ht => ?_
  obtain ⟨rfl, hk⟩ := expect_eq_done_iff.1 ht
  obtain ⟨token, m⟩ := t
  obtain rfl : token = .assign := Token.eq_of_kind hk (by decide)
  refine ⟨[⟨.assign, m⟩], rfl, .bind (failsAfter_phrase (hexpr m)) fun a vs ha => ?_⟩
  obtain ⟨u, rfl, hu, -⟩ := phrase_eq_done_iff.1 ha
  exact ⟨u, rfl, .map _ (failsAfter_expect (hsemicolon m u a hu)) (localAt_expect _ _)⟩

theorem failsAfter_assignment (h : ∀ w s, DerivesStatement w s → Viable (v ++ w)) :
    FailsAfter v assignment ts := by
  have hname : ∀ t : Located, t.kind = .ident → Viable (v ++ [t]) := by
    rintro ⟨token, l⟩ ht
    cases token with
    | ident name =>
      have hzero : DerivesStatement [⟨.ident name, l⟩, ⟨.assign, 0⟩, ⟨.integer 0, 0⟩,
          ⟨.semicolon, 0⟩] ⟨name, .number 0 0, l⟩ := .assign (.product (.factor .number))
      have hviable : Viable ((v ++ [⟨.ident name, l⟩]) ++ [⟨.assign, 0⟩, ⟨.integer 0, 0⟩,
          ⟨.semicolon, 0⟩]) := by
        simpa using h _ _ hzero
      exact hviable.of_append
    | _ => simp [Located.kind, Token.kind] at ht
  refine .bind (failsAfter_identifier hname) fun n us hr => ?_
  obtain ⟨name, l⟩ := n
  obtain rfl := identifier_eq_done_iff.1 hr
  have hdef : ∀ w s, DerivesStatement (⟨.ident name, l⟩ :: w) s →
      Viable (v ++ [⟨.ident name, l⟩] ++ w) := fun w s hw => by simpa using h _ s hw
  exact ⟨[⟨.ident name, l⟩], rfl, .map _ (failsAfter_definition hdef) (localAt_definition us)⟩

/-- Behind whole assignments `v`, a program that cannot be read leaves its reader stuck. -/
theorem failsAfter_statements (h : ∀ w p, DerivesProgram w p → ∃ q, DerivesProgram (v ++ w) q) :
    FailsAfter v statements ts := by
  induction hn : ts.length using Nat.strongRecOn generalizing v ts with
  | ind n ih =>
    cases ts with
    | nil =>
      intro e us hr
      rw [statements] at hr
      cases hr
      obtain ⟨q, hq⟩ := h _ _ (.done (l := 0))
      exact ⟨[], rfl, by simpa using .atEnd hq.viable⟩
    | cons t ts =>
      by_cases hk : t.kind = .eof
      · exact .of_done (by rw [statements_cons, if_pos hk])
      · have hassign : ∀ w s, DerivesStatement w s → Viable (v ++ w) := fun w s hw => by
          obtain ⟨q, hq⟩ := h _ _ (.step hw (.done (l := 0)))
          rw [← List.append_assoc] at hq
          exact hq.viable
        have hbind : FailsAfter v
            (fun ts => (assignment ts).bind fun s us => (statements us).map (s :: ·)) (t :: ts) := by
          refine .bind (failsAfter_assignment hassign) fun s us hs => ?_
          have hlt := length_ahead_assignment_lt hs
          obtain ⟨w, hw, hd⟩ := assignment_eq_done_iff.1 hs
          refine ⟨w, hw, .map _ (ih us.length (hn ▸ hlt) ?_ rfl) (localAt_statements us)⟩
          intro x p hx
          obtain ⟨q, hq⟩ := h _ _ (.step hd hx)
          exact ⟨q, by simpa using hq⟩
        intro e us hr
        rw [statements_cons, if_neg hk] at hr
        exact hbind e us hr

/-- Reading a program fails with the error of its reader, but for the line of the end. -/
theorem parse_of_fail {e : Error} {us : List Located} (h : statements ts = .fail e us) :
    parse ts = .error (if e.cause = .endOfInput then ⟨lastLine ts, .endOfInput⟩ else e) := by
  unfold parse
  rw [h]
  obtain ⟨line, cause⟩ := e
  cases cause <;> simp

theorem exists_fail_of_parse {e : Error} (h : parse ts = .error e) :
    ∃ e' us, statements ts = .fail e' us := by
  cases hs : statements ts with
  | mk outcome us =>
    cases outcome with
    | ok p => simp [parse_eq_ok_iff_statements.2 ⟨us, hs⟩] at h
    | error e' => exact ⟨e', us, rfl⟩

theorem Blames.cause_ne {e : Error} {t : Located} {wanted : Kind → Prop} (h : Blames e t wanted) :
    e.cause ≠ .endOfInput := by
  cases h <;> simp

/-- Behind the row `w`, the token `t` is wrong and the error `e` is about it : the row is viable
and stays so with any wanted token in place of `t`, and with `t` it fails whatever follows. -/
structure WrongToken (e : Error) (w : List Located) (t : Located) (wanted : Kind → Prop) :
    Prop where
  blames : Blames e t wanted
  viable : Viable w
  replaced : ∀ t' : Located, wanted t'.kind → Viable (w ++ [t'])
  hopeless : ∀ us, parse (w ++ t :: us) = .error e

/-- A row of tokens that spells no program has run out too early or holds a wrong token. -/
theorem cases_of_parse_eq_error {e : Error} (h : parse ts = .error e) :
    (e = ⟨lastLine ts, .endOfInput⟩ ∧ Viable ts) ∨
      ∃ w t us wanted, ts = w ++ t :: us ∧ WrongToken e w t wanted := by
  obtain ⟨e', us, hs⟩ := exists_fail_of_parse h
  obtain ⟨w, hw, hstuck⟩ := failsAfter_statements (v := []) (fun w p hp => ⟨p, hp⟩) e' us hs
  rw [parse_of_fail hs] at h
  cases hstuck with
  | atEnd hviable =>
    cases h
    exact .inl ⟨rfl, by simpa [hw] using hviable⟩
  | @atToken e' t us wanted hviable hblames hreplaced =>
    rw [if_neg hblames.cause_ne] at h
    cases h
    refine .inr ⟨w, t, us, wanted, hw, hblames, hviable, hreplaced, fun vs => ?_⟩
    obtain ⟨w', hw', hlocal⟩ := localAt_statements ts _ _ _ hs
    obtain rfl : w' = w := List.append_cancel_right (hw'.symm.trans hw)
    rw [parse_of_fail (hlocal vs), if_neg hblames.cause_ne]

/-- Where a row of tokens spells no program, it has run out too early and is viable, and the
error is on the line of its last token, or it holds a wrong token, and the error is about the
first of these. A row that is viable and not a program has run out. -/
theorem parse_fails_at_first_unviable (ts : List Located) :
    (∀ e, parse ts = .error e →
      (e = ⟨lastLine ts, .endOfInput⟩ ∧ Viable ts) ∨
        ∃ w t us wanted, ts = w ++ t :: us ∧ WrongToken e w t wanted) ∧
    (Viable ts → (∀ p, parse ts ≠ .ok p) → parse ts = .error ⟨lastLine ts, .endOfInput⟩) := by
  refine ⟨fun e h => cases_of_parse_eq_error h, fun ⟨vs, p, hp⟩ hnot => ?_⟩
  cases h : parse ts with
  | ok q => exact absurd h (hnot q)
  | error e =>
    rcases cases_of_parse_eq_error h with ⟨rfl, -⟩ | ⟨w, t, us, wanted, rfl, hwrong⟩
    · rfl
    · rw [List.append_assoc, List.cons_append, hwrong.hopeless] at hp
      cases hp

/-- The tokens of `x = (1 +`. -/
def unclosedRow : List Located :=
  [⟨.ident "x", 1⟩, ⟨.assign, 1⟩, ⟨.leftParen, 1⟩, ⟨.integer 1, 2⟩, ⟨.plus, 3⟩]

/-- The row has run out on its last line and is viable. With blank space behind it, it holds a
wrong token. -/
theorem parse_fails_at_unclosedRow :
    Viable unclosedRow ∧ parse unclosedRow = .error ⟨3, .endOfInput⟩ ∧
      ∃ w t us wanted, unclosedRow ++ [⟨.blank, 4⟩] = w ++ t :: us ∧
        WrongToken ⟨4, .expectedExpression .blank⟩ w t wanted := by
  have hend : parse unclosedRow = .error ⟨3, .endOfInput⟩ := by
    simp [unclosedRow, parse, statements_cons, assignment, identifier, definition, expect,
      phrase_sum, phrase_product, phrase_factor_cons, phrase_factor_nil, chain_cons,
      Prec.operator?, Prec.operand, Located.kind, Token.kind, endOfTokens, lastLine]
  have hblank : parse (unclosedRow ++ [⟨.blank, 4⟩]) = .error ⟨4, .expectedExpression .blank⟩ := by
    simp [unclosedRow, parse, statements_cons, assignment, identifier, definition, expect,
      phrase_sum, phrase_product, phrase_factor_cons, chain_cons,
      Prec.operator?, Prec.operand, Located.kind, Token.kind, endOfTokens]
  obtain ⟨hfails, hruns⟩ := parse_fails_at_first_unviable unclosedRow
  have hviable : Viable unclosedRow := by
    rcases hfails _ hend with ⟨-, h⟩ | ⟨w, t, us, wanted, -, hwrong⟩
    · exact h
    · exact absurd rfl hwrong.blames.cause_ne
  refine ⟨hviable, hruns hviable (by simp [hend]), ?_⟩
  rcases (parse_fails_at_first_unviable _).1 _ hblank with ⟨h, -⟩ | h
  · simp at h
  · exact h

end Reckoner
