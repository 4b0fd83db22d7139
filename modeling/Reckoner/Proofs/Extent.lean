import Reckoner.Proofs.Lookahead

/-!
# How far an expression reaches

A row of tokens can start with many expressions : `1 - 2 - 3` starts with three. Reading at a
level takes the one behind which no operator goes on with it (`Spans`). Which operators these are
depends on the level (`Prec.operators`), and they are all that is looked at of what follows.
-/

namespace Reckoner

/-- The kinds of the operators that go on with an expression of the level. -/
def Prec.operators : Prec → List Kind
  | sum => [.plus, .minus, .times]
  | product => [.times]
  | factor => []

namespace Prec

/-- The operators of a level are those of its own chains and of its operands. -/
theorem kind_mem_operators_iff {p : Prec} {token : Token} :
    token.kind ∈ p.operators ↔ ∃ q : Prec, q.rank ≤ p.rank ∧ (q.operator? token).isSome := by
  constructor
  · intro h
    cases p <;> cases token <;> simp [operators, Token.kind] at h
    · exact ⟨sum, by decide, rfl⟩
    · exact ⟨sum, by decide, rfl⟩
    · exact ⟨product, by decide, rfl⟩
    · exact ⟨product, by decide, rfl⟩
  · rintro ⟨q, hq, hop⟩
    cases q <;> cases token <;> simp [operator?] at hop <;>
      cases p <;> simp [rank, operators, Token.kind] at hq ⊢

theorem stops_iff {p : Prec} {ts : List Located} :
    p.Stops ts ↔ ∀ t ∈ ts.head?, t.kind ∉ p.operators := by
  simp only [Stops, Located.kind, kind_mem_operators_iff, not_exists, not_and,
    Option.not_isSome_iff_eq_none]

end Prec

/-- The row `ts` starts with `w`, which spells the expression `e` of the level, and goes on
with `rest`, which starts with no operator of the level. -/
structure Spans (p : Prec) (ts w : List Located) (e : Expr) (rest : List Located) : Prop where
  split : ts = w ++ rest
  derives : Derives p w e
  ends : ∀ t ∈ rest.head?, t.kind ∉ p.operators

theorem phrase_eq_done_iff_spans {p : Prec} {ts rest : List Located} {e : Expr} :
    phrase p ts = .done e rest ↔ ∃ w, Spans p ts w e rest := by
  rw [phrase_eq_done_iff]
  constructor
  · rintro ⟨w, hsplit, hw, hrest⟩
    exact ⟨w, hsplit, hw, Prec.stops_iff.1 hrest⟩
  · rintro ⟨w, hsplit, hw, hrest⟩
    exact ⟨w, hsplit, hw, Prec.stops_iff.2 hrest⟩

theorem Spans.unique {p : Prec} {ts w w' rest rest' : List Located} {e e' : Expr}
    (h : Spans p ts w e rest) (h' : Spans p ts w' e' rest') : w = w' ∧ e = e' ∧ rest = rest' := by
  have hread := phrase_eq_done_iff_spans.2 ⟨w, h⟩
  have hread' := phrase_eq_done_iff_spans.2 ⟨w', h'⟩
  obtain ⟨rfl, rfl⟩ : e = e' ∧ rest = rest' := by
    simpa using hread.symm.trans hread'
  exact ⟨List.append_cancel_right (h.split.symm.trans h'.split), rfl, rfl⟩

/-- An expression of a level is read exactly where the row starts with it and no operator of the
level follows. A row has one such start at most. With other tokens behind the first one left
ahead, the reader would have done the same, also where it fails. -/
theorem phrase_reads_what_it_spans (p : Prec) (ts : List Located) :
    (∀ e rest, phrase p ts = .done e rest ↔ ∃ w, Spans p ts w e rest) ∧
    (∀ w w' e e' rest rest', Spans p ts w e rest → Spans p ts w' e' rest' →
      w = w' ∧ e = e' ∧ rest = rest') ∧
    ∀ o t us, phrase p ts = ⟨o, t :: us⟩ →
      ∃ w, ts = w ++ t :: us ∧ ∀ vs, phrase p (w ++ t :: vs) = ⟨o, t :: vs⟩ := by
  refine ⟨fun e rest => phrase_eq_done_iff_spans, ?_, localAt_phrase p ts⟩
  intro w w' e e' rest rest' h h'
  exact h.unique h'

/-- The tokens of `1 - 2 - 3)`, each on a line of its own. -/
def differenceRow : List Located :=
  [⟨.integer 1, 1⟩, ⟨.minus, 2⟩, ⟨.integer 2, 3⟩, ⟨.minus, 4⟩, ⟨.integer 3, 5⟩, ⟨.rightParen, 6⟩]

/-- A sum is read up to the parenthesis, whatever stands behind that, and a product up to the
first sign. The start `1 - 2` spells a sum too, but the row does not go on as it has to. -/
theorem phrase_reads_differenceRow :
    (∀ vs, phrase .sum (differenceRow ++ vs) =
      .done (.binary (.binary (.number 1 1) .sub (.number 2 3) 2) .sub (.number 3 5) 4)
        (⟨.rightParen, 6⟩ :: vs)) ∧
    phrase .product differenceRow = .done (.number 1 1) differenceRow.tail ∧
    Derives .sum (differenceRow.take 3) (.binary (.number 1 1) .sub (.number 2 3) 2) ∧
    ∀ e rest, ¬Spans .sum differenceRow (differenceRow.take 3) e rest := by
  obtain ⟨hsum, hunique, hlocal⟩ := phrase_reads_what_it_spans .sum differenceRow
  have hone : Derives .product [⟨.integer 1, 1⟩] (.number 1 1) := .factor .number
  have hleft := Derives.sub (l := 2) (.product hone) (.factor (.number (v := 2) (l := 3)))
  have hspans : Spans .sum differenceRow (differenceRow.take 5) _ [⟨.rightParen, 6⟩] :=
    ⟨rfl, .sub (l := 4) hleft (.factor (.number (v := 3) (l := 5))), by decide⟩
  refine ⟨fun vs => ?_, ?_, hleft, fun e rest h => ?_⟩
  · obtain ⟨w, hw, hread⟩ := hlocal _ _ _ ((hsum _ _).2 ⟨_, hspans⟩)
    obtain rfl : w = differenceRow.take 5 := List.append_cancel_right (hw.symm.trans hspans.split)
    exact hread vs
  · exact ((phrase_reads_what_it_spans .product differenceRow).1 _ _).2 ⟨_, rfl, hone, by decide⟩
  · have hsame := (hunique _ _ _ _ _ _ h hspans).1
    exact absurd hsame (by decide)

end Reckoner
