import Reckoner.Proofs.Derivation

/-!
# Readers get ahead

An expression that was read took a token at least, and an assignment four. So reading comes to
an end, and how soon can be told from the number of tokens. To say so, the readers are written
once more with a bound on how often they may call themselves (`phraseWithin`, `chainWithin`) or
go round (`statementsWithin`), and without a reason why they should ever stop : when the bound is
used up, there is no reading. With a bound that is linear in the number of tokens they give what
`phrase`, `chain` and `statements` give.
-/

namespace Reckoner

/-! ## What is taken -/

theorem Derives.length_pos {p : Prec} {w : List Located} {e : Expr} (h : Derives p w e) :
    1 ≤ w.length :=
  List.length_pos_iff.2 h.ne_nil

theorem DerivesStatement.four_le_length {w : List Located} {s : Statement}
    (h : DerivesStatement w s) : 4 ≤ w.length := by
  obtain ⟨hu⟩ := h
  have := hu.length_pos
  simp only [List.length_append, List.length_cons, List.length_nil]
  omega

/-- An expression takes a token at least. -/
theorem length_ahead_phrase {p : Prec} {ts us : List Located} {e : Expr}
    (h : phrase p ts = .done e us) : us.length + 1 ≤ ts.length := by
  obtain ⟨w, rfl, hw, -⟩ := phrase_eq_done_iff.1 h
  have := hw.length_pos
  rw [List.length_append]
  omega

/-- An assignment takes four tokens at least. -/
theorem length_ahead_assignment {ts us : List Located} {s : Statement}
    (h : assignment ts = .done s us) : us.length + 4 ≤ ts.length := by
  obtain ⟨w, rfl, hw⟩ := assignment_eq_done_iff.1 h
  have := hw.four_le_length
  rw [List.length_append]
  omega

/-! ## Readers with a bound -/

section

variable {α β : Type}

/-- Go on reading where a reading ended, if there is one and it did not fail. -/
def Reading.goOn (r : Option (Reading α)) (f : α → List Located → Option (Reading β)) :
    Option (Reading β) :=
  match r with
  | none => none
  | some ⟨.ok a, ts⟩ => f a ts
  | some ⟨.error e, ts⟩ => some (.fail e ts)

theorem Reading.goOn_some {r : Reading α} {f : α → List Located → Option (Reading β)}
    {g : α → List Located → Reading β} (h : ∀ a ts, r = .done a ts → f a ts = some (g a ts)) :
    goOn (some r) f = some (r.bind g) := by
  obtain ⟨outcome, ts⟩ := r
  cases outcome with
  | ok a => exact h a ts rfl
  | error e => rfl

end

mutual

/-- Read an expression of the given level with `n` calls inside one another at most. -/
def phraseWithin : Nat → Prec → List Located → Option (Reading Expr)
  | 0, _, _ => none
  | n + 1, .sum, ts => Reading.goOn (phraseWithin n .product ts) (chainWithin n .sum)
  | n + 1, .product, ts => Reading.goOn (phraseWithin n .factor ts) (chainWithin n .product)
  | _ + 1, .factor, [] => some (.fail endOfTokens [])
  | n + 1, .factor, t :: ts =>
    match t.token with
    | .plus => (phraseWithin n .factor ts).map fun r => r.map (.signed .plus · t.line)
    | .minus => (phraseWithin n .factor ts).map fun r => r.map (.signed .minus · t.line)
    | .integer value => some (.done (.number value t.line) ts)
    | .ident name => some (.done (.var name t.line) ts)
    | .leftParen =>
      Reading.goOn (phraseWithin n .sum ts) fun e us =>
        some ((expect .rightParen us).map fun _ => e)
    | _ => some (.fail ⟨t.line, .expectedExpression t.kind⟩ (t :: ts))

/-- Go on with a chain with `n` calls inside one another at most. -/
def chainWithin : Nat → Prec → Expr → List Located → Option (Reading Expr)
  | 0, _, _, _ => none
  | _ + 1, _, left, [] => some (.done left [])
  | n + 1, p, left, t :: ts =>
    match p.operator? t.token with
    | some op =>
      Reading.goOn (phraseWithin n p.operand ts) fun right =>
        chainWithin n p (.binary left op right t.line)
    | none => some (.done left (t :: ts))

end

/-- Read assignments up to the end mark in `n` rounds at most, and the mark. -/
def statementsWithin : Nat → List Located → Option (Reading (List Statement))
  | 0, _ => none
  | _ + 1, [] => some (.fail endOfTokens [])
  | n + 1, t :: ts =>
    if t.kind = .eof then some (.done [] ts)
    else
      Reading.goOn (some (assignment (t :: ts))) fun s us =>
        (statementsWithin n us).map fun r => r.map (s :: ·)

/-! ## Bounds that suffice -/

theorem phraseWithin_factor {n : Nat} {ts : List Located}
    (ih : ∀ p us, 3 * us.length + p.rank < n → phraseWithin n p us = some (phrase p us))
    (h : 3 * ts.length < n + 1) : phraseWithin (n + 1) .factor ts = some (phrase .factor ts) := by
  cases ts with
  | nil => rw [phraseWithin, phrase_factor_nil]
  | cons t ts =>
    have hsum : phraseWithin n .sum ts = some (phrase .sum ts) := ih .sum ts (by grind [Prec.rank])
    have hfactor : phraseWithin n .factor ts = some (phrase .factor ts) :=
      ih .factor ts (by grind [Prec.rank])
    obtain ⟨token, line⟩ := t
    rw [phraseWithin, phrase_factor_cons]
    cases token with
    | plus => simp only [hfactor, Option.map_some]
    | minus => simp only [hfactor, Option.map_some]
    | leftParen =>
      simp only [hsum]
      exact Reading.goOn_some fun _ _ _ => rfl
    | _ => rfl

/-- A level is read within a bound if its operand and, behind a token at least, its chain are. -/
theorem goOn_chainWithin {n : Nat} {p : Prec} {ts : List Located}
    (hp : phraseWithin n p.operand ts = some (phrase p.operand ts))
    (hc : ∀ left us, us.length < ts.length → chainWithin n p left us = some (chain p left us)) :
    Reading.goOn (phraseWithin n p.operand ts) (chainWithin n p) = some (phrase p ts) := by
  rw [hp, phrase_eq_bind p]
  exact Reading.goOn_some fun a us ha => hc a us (length_ahead_phrase ha)

/-- Three calls for every token are enough. -/
theorem phraseWithin_chainWithin (n : Nat) :
    (∀ p ts, 3 * ts.length + p.rank < n → phraseWithin n p ts = some (phrase p ts)) ∧
      ∀ p left ts, 3 * ts.length < n → chainWithin n p left ts = some (chain p left ts) := by
  induction n with
  | zero => exact ⟨fun _ _ h => by omega, fun _ _ _ h => by omega⟩
  | succ n ih =>
    obtain ⟨ihp, ihc⟩ := ih
    refine ⟨fun p ts h => ?_, fun p left ts h => ?_⟩
    -- A call that takes no token goes to a tighter level, and there are two of these at most.
    · cases p with
      | factor => exact phraseWithin_factor ihp h
      | product =>
        simp only [Prec.rank] at h
        rw [phraseWithin]
        exact goOn_chainWithin (ihp .factor ts (by simp only [Prec.rank]; omega))
          fun left us hus => ihc .product left us (by omega)
      | sum =>
        simp only [Prec.rank] at h
        rw [phraseWithin]
        exact goOn_chainWithin (ihp .product ts (by simp only [Prec.rank]; omega))
          fun left us hus => ihc .sum left us (by omega)
    · cases ts with
      | nil => rw [chainWithin, chain_nil]
      | cons t ts =>
        rw [chainWithin, chain_cons]
        cases hop : p.operator? t.token with
        | none => rfl
        | some op =>
          have hrank := Prec.rank_operand_lt hop
          have hp : p.rank ≤ 2 := by cases p <;> decide
          rw [List.length_cons] at h
          simp only [ihp p.operand ts (by omega)]
          refine Reading.goOn_some fun b us hb => ihc p _ us ?_
          have := length_ahead_phrase hb
          omega

theorem statementsWithin_eq {n : Nat} {ts : List Located} (h : ts.length < 4 * n) :
    statementsWithin n ts = some (statements ts) := by
  induction n generalizing ts with
  | zero => omega
  | succ n ih =>
    cases ts with
    | nil => rw [statementsWithin, statements]
    | cons t ts =>
      rw [statementsWithin, statements_cons]
      split
      · rfl
      · refine Reading.goOn_some fun s us hs => ?_
        have := length_ahead_assignment hs
        rw [ih (by omega), Option.map_some]

end Reckoner
