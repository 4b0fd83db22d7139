import Reckoner.Evaluation
import Reckoner.Proofs.Progress

/-!
# Inlining a variable

To assign a value to a variable and to write an expression with that value in its place, in
parentheses, is the same for every expression that reads the variable. On rows of tokens
(`Inlined`) this needs the parentheses : with them the inlined expression is a factor, so it can
stand wherever the name stood, and the row derives the tree in which the variable is replaced
(`Derives.inline`). On trees it is the law of substitution (`Store.eval_inline`).
-/

namespace Reckoner

variable {x : String} {r : List Located}

/-! ## Rows of tokens -/

/-- The token names the variable `x`. -/
def Located.Names (x : String) (t : Located) : Prop :=
  ∃ name, t.token = .ident name ∧ key name = key x

/-- The second row is the first one with every name of the variable `x` replaced by the row `r`
in parentheses, on whatever lines these stand. -/
inductive Inlined (x : String) (r : List Located) : List Located → List Located → Prop where
  | nil : Inlined x r [] []
  | name {t : Located} {l m : Nat} {w w' : List Located} : t.Names x → Inlined x r w w' →
    Inlined x r (t :: w) (⟨.leftParen, l⟩ :: r ++ ⟨.rightParen, m⟩ :: w')
  | other {t : Located} {w w' : List Located} : ¬t.Names x → Inlined x r w w' →
    Inlined x r (t :: w) (t :: w')

theorem Located.names_ident_iff {name : String} {line : Nat} :
    Located.Names x ⟨.ident name, line⟩ ↔ key name = key x := by
  simp [Names]

namespace Inlined

theorem exists_of_row (x : String) (r w : List Located) : ∃ w', Inlined x r w w' := by
  induction w with
  | nil => exact ⟨[], .nil⟩
  | cons t w ih =>
    obtain ⟨w', hw⟩ := ih
    by_cases ht : t.Names x
    · exact ⟨_, .name (l := t.line) (m := t.line) ht hw⟩
    · exact ⟨_, .other ht hw⟩

theorem of_append {u v w : List Located} (h : Inlined x r (u ++ v) w) :
    ∃ u' v', w = u' ++ v' ∧ Inlined x r u u' ∧ Inlined x r v v' := by
  induction u generalizing w with
  | nil => exact ⟨[], w, rfl, .nil, h⟩
  | cons t u ih =>
    cases h with
    | @name _ l m _ w' ht hw =>
      obtain ⟨u', v', rfl, hu, hv⟩ := ih hw
      exact ⟨_, v', by simp, .name (l := l) (m := m) ht hu, hv⟩
    | other ht hw =>
      obtain ⟨u', v', rfl, hu, hv⟩ := ih hw
      exact ⟨_, v', rfl, .other ht hu, hv⟩

/-- A token that is no name stays. -/
theorem of_cons {token : Token} {line : Nat} {u w : List Located}
    (h : Inlined x r (⟨token, line⟩ :: u) w) (ht : token.kind ≠ .ident) :
    ∃ u', w = ⟨token, line⟩ :: u' ∧ Inlined x r u u' := by
  cases h with
  | name hx =>
    obtain ⟨name, rfl, -⟩ := hx
    exact absurd rfl ht
  | other _ hu => exact ⟨_, rfl, hu⟩

/-- The operands of an operator are inlined apart. -/
theorem of_operator {token : Token} {line : Nat} {u v w : List Located}
    (h : Inlined x r (u ++ ⟨token, line⟩ :: v) w) (ht : token.kind ≠ .ident) :
    ∃ u' v', w = u' ++ ⟨token, line⟩ :: v' ∧ Inlined x r u u' ∧ Inlined x r v v' := by
  obtain ⟨u', w', rfl, hu, hw⟩ := h.of_append
  obtain ⟨v', rfl, hv⟩ := hw.of_cons ht
  exact ⟨u', v', rfl, hu, hv⟩

end Inlined

/-! ## Trees -/

/-- The expression with every read of the variable `x` replaced by `a`. -/
def Expr.inline : Expr → String → Expr → Expr
  | .number v line, _, _ => .number v line
  | .var name line, x, a => if key name = key x then a else .var name line
  | .signed sign operand line, x, a => .signed sign (operand.inline x a) line
  | .binary left op right line, x, a => .binary (left.inline x a) op (right.inline x a) line

/-- Inlining keeps a row in its level, because an expression in parentheses is a factor. -/
theorem Derives.inline {p : Prec} {w w' : List Located} {e a : Expr} (h : Derives p w e)
    (ha : Derives .sum r a) (hw : Inlined x r w w') : Derives p w' (e.inline x a) := by
  induction h generalizing w' with
  | add _ _ ihu ihv =>
    obtain ⟨u', v', rfl, hu, hv⟩ := hw.of_operator nofun
    exact .add (ihu hu) (ihv hv)
  | sub _ _ ihu ihv =>
    obtain ⟨u', v', rfl, hu, hv⟩ := hw.of_operator nofun
    exact .sub (ihu hu) (ihv hv)
  | mul _ _ ihu ihv =>
    obtain ⟨u', v', rfl, hu, hv⟩ := hw.of_operator nofun
    exact .mul (ihu hu) (ihv hv)
  | product _ ih => exact .product (ih hw)
  | factor _ ih => exact .factor (ih hw)
  | plus _ ih =>
    obtain ⟨u', rfl, hu⟩ := hw.of_cons nofun
    exact .plus (ih hu)
  | minus _ ih =>
    obtain ⟨u', rfl, hu⟩ := hw.of_cons nofun
    exact .minus (ih hu)
  | group _ ih =>
    obtain ⟨u', v', rfl, hopen, hclose⟩ := hw.of_operator nofun
    obtain ⟨u'', rfl, hu⟩ := hopen.of_cons nofun
    cases hclose
    exact .group (ih hu)
  | number =>
    obtain ⟨u', rfl, hu⟩ := hw.of_cons nofun
    cases hu
    exact .number
  | var =>
    cases hw with
    | name hx hu =>
      -- The name was a factor, and so is what stands there now.
      cases hu
      rw [Expr.inline, if_pos (Located.names_ident_iff.1 hx)]
      exact .group ha
    | other hx hu =>
      cases hu
      rw [Expr.inline, if_neg (fun h => hx (Located.names_ident_iff.2 h))]
      exact .var

/-- A variable that stands for the value of an expression can be replaced by it. -/
theorem Store.eval_inline {s : Store} {a : Expr} {v : Int} (ha : s.eval a = .ok v) (e : Expr) :
    s.eval (e.inline x a) = (s.bind x v).eval e := by
  induction e with
  | number v line => rfl
  | var name line =>
    rw [Expr.inline, eval_var, value, valueBy, get?_bind]
    split
    · exact ha
    · rw [eval_var, value, valueBy]
  | signed sign operand line ih => simp only [Expr.inline, eval_signed, ih]
  | binary left op right line ihl ihr => simp only [Expr.inline, eval_binary, ihl, ihr]

/-! ## Reading and evaluating -/

/-- A row that is read to its end is a derived one. -/
theorem phrase_eq_done_nil_iff {p : Prec} {ts : List Located} {e : Expr} :
    phrase p ts = .done e [] ↔ Derives p ts e := by
  rw [phrase_eq_done_iff]
  constructor
  · rintro ⟨w, rfl, hw, -⟩
    simpa using hw
  · intro h
    exact ⟨ts, by simp, h, by simp [Prec.Stops]⟩

/-- Let an expression be spelled by `we` and another one, with the value `v`, by `wr`. The row
`we` with `wr` in parentheses in place of every name of `x` is again read to its end, and its
value, or the error it stops at, is what the expression gives after `v` is assigned to `x`. -/
theorem inlined_reads_as_bound (s : Store) (x : String) (we wr : List Located) (e a : Expr)
    (v : Int) (he : expression we = .done e []) (ha : expression wr = .done a [])
    (hv : s.eval a = .ok v) :
    (∃ w, Inlined x wr we w) ∧ ∀ w, Inlined x wr we w →
      expression w = .done (e.inline x a) [] ∧ s.eval (e.inline x a) = (s.bind x v).eval e := by
  rw [phrase_eq_done_nil_iff] at he ha
  refine ⟨Inlined.exists_of_row x wr we, fun w hw => ⟨?_, s.eval_inline hv e⟩⟩
  exact phrase_eq_done_nil_iff.2 (he.inline ha hw)

/-- The tokens of `9 - X * x - z`. -/
def squareRow : List Located :=
  [⟨.integer 9, 1⟩, ⟨.minus, 1⟩, ⟨.ident "X", 1⟩, ⟨.times, 1⟩, ⟨.ident "x", 1⟩, ⟨.minus, 1⟩,
    ⟨.ident "z", 2⟩]

/-- The tokens of `y - 3`. -/
def shiftedRow : List Located :=
  [⟨.ident "y", 7⟩, ⟨.minus, 7⟩, ⟨.integer 3, 7⟩]

/-- The tokens of `9 - (y - 3) * (y - 3) - z`. -/
def inlinedRow : List Located :=
  [⟨.integer 9, 1⟩, ⟨.minus, 1⟩] ++ ⟨.leftParen, 1⟩ :: shiftedRow ++ ⟨.rightParen, 1⟩ ::
    ⟨.times, 1⟩ :: ⟨.leftParen, 1⟩ :: shiftedRow ++ [⟨.rightParen, 1⟩, ⟨.minus, 1⟩, ⟨.ident "z", 2⟩]

/-- With `5` for `y`, both names of `x` stand for `2`. If `z` is missing, that is the error. -/
theorem inlined_reads_as_bound_square :
    (∃ e, expression inlinedRow = .done e [] ∧ Store.eval ⟨[("y", 5), ("z", 1)]⟩ e = .ok 4) ∧
    ∃ e, expression inlinedRow = .done e [] ∧
      Store.eval ⟨[("y", 5)]⟩ e = .error ⟨2, .unknownVariable "z"⟩ := by
  have he : expression squareRow = .done (.binary (.binary (.number 9 1) .sub
      (.binary (.var "X" 1) .mul (.var "x" 1) 1) 1) .sub (.var "z" 2) 1) [] :=
    Option.some.inj ((phraseWithin_chainWithin 24).1 .sum squareRow (by decide)).symm
  have ha : expression shiftedRow = .done (.binary (.var "y" 7) .sub (.number 3 7) 7) [] :=
    Option.some.inj ((phraseWithin_chainWithin 12).1 .sum shiftedRow (by decide)).symm
  have hkeys : key "x" = "x" ∧ key "X" = "x" ∧ key "y" = "y" ∧ key "z" = "z" := by decide +kernel
  have hX : Located.Names "x" ⟨.ident "X", 1⟩ := ⟨"X", rfl, by simp only [hkeys]⟩
  have hz : ¬Located.Names "x" ⟨.ident "z", 2⟩ := by
    rw [Located.names_ident_iff]
    simp [hkeys]
  have hrow : Inlined "x" shiftedRow squareRow inlinedRow :=
    .other nofun (.other nofun (.name hX (.other nofun (.name ⟨"x", rfl, rfl⟩
      (.other nofun (.other hz .nil))))))
  have htwo : ∀ rest, Store.eval ⟨("y", 5) :: rest⟩
      (.binary (.var "y" 7) .sub (.number 3 7) 7) = .ok 2 := by
    intro rest
    simp only [Store.eval, Expr.evalBy, valueBy, Store.get?, hkeys]
    rfl
  have hwith := inlined_reads_as_bound ⟨[("y", 5), ("z", 1)]⟩ "x" _ _ _ _ 2 he ha (htwo _)
  have hwithout := inlined_reads_as_bound ⟨[("y", 5)]⟩ "x" _ _ _ _ 2 he ha (htwo _)
  obtain ⟨hread, hvalue⟩ := hwith.2 _ hrow
  obtain ⟨-, herror⟩ := hwithout.2 _ hrow
  refine ⟨⟨_, hread, hvalue.trans ?_⟩, _, hread, herror.trans ?_⟩
  · simp only [Store.eval, Expr.evalBy, valueBy, Store.get?, Store.bind, hkeys]
    rfl
  · simp only [Store.eval, Expr.evalBy, valueBy, Store.get?, Store.bind, hkeys]
    rfl

end Reckoner
