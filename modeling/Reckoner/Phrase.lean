import Reckoner.Expr
import Reckoner.Reading

/-!
# Reading expressions

Expressions are read at three levels of precedence (`Prec`). A sum is a chain of products
joined by `+` and `-`, a product a chain of factors joined by `*`, and chains group to the
left. A factor is a sign before a factor, an integer, a name, or an expression in
parentheses. A chain is read as far as its operators go : it ends before the first token
that is none of them, whatever that token is.

`phrase` reads at a level and `chain` goes on with a chain after its first operand. Each
calls the other with fewer tokens ahead, or at a level that binds tighter. That needs to
be known while they are being defined, so they are defined with a bound on what they
leave ahead (`Reading.Bounded`); the equations below give them back without the bound,
and nothing else has to look inside.
-/

namespace Reckoner

/-- The levels of precedence, from the loosest. -/
inductive Prec where
  | sum
  | product
  | factor
  deriving DecidableEq

namespace Prec

/-- The level of the operands in a chain. -/
def operand : Prec → Prec
  | sum => product
  | product => factor
  | factor => factor

/-- The operator of a chain of this level that a token stands for. -/
def operator? : Prec → Token → Option Operator
  | sum, .plus => some .add
  | sum, .minus => some .sub
  | product, .times => some .mul
  | _, _ => none

/-- How many levels bind tighter. -/
def rank : Prec → Nat
  | sum => 2
  | product => 1
  | factor => 0

end Prec

/-- The sign that a token stands for before an operand. -/
def Sign.ofToken? : Token → Option Sign
  | .plus => some .plus
  | .minus => some .minus
  | _ => none

/-- Readings that leave at most `n` tokens ahead. -/
abbrev Reading.Bounded (α : Type) (n : Nat) :=
  { r : Reading α // r.ahead.length ≤ n }

namespace Reading.Bounded

variable {α β : Type} {n m : Nat}

/-- The value `a`, with the tokens `ts` ahead. -/
def done (a : α) (ts : List Located) : Bounded α ts.length :=
  ⟨.done a ts, Nat.le_refl _⟩

/-- A failure, with the tokens `ts` ahead. -/
def fail (e : Error) (ts : List Located) : Bounded α ts.length :=
  ⟨.fail e ts, Nat.le_refl _⟩

/-- Weaken the bound. -/
def weaken (h : n ≤ m) (r : Bounded α n) : Bounded α m :=
  ⟨r.val, Nat.le_trans r.property h⟩

/-- Go on reading where a reading ended, knowing how many tokens are left at most. -/
def bind : (r : Bounded α n) →
    ((a : α) → (ts : List Located) → ts.length ≤ n → Bounded β ts.length) → Bounded β n
  | ⟨⟨.ok a, ts⟩, h⟩, f => (f a ts h).weaken h
  | ⟨⟨.error e, ts⟩, h⟩, _ => ⟨.fail e ts, h⟩

/-- Read a token of the given kind. -/
def expect (kind : Kind) (ts : List Located) : Bounded Located ts.length :=
  ⟨Reckoner.expect kind ts, length_ahead_expect_le kind ts⟩

theorem val_bind (r : Bounded α n)
    (f : (a : α) → (ts : List Located) → ts.length ≤ n → Bounded β ts.length)
    (g : α → List Located → Reading β) (hfg : ∀ a ts h, (f a ts h).val = g a ts) :
    (r.bind f).val = r.val.bind g := by
  obtain ⟨⟨outcome, ts⟩, h⟩ := r
  cases outcome with
  | ok a => exact hfg a ts h
  | error e => rfl

end Reading.Bounded

/-! ## The definition -/

mutual

/-- Read an expression of the given level. -/
def phraseBounded : (p : Prec) → (ts : List Located) → Reading.Bounded Expr ts.length
  | .sum, ts => (phraseBounded .product ts).bind fun left us _ => chainBounded .sum left us
  | .product, ts => (phraseBounded .factor ts).bind fun left us _ => chainBounded .product left us
  | .factor, [] => .fail endOfTokens []
  | .factor, t :: ts =>
    match Sign.ofToken? t.token with
    | some sign =>
      ((phraseBounded .factor ts).bind fun e us _ => .done (.signed sign e t.line) us).weaken
        (Nat.le_succ _)
    | none =>
      match t.token with
      | .integer value => (Reading.Bounded.done (.number value t.line) ts).weaken (Nat.le_succ _)
      | .ident name => (Reading.Bounded.done (.var name t.line) ts).weaken (Nat.le_succ _)
      | .leftParen =>
        ((phraseBounded .sum ts).bind fun e us _ =>
          (Reading.Bounded.expect .rightParen us).bind fun _ vs _ => .done e vs).weaken
            (Nat.le_succ _)
      | _ => .fail ⟨t.line, .expectedExpression t.kind⟩ (t :: ts)
termination_by p ts => (ts.length, p.rank + 1)
decreasing_by all_goals simp [Prod.lex_def, Prec.rank] <;> omega

/-- Go on with a chain of the given level after its part `left`. -/
def chainBounded : (p : Prec) → Expr → (ts : List Located) → Reading.Bounded Expr ts.length
  | _, left, [] => .done left []
  | p, left, t :: ts =>
    match p.operator? t.token with
    | some op =>
      ((phraseBounded p.operand ts).bind fun right us _ =>
        chainBounded p (.binary left op right t.line) us).weaken (Nat.le_succ _)
    | none => .done left (t :: ts)
termination_by _ _ ts => (ts.length, 0)
decreasing_by all_goals simp [Prod.lex_def] <;> omega

end

/-- Read an expression of the given level. -/
def phrase (p : Prec) : Reader Expr :=
  fun ts => (phraseBounded p ts).val

/-- Go on with a chain of the given level after its part `left`. -/
def chain (p : Prec) (left : Expr) : Reader Expr :=
  fun ts => (chainBounded p left ts).val

/-- Read an expression. -/
abbrev expression : Reader Expr :=
  phrase .sum

/-! ## The equations -/

/-- Reading an expression never adds tokens. -/
theorem length_ahead_phrase_le (p : Prec) (ts : List Located) :
    (phrase p ts).ahead.length ≤ ts.length :=
  (phraseBounded p ts).property

/-- A sum is a product and what its chain goes on with. -/
theorem phrase_sum (ts : List Located) :
    phrase .sum ts = (phrase .product ts).bind (chain .sum) := by
  rw [phrase, phraseBounded]
  exact Reading.Bounded.val_bind _ _ _ fun _ _ _ => rfl

/-- A product is a factor and what its chain goes on with. -/
theorem phrase_product (ts : List Located) :
    phrase .product ts = (phrase .factor ts).bind (chain .product) := by
  rw [phrase, phraseBounded]
  exact Reading.Bounded.val_bind _ _ _ fun _ _ _ => rfl

/-- Where no token is left there is no factor. -/
theorem phrase_factor_nil : phrase .factor [] = .fail endOfTokens [] := by
  rw [phrase, phraseBounded]
  rfl

/-- A factor after its first token. -/
theorem phrase_factor_cons (t : Located) (ts : List Located) :
    phrase .factor (t :: ts) =
      match t.token with
      | .plus => (phrase .factor ts).map (.signed .plus · t.line)
      | .minus => (phrase .factor ts).map (.signed .minus · t.line)
      | .integer value => .done (.number value t.line) ts
      | .ident name => .done (.var name t.line) ts
      | .leftParen => (phrase .sum ts).bind fun e us => (expect .rightParen us).map fun _ => e
      | _ => .fail ⟨t.line, .expectedExpression t.kind⟩ (t :: ts) := by
  obtain ⟨token, line⟩ := t
  rw [phrase, phraseBounded]
  cases token <;> try rfl
  · exact Reading.Bounded.val_bind (phraseBounded .factor ts) _ _ fun _ _ _ => rfl
  · exact Reading.Bounded.val_bind (phraseBounded .factor ts) _ _ fun _ _ _ => rfl
  · exact Reading.Bounded.val_bind (phraseBounded .sum ts) _ _ fun _ us _ =>
      Reading.Bounded.val_bind (.expect .rightParen us) _ _ fun _ _ _ => rfl

/-- Where no token is left a chain ends. -/
@[simp]
theorem chain_nil (p : Prec) (left : Expr) : chain p left [] = .done left [] := by
  rw [chain, chainBounded]
  rfl

/-- A chain goes on exactly at an operator of its level. -/
theorem chain_cons (p : Prec) (left : Expr) (t : Located) (ts : List Located) :
    chain p left (t :: ts) =
      match p.operator? t.token with
      | some op => (phrase p.operand ts).bind fun right => chain p (.binary left op right t.line)
      | none => .done left (t :: ts) := by
  rw [chain, chainBounded]
  cases h : p.operator? t.token with
  | some op =>
    exact Reading.Bounded.val_bind (phraseBounded p.operand ts) _ _ fun _ _ _ => rfl
  | none => rfl

end Reckoner
