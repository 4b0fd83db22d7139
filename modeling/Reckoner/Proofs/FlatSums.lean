import Mathlib.Algebra.Ring.Int.Defs
import Reckoner.Evaluation
import Reckoner.Proofs.Extent
import Reckoner.Proofs.Printing

/-!
# Sums of products

A sum as it is written is flat : terms joined by `+` and `-`, each of them a row of factors joined
by `*` (`FlatSum`, `FlatProduct`). Its value is what one would write down by hand, the first term
and the other ones with their signs, each term the product of its factors. The reader makes a tree
of it that leans to the left, and evaluation goes down that tree.

Both levels are one construction. An expression of a level is kept together with its tokens, its
tree and its value (`Valued`), and an operator with its right operand (`Link`) is joined to it.
-/

namespace Reckoner

/-! ## Chains with their values -/

/-- Tokens that spell an expression of the level, with its tree and its value in the store. -/
structure Valued (s : Store) (p : Prec) where
  row : List Located
  tree : Expr
  value : Int
  derives : Derives p row tree
  evaluates : s.eval tree = .ok value

/-- An operator of the chains of the level with the operand to its right. -/
structure Link (s : Store) (p : Prec) where
  token : Located
  op : Operator
  right : Valued s p.operand
  isOperator : p.operator? token.token = some op

variable {s : Store} {p : Prec}

namespace Valued

/-- An operand on its own is an expression of the level. -/
def alone (a : Valued s p.operand) : Valued s p where
  row := a.row
  tree := a.tree
  value := a.value
  derives := a.derives.of_operand
  evaluates := a.evaluates

/-- One more operator and operand. -/
def join (a : Valued s p) (k : Link s p) : Valued s p where
  row := a.row ++ k.token :: k.right.row
  tree := .binary a.tree k.op k.right.tree k.token.line
  value := k.op.apply a.value k.right.value
  derives := .binary k.isOperator a.derives k.right.derives
  evaluates := by
    rw [Store.eval_binary, a.evaluates, k.right.evaluates]
    rfl

theorem row_foldl_join (a : Valued s p) (links : List (Link s p)) :
    (links.foldl join a).row = a.row ++ links.flatMap fun k => k.token :: k.right.row := by
  induction links generalizing a with
  | nil => simp
  | cons k links ih => simp [ih, join]

theorem value_foldl_join (a : Valued s p) (links : List (Link s p)) :
    (links.foldl join a).value =
      links.foldl (fun v k => k.op.apply v k.right.value) a.value := by
  induction links generalizing a with
  | nil => rfl
  | cons k links ih => rw [List.foldl_cons, List.foldl_cons, ih, join]

end Valued

/-! ## Products -/

/-- Factors joined by `*`, each but the first with the line of the `*` before it. -/
structure FlatProduct (s : Store) where
  first : Valued s .factor
  rest : List (Nat × Valued s .factor)

namespace FlatProduct

/-- The tokens of the factors with `*` between them. -/
def row (t : FlatProduct s) : List Located :=
  t.first.row ++ t.rest.flatMap fun f => ⟨.times, f.1⟩ :: f.2.row

/-- The product of the values of the factors. -/
def value (t : FlatProduct s) : Int :=
  t.first.value * (t.rest.map fun f => f.2.value).prod

/-- The product as an expression of its level. -/
def valued (t : FlatProduct s) : Valued s .product :=
  (t.rest.map fun f => ⟨⟨.times, f.1⟩, .mul, f.2, rfl⟩).foldl Valued.join
    (Valued.alone (p := .product) t.first)

theorem row_valued (t : FlatProduct s) : t.valued.row = t.row := by
  rw [valued, Valued.row_foldl_join, List.flatMap_map]
  rfl

theorem foldl_mul (v : Int) (factors : List (Nat × Valued s .factor)) :
    factors.foldl (fun v f => v * f.2.value) v =
      v * (factors.map fun f => f.2.value).prod := by
  induction factors generalizing v with
  | nil => simp
  | cons f factors ih => rw [List.foldl_cons, ih, List.map_cons, List.prod_cons, Int.mul_assoc]

theorem value_valued (t : FlatProduct s) : t.valued.value = t.value := by
  rw [valued, Valued.value_foldl_join, List.foldl_map]
  exact foldl_mul t.first.value t.rest

end FlatProduct

/-! ## Sums -/

/-- Products joined by signs, each but the first with the sign before it and the line of that. -/
structure FlatSum (s : Store) where
  first : FlatProduct s
  rest : List (Sign × Nat × FlatProduct s)

/-- A sign between two operands. -/
def Sign.operator : Sign → Operator
  | .plus => .add
  | .minus => .sub

theorem Sign.operator?_token (sign : Sign) :
    Prec.sum.operator? sign.token = some sign.operator := by
  cases sign <;> rfl

theorem Sign.apply_operator (sign : Sign) (a b : Int) :
    sign.operator.apply a b = a + sign.apply 1 * b := by
  cases sign with
  | plus => simp [operator, Operator.apply, apply]
  | minus => simp [operator, Operator.apply, apply, Int.sub_eq_add_neg]

namespace FlatSum

/-- The tokens of the products with the signs between them. -/
def row (c : FlatSum s) : List Located :=
  c.first.row ++ c.rest.flatMap fun t => ⟨t.1.token, t.2.1⟩ :: t.2.2.row

/-- The first product, and plus or minus one times each of the others. -/
def value (c : FlatSum s) : Int :=
  c.first.value + (c.rest.map fun t => t.1.apply 1 * t.2.2.value).sum

/-- The sum as an expression. -/
def valued (c : FlatSum s) : Valued s .sum :=
  (c.rest.map fun t => ⟨⟨t.1.token, t.2.1⟩, t.1.operator, t.2.2.valued,
    t.1.operator?_token⟩).foldl Valued.join (Valued.alone (p := .sum) c.first.valued)

theorem row_valued (c : FlatSum s) : c.valued.row = c.row := by
  simp only [valued, Valued.row_foldl_join, List.flatMap_map, Valued.alone,
    FlatProduct.row_valued, row]

theorem foldl_add (v : Int) (terms : List (Sign × Nat × FlatProduct s)) :
    terms.foldl (fun v t => t.1.operator.apply v t.2.2.valued.value) v =
      v + (terms.map fun t => t.1.apply 1 * t.2.2.value).sum := by
  induction terms generalizing v with
  | nil => simp
  | cons t terms ih =>
    rw [List.foldl_cons, ih, List.map_cons, List.sum_cons, Sign.apply_operator,
      FlatProduct.value_valued, Int.add_assoc]

theorem value_valued (c : FlatSum s) : c.valued.value = c.value := by
  rw [valued, Valued.value_foldl_join, List.foldl_map]
  calc _ = c.first.valued.value + (c.rest.map fun t => t.1.apply 1 * t.2.2.value).sum :=
        foldl_add _ _
    _ = c.value := by rw [FlatProduct.value_valued, value]

end FlatSum

/-- A sum of products is read as far as it goes, and its value is the first product and the other
ones added and subtracted as their signs say. -/
theorem expression_of_flatSum (s : Store) (c : FlatSum s) (rest : List Located)
    (h : ∀ t ∈ rest.head?, t.kind ∉ Prec.sum.operators) :
    ∃ e, expression (c.row ++ rest) = .done e rest ∧ s.eval e = .ok c.value := by
  refine ⟨c.valued.tree, phrase_eq_done_iff_spans.2 ⟨c.row, rfl, ?_, h⟩, ?_⟩
  · exact c.row_valued ▸ c.valued.derives
  · exact c.value_valued ▸ c.valued.evaluates

/-- The sum `3 - -2 * (4 - 5) - 6`, in any store. -/
def mixedSum (s : Store) : FlatSum s where
  first := ⟨⟨[⟨.integer 3, 1⟩], .number 3 1, 3, .number, rfl⟩, []⟩
  rest := [
    (.minus, 1, ⟨⟨[⟨.minus, 1⟩, ⟨.integer 2, 1⟩], .signed .minus (.number 2 1) 1, -2,
        .minus .number, rfl⟩,
      [(2, ⟨[⟨.leftParen, 2⟩, ⟨.integer 4, 2⟩, ⟨.minus, 2⟩, ⟨.integer 5, 2⟩, ⟨.rightParen, 2⟩],
        .binary (.number 4 2) .sub (.number 5 2) 2, -1,
        .group (.sub (u := [⟨.integer 4, 2⟩]) (.product (.factor .number)) (.factor .number)),
        rfl⟩)]⟩),
    (.minus, 3, ⟨⟨[⟨.integer 6, 3⟩], .number 6 3, 6, .number, rfl⟩, []⟩)]

/-- Before a semicolon the sum is read as a whole, and its value is `3 - 2 - 6`. -/
theorem expression_of_mixedSum :
    ∃ e, expression ([⟨.integer 3, 1⟩, ⟨.minus, 1⟩, ⟨.minus, 1⟩, ⟨.integer 2, 1⟩, ⟨.times, 2⟩,
        ⟨.leftParen, 2⟩, ⟨.integer 4, 2⟩, ⟨.minus, 2⟩, ⟨.integer 5, 2⟩, ⟨.rightParen, 2⟩,
        ⟨.minus, 3⟩, ⟨.integer 6, 3⟩] ++ [⟨.semicolon, 3⟩]) = .done e [⟨.semicolon, 3⟩] ∧
      Store.empty.eval e = .ok (-5) :=
  expression_of_flatSum Store.empty (mixedSum Store.empty) [⟨.semicolon, 3⟩] (by decide)

end Reckoner
