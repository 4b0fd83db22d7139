import Reckoner.Phrase

/-!
# The grammar

The grammar of programs as rules, with the tree each of them builds. It says which rows of
tokens are expressions of a level (`Derives`), assignments (`DerivesStatement`) and programs
(`DerivesProgram`), and does not say how to find that out.

The rules for `+`, `-` and `*` are recursive on the left, so chains group to the left. An
operator node takes the line of its operator, a leaf that of its token, and parentheses
build nothing. A statement takes the line of the assigned name. A program ends at its one
end mark.
-/

namespace Reckoner

/-- The tokens spell an expression of the level `p`. -/
inductive Derives : Prec → List Located → Expr → Prop where
  | add {u v : List Located} {a b : Expr} {l : Nat} :
    Derives .sum u a → Derives .product v b →
      Derives .sum (u ++ ⟨.plus, l⟩ :: v) (.binary a .add b l)
  | sub {u v : List Located} {a b : Expr} {l : Nat} :
    Derives .sum u a → Derives .product v b →
      Derives .sum (u ++ ⟨.minus, l⟩ :: v) (.binary a .sub b l)
  | product {u : List Located} {a : Expr} : Derives .product u a → Derives .sum u a
  | mul {u v : List Located} {a b : Expr} {l : Nat} :
    Derives .product u a → Derives .factor v b →
      Derives .product (u ++ ⟨.times, l⟩ :: v) (.binary a .mul b l)
  | factor {u : List Located} {a : Expr} : Derives .factor u a → Derives .product u a
  | plus {u : List Located} {a : Expr} {l : Nat} :
    Derives .factor u a → Derives .factor (⟨.plus, l⟩ :: u) (.signed .plus a l)
  | minus {u : List Located} {a : Expr} {l : Nat} :
    Derives .factor u a → Derives .factor (⟨.minus, l⟩ :: u) (.signed .minus a l)
  | group {u : List Located} {a : Expr} {l m : Nat} :
    Derives .sum u a → Derives .factor (⟨.leftParen, l⟩ :: u ++ [⟨.rightParen, m⟩]) a
  | number {v : Int} {l : Nat} : Derives .factor [⟨.integer v, l⟩] (.number v l)
  | var {name : String} {l : Nat} : Derives .factor [⟨.ident name, l⟩] (.var name l)

/-- The tokens spell an assignment. -/
inductive DerivesStatement : List Located → Statement → Prop where
  | assign {name : String} {u : List Located} {a : Expr} {l m n : Nat} :
    Derives .sum u a →
      DerivesStatement (⟨.ident name, l⟩ :: ⟨.assign, m⟩ :: u ++ [⟨.semicolon, n⟩]) ⟨name, a, l⟩

/-- The tokens spell a program, with its end mark last. -/
inductive DerivesProgram : List Located → List Statement → Prop where
  | done {l : Nat} : DerivesProgram [⟨.eof, l⟩] []
  | step {u v : List Located} {s : Statement} {p : List Statement} :
    DerivesStatement u s → DerivesProgram v p → DerivesProgram (u ++ v) (s :: p)

/-- No expression is spelled by no tokens. -/
theorem Derives.ne_nil {p : Prec} {u : List Located} {a : Expr} (h : Derives p u a) : u ≠ [] := by
  induction h with
  | product _ ih => exact ih
  | factor _ ih => exact ih
  | _ => simp

end Reckoner
