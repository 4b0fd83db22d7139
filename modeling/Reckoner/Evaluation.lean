import Reckoner.Error
import Reckoner.Expr
import Reckoner.Report

/-!
# Evaluation

Expressions have an integer value where the values of variables are known, or fail at the first
variable, from the left, that has none (`Expr.evalBy`). Statements run one after the other, each
on the store the ones before it left. A run (`Run`) stops at the first statement that fails; it
keeps what was assigned before, and the failing statement assigns nothing.
-/

namespace Reckoner

/-- The value of a variable that an expression names on line `line`, where `get?` gives the values
of variables. -/
def valueBy (get? : String → Option Int) (name : String) (line : Nat) : Except Error Int :=
  match get? name with
  | some v => .ok v
  | none => .error ⟨line, .unknownVariable name⟩

/-- The value of an expression, where `get?` gives the values of variables. -/
def Expr.evalBy (get? : String → Option Int) : Expr → Except Error Int
  | .number v _ => .ok v
  | .var name line => valueBy get? name line
  | .signed sign operand _ => do
    let a ← operand.evalBy get?
    return sign.apply a
  | .binary left op right _ => do
    let a ← left.evalBy get?
    let b ← right.evalBy get?
    return op.apply a b

namespace Store

variable (s : Store)

/-- The value of a variable that an expression names on line `line`. -/
def value (name : String) (line : Nat) : Except Error Int :=
  valueBy s.get? name line

/-- The value of an expression. -/
def eval (e : Expr) : Except Error Int :=
  e.evalBy s.get?

@[simp]
theorem eval_var (name : String) (line : Nat) : s.eval (.var name line) = s.value name line :=
  rfl

@[simp]
theorem eval_signed (sign : Sign) (operand : Expr) (line : Nat) :
    s.eval (.signed sign operand line) = do
      let a ← s.eval operand
      return sign.apply a :=
  rfl

@[simp]
theorem eval_binary (left : Expr) (op : Operator) (right : Expr) (line : Nat) :
    s.eval (.binary left op right line) = do
      let a ← s.eval left
      let b ← s.eval right
      return op.apply a b :=
  rfl

variable {s}

theorem value_of_some {name : String} {v : Int} (h : s.get? name = some v) (line : Nat) :
    s.value name line = .ok v := by
  rw [value, valueBy, h]

theorem value_of_none {name : String} (h : s.get? name = none) (line : Nat) :
    s.value name line = .error ⟨line, .unknownVariable name⟩ := by
  rw [value, valueBy, h]

end Store

/-- An assignment that was carried out. -/
structure Assignment where
  /-- The assigned name, spelled as written. -/
  name : String
  value : Int
  line : Nat
  deriving DecidableEq

/-- What a statement assigns in a store. -/
def Store.assigns (s : Store) (st : Statement) : Except Error Assignment := do
  let v ← s.eval st.value
  return ⟨st.name, v, st.line⟩

/-- The store after an assignment. -/
def Store.carryOut (s : Store) (a : Assignment) : Store :=
  s.bind a.name a.value

/-- How a program ran. -/
structure Run where
  /-- What was assigned, in order. -/
  assigned : List Assignment
  /-- The store that is left. -/
  store : Store
  /-- The error that stopped the run, if one did. -/
  error? : Option Error
  deriving DecidableEq

/-- The report of a run that was not stopped, or the error. -/
def Run.result (r : Run) : Except Error Report :=
  match r.error? with
  | none => .ok r.store.report
  | some e => .error e

/-- Run statements on a store. -/
def Store.run (s : Store) : List Statement → Run
  | [] => ⟨[], s, none⟩
  | st :: rest =>
    match s.assigns st with
    | .error e => ⟨[], s, some e⟩
    | .ok a =>
      let later := (s.carryOut a).run rest
      { later with assigned := a :: later.assigned }

end Reckoner
