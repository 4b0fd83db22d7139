import Reckoner.Numeral

/-!
# Expressions and statements

An expression is built from integers and variables by signs and the three operators. Its
nodes carry the line of the token they come from, an operator node that of its operator;
parentheses leave no trace. A program is a list of statements, each of which assigns the
value of an expression to a name.

The texts of expressions put parentheses around every sign and operator, so they need no
rules of precedence to be read.
-/

namespace Reckoner

/-- The signs that stand before an operand. -/
inductive Sign where
  | plus
  | minus
  deriving DecidableEq

/-- How a sign is written. -/
def Sign.text : Sign → String
  | .plus => "+"
  | .minus => "-"

/-- What a sign does to an integer. -/
def Sign.apply : Sign → Int → Int
  | .plus, a => a
  | .minus, a => -a

/-- The operators that stand between two operands. -/
inductive Operator where
  | add
  | sub
  | mul
  deriving DecidableEq

/-- How an operator is written. -/
def Operator.text : Operator → String
  | .add => "+"
  | .sub => "-"
  | .mul => "*"

/-- What an operator makes of two integers. -/
def Operator.apply : Operator → Int → Int → Int
  | .add, a, b => a + b
  | .sub, a, b => a - b
  | .mul, a, b => a * b

/-- Expressions, each node with its line. -/
inductive Expr where
  | number (value : Int) (line : Nat)
  /-- A variable, spelled as written. -/
  | var (name : String) (line : Nat)
  | signed (sign : Sign) (operand : Expr) (line : Nat)
  | binary (left : Expr) (op : Operator) (right : Expr) (line : Nat)
  deriving DecidableEq

/-- The line of the outermost node. -/
def Expr.line : Expr → Nat
  | .number _ line => line
  | .var _ line => line
  | .signed _ _ line => line
  | .binary _ _ _ line => line

/-- The variables that an expression reads with their lines, from the left. -/
def Expr.reads : Expr → List (String × Nat)
  | .number _ _ => []
  | .var name line => [(name, line)]
  | .signed _ operand _ => operand.reads
  | .binary left _ right _ => left.reads ++ right.reads

/-- An expression with every sign and operator in parentheses. -/
def Expr.text : Expr → String
  | .number value _ => Numeral.text value
  | .var name _ => name
  | .signed sign operand _ => "(" ++ sign.text ++ operand.text ++ ")"
  | .binary left op right _ =>
    "(" ++ left.text ++ " " ++ op.text ++ " " ++ right.text ++ ")"

/-- The assignment of the value of an expression to a name. -/
structure Statement where
  /-- The assigned name, spelled as written. -/
  name : String
  value : Expr
  /-- The line of the assigned name. -/
  line : Nat
  deriving DecidableEq

/-- A statement as it is written. -/
def Statement.text (s : Statement) : String :=
  s.name ++ " = " ++ s.value.text ++ ";"

end Reckoner
