import Reckoner.Numeral
import Reckoner.Token

/-!
# Errors

An error is a cause and the line it is reported on. The causes come from three places :
scanning the source text, reading the tokens as a program, and looking up a variable.
`Error.message` is the only place where an error gets its wording.
-/

namespace Reckoner

/-- What is wrong with a program. -/
inductive Cause where
  /-- A character that starts no token. -/
  | unexpectedCharacter (found : Char)
  /-- A literal of several digits that starts with zero. -/
  | leadingZero (digits : String)
  /-- A token where one of another kind has to stand. -/
  | unexpectedToken (expected found : Kind)
  /-- A token where an expression has to start. -/
  | expectedExpression (found : Kind)
  /-- The tokens run out. -/
  | endOfInput
  /-- A variable that has no value, spelled as written. -/
  | unknownVariable (name : String)
  deriving DecidableEq

/-- A cause and the line it is reported on. -/
structure Error where
  line : Nat
  cause : Cause
  deriving DecidableEq

/-- What a message says about a cause. -/
def Cause.text : Cause → String
  | .unexpectedCharacter c => "Unexpected character '" ++ c.toString ++ "'."
  | .leadingZero digits => "Integer literal '" ++ digits ++ "' has a leading zero."
  | .unexpectedToken expected found =>
    "Expected " ++ expected.text ++ " but got " ++ found.text ++ "."
  | .expectedExpression found => "Expected an expression but got " ++ found.text ++ "."
  | .endOfInput => "Unexpected end of input."
  | .unknownVariable name => "Unknown variable '" ++ name ++ "'."

/-- The message for an error, with its line first. -/
def Error.message (e : Error) : String :=
  "Error on line " ++ Numeral.natText e.line ++ ": " ++ e.cause.text

end Reckoner
