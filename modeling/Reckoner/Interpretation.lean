import Reckoner.Evaluation
import Reckoner.Program
import Reckoner.Token.Scan

/-!
# Interpreting a source text

A source text is cut into tokens completely, then read as a program completely, then run
on an empty store. `evaluate` gives the result, a report or the first error, and `interpret`
the line that is printed.
-/

namespace Reckoner

/-- The report of a source text, or the first error in it. -/
def evaluate (source : String) : Except Error Report := do
  let tokens ← tokenize source
  let program ← parse tokens
  (Store.empty.run program).result

/-- The line that is printed for every failure. -/
def failureLine : String :=
  "error"

/-- The line that a result is printed as. -/
def outputLine : Except Error Report → String
  | .ok report => report.text
  | .error _ => failureLine

/-- The line that is printed for a source text. -/
def interpret (source : String) : String :=
  outputLine (evaluate source)

end Reckoner
