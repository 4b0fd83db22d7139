import Reckoner.Numeral
import Reckoner.Store

/-!
# Reports

A report lists variables with their values. It is written in two ways : as the line a
program prints (`Report.text`), and as a program that assigns every variable its value
(`Report.program`). The line is empty for an empty report.
-/

namespace Reckoner

/-- Variables with their values, in order of first assignment. -/
structure Report where
  entries : List (String × Int)
  deriving DecidableEq

namespace Report

/-- No variable is reported. -/
def isEmpty (r : Report) : Bool :=
  r.entries.isEmpty

/-- A variable and its value, `name = value`. -/
def entryText (e : String × Int) : String :=
  e.1 ++ " = " ++ Numeral.text e.2

/-- The reported variables on one line. -/
def text (r : Report) : String :=
  " ".intercalate (r.entries.map entryText)

/-- The program that assigns every reported variable its value. -/
def program (r : Report) : String :=
  " ".intercalate (r.entries.map fun e => entryText e ++ ";")

end Report

/-- The report of all variables of a store. -/
def Store.report (s : Store) : Report :=
  ⟨s.entries⟩

end Reckoner
