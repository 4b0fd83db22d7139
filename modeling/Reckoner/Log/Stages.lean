import Reckoner.Context
import Reckoner.Interpretation

/-!
# Interpreting with a log

Every stage of the interpretation leaves its events (`Stage`) : cutting the text into tokens and
reading the program leave one if they succeed, and running the program leaves those of the
context. The stages follow each other as long as none fails. A failure is an event too, and the
last one (`interpretLogged`).
-/

namespace Reckoner

/-- A result and the events that were left on the way to it, in order. -/
structure Logged (α : Type) where
  result : α
  events : List Event

/-- What a stage that may fail gives. -/
abbrev Stage (α : Type) := Logged (Except Error α)

namespace Stage

variable {α β : Type}

/-- A stage that leaves an event about its result if it has one. -/
def ofResult (result : Except Error α) (event : α → Event) : Stage α :=
  match result with
  | .ok a => ⟨.ok a, [event a]⟩
  | .error e => ⟨.error e, []⟩

/-- Go on to the next stage, unless this one failed. -/
def andThen (stage : Stage α) (next : α → Stage β) : Stage β :=
  match stage.result with
  | .error e => ⟨.error e, stage.events⟩
  | .ok a => ⟨(next a).result, stage.events ++ (next a).events⟩

end Stage

/-- Cut a source text into tokens. -/
def tokenizeLogged (source : String) : Stage (List Located) :=
  .ofResult (tokenize source) fun tokens => .tokenized tokens.length

/-- Read tokens as a program. -/
def parseLogged (tokens : List Located) : Stage (List Statement) :=
  .ofResult (parse tokens) fun program => .parsed program.length

/-- Run a program in an empty context and report the variables that are left. -/
def runLogged (program : List Statement) : Stage Report :=
  let effect := Context.empty.run program
  ⟨effect.result.map fun _ => effect.context.report, effect.events⟩

/-- Take a source text through all stages. -/
def evaluateLogged (source : String) : Stage Report :=
  (tokenizeLogged source).andThen fun tokens => (parseLogged tokens).andThen runLogged

/-- The line that is printed for a source text, and all events. -/
def interpretLogged (source : String) : Logged String :=
  let stage := evaluateLogged source
  match stage.result with
  | .ok report => ⟨report.text, stage.events⟩
  | .error e => ⟨failureLine, stage.events ++ [.failed e]⟩

end Reckoner
