import Reckoner.Evaluation
import Reckoner.Log.Level

/-!
# Events worth logging

Interpreting a text leaves a trail of events, each with a level of severity : the text was
read or could not be, it was cut into tokens, read as a program and run, with one event
for every assignment that was carried out, or something failed.
-/

namespace Reckoner

/-- Why the text of a program could not be read. -/
inductive ReadFault where
  /-- The system refuses, with its number and description of the fault. -/
  | system (code : Nat) (description : String)
  /-- The bytes are not UTF-8. -/
  | notText
  deriving DecidableEq

namespace ReadFault

/-- There is nothing at the path. -/
def missing : ReadFault :=
  system 2 "No such file or directory"

/-- A name on the path stands for a file where a directory is needed. -/
def notDirectory : ReadFault :=
  system 20 "Not a directory"

/-- There is a directory at the path. -/
def isDirectory : ReadFault :=
  system 21 "Is a directory"

/-- The path or a name on it is too long. -/
def nameTooLong : ReadFault :=
  system 36 "File name too long"

/-- The description of a fault. -/
def text : ReadFault → String
  | system code description => description ++ " (os error " ++ Numeral.natText code ++ ")"
  | notText => "stream did not contain valid UTF-8"

end ReadFault

/-- What happened while a text was interpreted. -/
inductive Event where
  | unreadable (fault : ReadFault)
  /-- A text of `bytes` bytes was read. -/
  | read (bytes : Nat)
  /-- The text was cut into `count` tokens, with the end mark. -/
  | tokenized (count : Nat)
  /-- The tokens were read as `count` statements. -/
  | parsed (count : Nat)
  | assigned (a : Assignment)
  /-- All statements were run and left `held` variables in the store. -/
  | evaluated (statements held : Nat)
  | failed (e : Error)
  deriving DecidableEq

namespace Event

/-- The severity of an event. -/
def level : Event → Level
  | unreadable _ => .error
  | read _ => .info
  | tokenized _ => .debug
  | parsed _ => .debug
  | assigned _ => .trace
  | evaluated _ _ => .debug
  | failed _ => .debug

/-- The description of an event. -/
def text : Event → String
  | unreadable fault => "failed to read the program error=" ++ fault.text
  | read bytes => "read program bytes=" ++ Numeral.natText bytes
  | tokenized count => "tokenized source count=" ++ Numeral.natText count
  | parsed count => "parsed program count=" ++ Numeral.natText count
  | assigned a =>
    "assigned variable name=" ++ a.name ++ " value=" ++ Numeral.text a.value ++
      " line=" ++ Numeral.natText a.line
  | evaluated statements held =>
    "evaluated program statements=" ++ Numeral.natText statements ++
      " variables=" ++ Numeral.natText held
  | failed e => "interpretation failed error=" ++ e.message

/-- An event as a line of the log. -/
def line (e : Event) : String :=
  e.level.text ++ " " ++ e.text

end Event

end Reckoner
