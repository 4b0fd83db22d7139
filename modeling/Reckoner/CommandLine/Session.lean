import Reckoner.CommandLine.Directory
import Reckoner.CommandLine.Request
import Reckoner.Log.Filter
import Reckoner.Log.Stages

/-!
# A session at the command line

A session takes the arguments, the bytes of standard input, the files, the setting of the
log and how directives for it are understood, and answers with what is printed, an exit code
and the events that are logged (`respond`). The program is the contents, or the file they name,
or standard input where there are no contents. Whatever goes wrong, one line is printed and the
exit code is zero.
-/

namespace Reckoner.CommandLine

/-- Where the text of a program comes from. -/
inductive Origin where
  | contents (text : String)
  | file (path : String)
  | standardInput
  deriving DecidableEq

/-- Where the options say that the text comes from. -/
def Options.origin (o : Options) : Origin :=
  match o.contents with
  | none => .standardInput
  | some text => if o.file then .file text else .contents text

/-- What a session can see beside its arguments. -/
structure Surroundings where
  /-- What reading standard input gives. -/
  standardInput : Except ReadFault ByteArray
  /-- What reading the file at a path gives. -/
  file : String → Except ReadFault ByteArray
  /-- The directives for the log, if they are set. -/
  logSetting : Option String
  /-- How directives are understood. -/
  directives : Directives

/-- The text that UTF-8 bytes spell. -/
def decode (bytes : ByteArray) : Except ReadFault String :=
  match String.fromUTF8? bytes with
  | some text => .ok text
  | none => .error .notText

/-- The text of the program. -/
def Surroundings.text (s : Surroundings) : Origin → Except ReadFault String
  | .contents text => .ok text
  | .file path => s.file path >>= decode
  | .standardInput => s.standardInput >>= decode

/-- The events that are kept in the log. -/
def Surroundings.filter (s : Surroundings) (verbosity : Nat) : Filter :=
  s.directives.filter s.logSetting verbosity

/-- What a session answers. -/
structure Response where
  /-- What is printed. -/
  output : String
  exitCode : Nat
  /-- The events that are logged, in order. -/
  log : List Event

/-- One printed line and the events in the log. -/
def Response.ofLine (line : String) (log : List Event) : Response :=
  ⟨line ++ "\n", 0, log⟩

/-- The lines that explain the command line. -/
def helpLines : List String :=
  ["A small interpreter for semicolon-terminated integer assignment programs.",
   "",
   "Usage: varcalc [OPTIONS] [CONTENTS]",
   "",
   "Arguments:",
   "  [CONTENTS]  The program, or a path with `--file`. Read from stdin when absent",
   "",
   "Options:",
   "  -f, --file        Tells varcalc to treat the contents as a path instead of a program",
   "  -v, --verbose...  Increases log verbosity on stderr (-v info, -vv debug, -vvv trace). " ++
     "`RUST_LOG` takes precedence when set",
   "  -h, --help        Print help",
   "  -V, --version     Print version"]

/-- The text that explains the command line. -/
def helpText : String :=
  String.join (helpLines.map (· ++ "\n"))

/-- The text that names the version. -/
def versionText : String :=
  "varcalc 0.1.0\n"

/-- Interpret the text that the options point to. -/
def Surroundings.interpret (s : Surroundings) (o : Options) : Response :=
  let keep := s.filter o.verbosity
  match s.text o.origin with
  | .error fault => .ofLine failureLine ([.unreadable fault].filter keep)
  | .ok text =>
    let logged := interpretLogged text
    .ofLine logged.result ((.read text.utf8ByteSize :: logged.events).filter keep)

/-- The answer to a command line. -/
def Surroundings.respond (s : Surroundings) (args : List String) : Response :=
  match Request.ofArgs args with
  | .help => ⟨helpText, 0, []⟩
  | .version => ⟨versionText, 0, []⟩
  | .misuse => .ofLine failureLine []
  | .interpret options => s.interpret options

end Reckoner.CommandLine
