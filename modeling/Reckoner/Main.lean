import Reckoner.CommandLine.Session

/-!
# The program

Reads the bytes that the command line points to, and prints the answer. The log goes to
standard error, and its directives are names of levels.
-/

namespace Reckoner

open CommandLine

/-- A fault by its number, which the system may give with a minus sign, and description. -/
def systemFault (code : UInt32) (description : String) : ReadFault :=
  .system (min code.toNat (-code).toNat) description.capitalize

/-- The system's account of a failed reading. -/
def faultOf : IO.Error → ReadFault
  | .noFileOrDirectory .. => .missing
  | .inappropriateType _ code description => systemFault code description
  | .permissionDenied _ code description => systemFault code description
  | .invalidArgument _ code description => systemFault code description
  | e => .system 5 e.toString

/-- What an attempt at reading gives. -/
def attempt (read : IO ByteArray) : IO (Except ReadFault ByteArray) := do
  match (← read.toBaseIO) with
  | .ok bytes => return .ok bytes
  | .error e => return .error (faultOf e)

/-- The bytes that the arguments point to, if any. -/
def fetch (args : List String) : IO (Except ReadFault ByteArray) :=
  match Request.ofArgs args with
  | .interpret options =>
    match options.origin with
    | .contents _ => return .ok .empty
    | .file path => attempt (IO.FS.readBinFile path)
    | .standardInput => attempt do (← IO.getStdin).readBinToEnd
  | _ => return .ok .empty

/-- Answer the command line and give the exit code. -/
def answer (args : List String) : IO UInt32 := do
  let bytes ← fetch args
  let setting ← IO.getEnv "RUST_LOG"
  let surroundings : Surroundings := ⟨bytes, fun _ => bytes, setting, .levels⟩
  let response := surroundings.respond args
  for event in response.log do
    IO.eprintln event.line
  IO.print response.output
  return response.exitCode.toUInt32

end Reckoner

/-- The program. -/
def main (args : List String) : IO UInt32 :=
  Reckoner.answer args
