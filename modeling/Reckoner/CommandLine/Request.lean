/-!
# What a command line asks for

The arguments are looked at from left to right, and the first that is wrong, or that asks
for help or the version, settles the request. A flag has a short and a long name; short
names may be joined behind one dash. At most one argument that is no flag is taken, the
contents. A double dash ends the flags : every argument after it stands for itself.
-/

namespace Reckoner.CommandLine

/-- The flags. -/
inductive Flag where
  /-- The contents are a path. -/
  | file
  /-- More detail in the log; may be repeated. -/
  | verbose
  | help
  | version
  deriving DecidableEq

/-- The flag with the given short name. -/
def Flag.ofShort? : Char → Option Flag
  | 'f' => some file
  | 'v' => some verbose
  | 'h' => some help
  | 'V' => some version
  | _ => none

/-- The flag with the given long name, dashes included. -/
def Flag.ofLong? : String → Option Flag
  | "--file" => some file
  | "--verbose" => some verbose
  | "--help" => some help
  | "--version" => some version
  | _ => none

/-- The flags that an argument stands for. A flag that does not exist is `none`. -/
def flagsOf (arg : String) : Option (List (Option Flag)) :=
  match arg.toList with
  | '-' :: '-' :: _ => some [Flag.ofLong? arg]
  | '-' :: c :: cs => some ((c :: cs).map Flag.ofShort?)
  | _ => none

/-- Settings of an interpreter call. -/
structure Options where
  /-- The contents are a path. -/
  file : Bool
  /-- How often more detail was asked for. -/
  verbosity : Nat
  /-- The program or the path to it. -/
  contents : Option String
  deriving DecidableEq

/-- The settings without any argument. -/
def Options.initial : Options :=
  ⟨false, 0, none⟩

/-- What a command line asks for. -/
inductive Request where
  | help
  | version
  /-- The arguments make no sense. -/
  | misuse
  | interpret (options : Options)
  deriving DecidableEq

/-- Take a flag into the settings, or settle the request. -/
def Options.raise (o : Options) : Option Flag → Except Request Options
  | some .file => if o.file then .error .misuse else .ok { o with file := true }
  | some .verbose => .ok { o with verbosity := o.verbosity + 1 }
  | some .help => .error .help
  | some .version => .error .version
  | none => .error .misuse

/-- Take the contents into the settings; a second one is wrong. -/
def Options.supply (o : Options) (contents : String) : Except Request Options :=
  match o.contents with
  | none => .ok { o with contents := some contents }
  | some _ => .error .misuse

/-- Take an argument into the settings, or settle the request. -/
def Options.take (o : Options) (arg : String) : Except Request Options :=
  match flagsOf arg with
  | some flags => flags.foldlM Options.raise o
  | none => o.supply arg

/-- Take all arguments into the settings, or settle the request. -/
def Options.takeAll (o : Options) : List String → Except Request Options
  | [] => .ok o
  | arg :: args =>
    if arg = "--" then args.foldlM Options.supply o
    else do
      let o ← o.take arg
      o.takeAll args

/-- What the arguments ask for. -/
def Request.ofArgs (args : List String) : Request :=
  match Options.initial.takeAll args with
  | .ok options => .interpret options
  | .error request => request

end Reckoner.CommandLine
