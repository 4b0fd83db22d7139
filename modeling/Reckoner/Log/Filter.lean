import Reckoner.Log.Event

/-!
# Which events a log keeps

A log keeps some of the events (`Filter`). Which ones is said by directives, in a text. What
the directives mean is not settled here : `Directives` is any way to understand them. A session
chooses its filter by the setting of the log, where there is one that is well formed, and by how
much detail is asked for otherwise (`Directives.filter`).

In the simplest language of directives a text is the name of a level, for all events
(`Directives.levels`).
-/

namespace Reckoner

/-- Which events a log keeps. -/
abbrev Filter := Event → Bool

/-- A way to understand directives. -/
structure Directives where
  /-- The filter that a text describes, if all of it is well formed. -/
  strict? : String → Option Filter
  /-- The filter that the well-formed parts of a text describe. -/
  lenient : String → Filter

/-- The directives for asking for more detail `n` times. -/
def detailText (n : Nat) : String :=
  match n with
  | 0 => "warn"
  | 1 => "info"
  | 2 => "debug"
  | _ => "trace"

/-- The filter for a setting of the log and for asking for more detail `verbosity` times. A setting
that is not well formed does not count. -/
def Directives.filter (d : Directives) (setting : Option String) (verbosity : Nat) : Filter :=
  (setting.bind d.strict?).getD (d.lenient (detailText verbosity))

/-! ## Names of levels -/

/-- How severe events have to be to be kept. -/
inductive Threshold where
  /-- None is kept. -/
  | silent
  /-- Those of the level `l` and of more severe ones are kept. -/
  | upTo (l : Level)
  deriving DecidableEq

namespace Threshold

/-- The filter with the threshold. -/
def filter : Threshold → Filter
  | silent, _ => false
  | upTo limit, e => e.level.rank ≤ limit.rank

/-- The threshold with the given name, in any letter case, or with the rank of its level for
a name. The empty name is one for silence. -/
def ofName? (name : String) : Option Threshold :=
  match name.toLower with
  | "" | "0" | "off" => some silent
  | "1" | "error" => some (upTo .error)
  | "2" | "warn" => some (upTo .warn)
  | "3" | "info" => some (upTo .info)
  | "4" | "debug" => some (upTo .debug)
  | "5" | "trace" => some (upTo .trace)
  | _ => none

end Threshold

/-- Directives that consist of the name of a threshold. -/
def Directives.levels : Directives where
  strict? text := (Threshold.ofName? text).map Threshold.filter
  lenient text := ((Threshold.ofName? text).getD .silent).filter

end Reckoner
