import Reckoner.Text.Cased
import Reckoner.Text.CaseMap

/-!
# Lower case of a text

`lowercase` is the full Unicode lower-case mapping without language-specific rules.
Two characters are special. The capital I with a dot above becomes an `i` and a
combining dot. The capital sigma becomes `ς` at the end of a word and `σ` elsewhere;
it ends a word (`endsWord`) when a cased character comes before it and none after it,
looking through case-ignorable characters on both sides. Every other character is
mapped on its own by `lowerChar`.
-/

namespace Reckoner.Text

/-- The first character that casing does not look through is cased. -/
def meetsCased (cs : List Char) : Bool :=
  match cs.dropWhile isCaseIgnorable with
  | c :: _ => isCased c
  | [] => false

/-- A letter between `before`, read backwards, and `after` is the last of its word. -/
def endsWord (before after : List Char) : Bool :=
  meetsCased before && !meetsCased after

/-- The lower-case form of `c` between `before`, read backwards, and `after`. -/
def lowerIn (before : List Char) (c : Char) (after : List Char) : List Char :=
  if c = 'İ' then ['i', '\u0307']
  else if c = 'Σ' then [if endsWord before after then 'ς' else 'σ']
  else [lowerChar c]

/-- The lower-case form of a text that follows `before`, read backwards. -/
def lowerFrom (before : List Char) : List Char → List Char
  | [] => []
  | c :: after => lowerIn before c after ++ lowerFrom (c :: before) after

/-- The lower-case form of a text. -/
def lowercase (text : String) : String :=
  String.ofList (lowerFrom [] text.toList)

end Reckoner.Text
