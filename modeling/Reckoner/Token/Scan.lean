import Reckoner.Error
import Reckoner.Text.Blank

/-!
# From text to tokens

`tokenize` cuts a source text into tokens, each as long as possible. A name starts with
an ASCII letter or an underscore and goes on with these and digits; a literal is a run of
ASCII digits, and one of several digits must not start with zero. Blank characters are
passed over, and a line feed among them starts the next line. The row ends with the end
mark, on the line where the text ends. The first character or literal that fits nothing
is the error.
-/

namespace Reckoner

/-- The character can start a name. -/
def startsName (c : Char) : Bool :=
  c.isAlpha || c == '_'

/-- The character can stand in a name after its start. -/
def continuesName (c : Char) : Bool :=
  c.isAlphanum || c == '_'

/-- The line after passing over `c` on line `line`. -/
def lineAfter (line : Nat) (c : Char) : Nat :=
  if c = '\n' then line + 1 else line

theorem length_dropWhile_le {α : Type} (p : α → Bool) (xs : List α) :
    (xs.dropWhile p).length ≤ xs.length :=
  (List.dropWhile_suffix p).length_le

/-- The tokens of a text that starts on line `line`. -/
def scan (line : Nat) : List Char → Except Error (List Located)
  | [] => .ok [⟨.eof, line⟩]
  | c :: cs =>
    if Text.isBlank c then scan (lineAfter line c) cs
    else if startsName c then
      let name := String.ofList (c :: cs.takeWhile continuesName)
      (scan line (cs.dropWhile continuesName)).map (⟨.ident name, line⟩ :: ·)
    else if c.isDigit then
      let digits := c :: cs.takeWhile Char.isDigit
      if c = '0' ∧ digits ≠ ['0'] then .error ⟨line, .leadingZero (String.ofList digits)⟩
      else
        (scan line (cs.dropWhile Char.isDigit)).map
          (⟨.integer (Numeral.value digits), line⟩ :: ·)
    else match Token.ofSign? c with
      | some token => (scan line cs).map (⟨token, line⟩ :: ·)
      | none => .error ⟨line, .unexpectedCharacter c⟩
termination_by cs => cs.length
decreasing_by
  all_goals
    have := length_dropWhile_le continuesName cs
    have := length_dropWhile_le Char.isDigit cs
    simp only [List.length_cons]
    omega

/-- The tokens of a source text, with the end mark last. -/
def tokenize (source : String) : Except Error (List Located) :=
  scan 1 source.toList

end Reckoner
