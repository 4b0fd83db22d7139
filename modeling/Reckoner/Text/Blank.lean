import Reckoner.Text.Interval

/-!
# Blank characters

The characters that separate tokens : those with the Unicode property `White_Space`,
ten intervals of code points. Control characters outside them (U+001C to U+001F),
the zero-width space and the byte order mark are not blank.
-/

namespace Reckoner.Text

/-- The intervals of `White_Space`. -/
def blankIntervals : List Interval :=
  [(0x0009, 0x000D), (0x0020, 0x0020), (0x0085, 0x0085), (0x00A0, 0x00A0), (0x1680, 0x1680),
   (0x2000, 0x200A), (0x2028, 0x2029), (0x202F, 0x202F), (0x205F, 0x205F), (0x3000, 0x3000)]

/-- The character separates tokens and means nothing else. -/
def isBlank (c : Char) : Bool :=
  within blankIntervals c

/-- A line feed is blank. -/
theorem isBlank_lineFeed : isBlank '\n' = true := by decide

/-- A space is blank. -/
theorem isBlank_space : isBlank ' ' = true := by decide

end Reckoner.Text
