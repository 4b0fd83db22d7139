import Reckoner.Token.Scan

/-!
# How source texts are laid out

A source text is a row of lexemes with blank space between them. `Lexeme` says which texts
stand for which token, and `Touching` which tokens would run together if nothing stood
between them. A piece of a layout is a lexeme with the blank space before it; a layout is a
list of pieces and the blank space at the end. From a layout one reads off the text it
spells (`Layout.text`) and the tokens with their lines (`Layout.tokens`), where a token's
line is one more than the number of line feeds before it.
-/

namespace Reckoner

/-- The characters spell the token. -/
inductive Lexeme : List Char → Token → Prop where
  | name {c : Char} {cs : List Char} (head : startsName c) (tail : ∀ d ∈ cs, continuesName d) :
    Lexeme (c :: cs) (.ident (String.ofList (c :: cs)))
  | zero : Lexeme ['0'] (.integer 0)
  | numeral {c : Char} {cs : List Char} (head : c.isDigit) (nonzero : c ≠ '0')
      (tail : ∀ d ∈ cs, d.isDigit) :
    Lexeme (c :: cs) (.integer (Numeral.value (c :: cs)))
  | plus : Lexeme ['+'] .plus
  | minus : Lexeme ['-'] .minus
  | times : Lexeme ['*'] .times
  | assign : Lexeme ['='] .assign
  | leftParen : Lexeme ['('] .leftParen
  | rightParen : Lexeme [')'] .rightParen
  | semicolon : Lexeme [';'] .semicolon

/-- Blank space has to stand between the two tokens. -/
def Touching : Token → Token → Prop
  | .ident _, .ident _ => True
  | .ident _, .integer _ => True
  | .integer _, .integer _ => True
  | _, _ => False

/-- A lexeme with the blank space before it. -/
structure Piece where
  gap : List Char
  lexeme : List Char
  token : Token

/-- Lexemes in order, and the blank space at the end. -/
structure Layout where
  pieces : List Piece
  rest : List Char

/-- The number of line feeds in a text. -/
def lineFeeds (cs : List Char) : Nat :=
  cs.count '\n'

namespace Layout

/-- The characters of a layout, from a list of pieces on. -/
def textFrom (rest : List Char) : List Piece → List Char
  | [] => rest
  | piece :: pieces => piece.gap ++ piece.lexeme ++ textFrom rest pieces

/-- The text that a layout spells. -/
def text (layout : Layout) : String :=
  String.ofList (textFrom layout.rest layout.pieces)

/-- The tokens of a list of pieces that follows the text `before`, and the end mark. -/
def tokensFrom (rest : List Char) (before : List Char) : List Piece → List Located
  | [] => [⟨.eof, 1 + lineFeeds (before ++ rest)⟩]
  | piece :: pieces =>
    ⟨piece.token, 1 + lineFeeds (before ++ piece.gap)⟩ ::
      tokensFrom rest (before ++ piece.gap ++ piece.lexeme) pieces

/-- The tokens of a layout, and the end mark. -/
def tokens (layout : Layout) : List Located :=
  tokensFrom layout.rest [] layout.pieces

/-- Blank space stands between neighbours that would run together. -/
def Apart : List Piece → Prop
  | a :: b :: pieces => (Touching a.token b.token → b.gap ≠ []) ∧ Apart (b :: pieces)
  | _ => True

/-- The pieces are lexemes with blank space before them, enough to keep them apart. -/
structure Proper (layout : Layout) : Prop where
  lexemes : ∀ piece ∈ layout.pieces, Lexeme piece.lexeme piece.token
  gaps : ∀ piece ∈ layout.pieces, ∀ c ∈ piece.gap, Text.isBlank c
  rest : ∀ c ∈ layout.rest, Text.isBlank c
  apart : Apart layout.pieces

end Layout

end Reckoner
