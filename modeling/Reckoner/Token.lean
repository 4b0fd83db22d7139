/-!
# Tokens

A source text is a row of names, integer literals, the signs `+ - * = ( ) ;` and blank
space, closed by an end mark. A token knows nothing of its place; `Located` pairs it with
the line it stands on, counted from one. The kind of a token (`Token.kind`) is what
remains when its name or value is forgotten, and it is what messages speak of.

Blank space separates tokens and produces none, so `Token.blank` is only found in rows of
tokens made by hand. No rule of the language accepts it.
-/

namespace Reckoner

/-- What sort of token stands somewhere, without its name or value. -/
inductive Kind where
  | ident
  | integer
  | plus
  | minus
  | times
  | assign
  | leftParen
  | rightParen
  | semicolon
  | blank
  | eof
  deriving DecidableEq

/-- The word for a kind in messages. -/
def Kind.text : Kind → String
  | .ident => "IDENT"
  | .integer => "INTEGER"
  | .plus => "PLUS"
  | .minus => "MINUS"
  | .times => "MUL"
  | .assign => "ASSIGN"
  | .leftParen => "LPAREN"
  | .rightParen => "RPAREN"
  | .semicolon => "SEMICOLON"
  | .blank => "WHITESPACE"
  | .eof => "EOF"

/-- The smallest meaningful pieces of a source text. -/
inductive Token where
  /-- A name, spelled as written. -/
  | ident (name : String)
  /-- An integer literal. -/
  | integer (value : Int)
  | plus
  | minus
  | times
  | assign
  | leftParen
  | rightParen
  | semicolon
  | blank
  /-- The end of the source text. -/
  | eof
  deriving DecidableEq

/-- The kind of a token. -/
def Token.kind : Token → Kind
  | .ident _ => .ident
  | .integer _ => .integer
  | .plus => .plus
  | .minus => .minus
  | .times => .times
  | .assign => .assign
  | .leftParen => .leftParen
  | .rightParen => .rightParen
  | .semicolon => .semicolon
  | .blank => .blank
  | .eof => .eof

/-- The token written as a single sign, if `c` is one. -/
def Token.ofSign? : Char → Option Token
  | '+' => some .plus
  | '-' => some .minus
  | '*' => some .times
  | '=' => some .assign
  | '(' => some .leftParen
  | ')' => some .rightParen
  | ';' => some .semicolon
  | _ => none

/-- A token and the line it stands on. -/
structure Located where
  token : Token
  line : Nat
  deriving DecidableEq

/-- The kind of a located token. -/
abbrev Located.kind (t : Located) : Kind :=
  t.token.kind

end Reckoner
