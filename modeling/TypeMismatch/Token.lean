import TypeMismatch.Text.Quoted

/-!
# Tokens of type expressions

A type expression is a sequence of words and delimiters.  A delimiter is a token of its own; a word
is a run of other characters that are not blank.  A token keeps its text and no place: layout is
rebuilt from the structure.
-/

namespace TypeMismatch

inductive TokenKind where
  | word
  | openBrace
  | closeBrace
  | bar
  | semicolon
  | colon
  | comma
  | less
  | greater
  | openBracket
  | closeBracket
  | openParenthesis
  | closeParenthesis
  /-- Stands at the end of an expression that was too long. -/
  | cut
  deriving DecidableEq

namespace TokenKind

def name : TokenKind → String
  | .word => "IDENTIFIER"
  | .openBrace => "LBRACE"
  | .closeBrace => "RBRACE"
  | .bar => "PIPE"
  | .semicolon => "SEMICOLON"
  | .colon => "COLON"
  | .comma => "COMMA"
  | .less => "LT"
  | .greater => "GT"
  | .openBracket => "LBRACKET"
  | .closeBracket => "RBRACKET"
  | .openParenthesis => "LPAREN"
  | .closeParenthesis => "RPAREN"
  | .cut => "TRUNCATED"

def all : List TokenKind :=
  [.word, .openBrace, .closeBrace, .bar, .semicolon, .colon, .comma, .less, .greater, .openBracket,
    .closeBracket, .openParenthesis, .closeParenthesis, .cut]

def ofName? (name : String) : Option TokenKind := all.find? (·.name == name)

/-- The kind of a delimiter; any other character is none. -/
def ofDelimiter? : Char → Option TokenKind
  | '\x7b' => some .openBrace
  | '\x7d' => some .closeBrace
  | '|' => some .bar
  | ';' => some .semicolon
  | ':' => some .colon
  | ',' => some .comma
  | '<' => some .less
  | '>' => some .greater
  | '[' => some .openBracket
  | ']' => some .closeBracket
  | '(' => some .openParenthesis
  | ')' => some .closeParenthesis
  | _ => none

end TokenKind

/-- A token: its kind and its text. -/
structure Token where
  kind : TokenKind
  text : String
  deriving DecidableEq

namespace Token

/-- The text of the token that stands for what was cut off. -/
def ellipsis : String := "..."

/-- The token at the end of an expression that was too long. -/
def cut : Token := ⟨.cut, ellipsis⟩

def word (run : List Char) : Token := ⟨.word, String.ofList run⟩

def isDelimiter (t : Token) : Bool := t.kind != .word && t.kind != .cut

/-- Does the token stand for what was cut off? -/
def isCut (t : Token) : Bool := t.kind == .cut

def describe (t : Token) : String := s!"Token({t.kind.name}, " ++ Text.quote t.text ++ ")"

end Token

end TypeMismatch
