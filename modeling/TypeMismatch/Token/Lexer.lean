import TypeMismatch.Text.Blank
import TypeMismatch.Text.Slice
import TypeMismatch.Token

/-!
# From text to tokens

Blanks separate words and are dropped, and a word is as long as it can be.  An expression longer
than the limit is cut there, and a token that says so comes last; reading never fails.
-/

namespace TypeMismatch

namespace Token

/-- The number of characters beyond which an expression is cut. -/
def maxInputLength : Nat := 10000

/-- The word that has been read, if any, in front of the tokens after it. -/
def endWord (run : List Char) (rest : List Token) : List Token :=
  if run.isEmpty then rest else word run.reverse :: rest

/-- The tokens of a text, `run` being the characters of the current word so far, the last one
first. -/
def scanFrom (run : List Char) : List Char → List Token
  | [] => endWord run []
  | c :: rest =>
    match TokenKind.ofDelimiter? c with
    | some kind => endWord run (⟨kind, String.ofList [c]⟩ :: scanFrom [] rest)
    | none =>
      if Text.isBlank c then endWord run (scanFrom [] rest) else scanFrom (c :: run) rest

def scan (cs : List Char) : List Token := scanFrom [] cs

/-- Is the text longer than the limit? -/
def exceeds (limit : Int) (cs : List Char) : Bool := limit < (cs.length : Int)

/-- The part of a text that is read. -/
def readable (limit : Int) (cs : List Char) : List Char :=
  if exceeds limit cs then Text.upTo limit cs else cs

/-- The tokens of a text up to a limit, and the mark of a cut if there was one. -/
def tokenizeWithin (limit : Int) (text : String) : List Token :=
  let cs := text.toList
  scan (readable limit cs) ++ (if exceeds limit cs then [cut] else [])

def tokenize (text : String) : List Token := tokenizeWithin maxInputLength text

end Token

/-- A reader of one text: how far it has come, and the tokens it has produced. -/
structure Lexer where
  text : String
  limit : Int
  position : Nat
  tokens : List Token

namespace Lexer

/-- A reader that has not read yet. -/
def ofText (text : String) (limit : Int) : Lexer := ⟨text, limit, 0, []⟩

def truncated (l : Lexer) : Bool := Token.exceeds l.limit l.text.toList

/-- The reader after reading its whole text. -/
def scanned (l : Lexer) : Lexer :=
  { l with
    position := (Token.readable l.limit l.text.toList).length,
    tokens := Token.tokenizeWithin l.limit l.text }

/-- The reader with its tokens at hand: one that holds none reads first. -/
def ready (l : Lexer) : Lexer := if l.tokens.isEmpty then l.scanned else l

end Lexer

end TypeMismatch
