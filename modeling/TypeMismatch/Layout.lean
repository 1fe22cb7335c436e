import TypeMismatch.Layout.Break
import TypeMismatch.Layout.Indent
import TypeMismatch.Layout.Spacing

/-!
# Laying out a type expression

A type expression on one line becomes a block whose indentation shows the nesting of its braces.
Separators inside of brackets stay on their line, so the arguments of a generic type are not split.
A short expression without braces, semicolons and bars stays as it is.
-/

namespace TypeMismatch.Layout

/-- The length from which an expression is always laid out. -/
def shortLength : Nat := 20

/-- A short expression with nothing to break at. -/
def isPlain (cs : List Char) : Bool :=
  cs.length < shortLength && !cs.any fun c => c == '\x7b' || c == ';' || c == '|'

/-- The lines of an expression, before they are indented. -/
def rawLines (cs : List Char) : List (List Char) :=
  (Text.splitAt '\n' (breakLines 0 none (tighten cs))).map Text.trim

def block (style : Style) (cs : List Char) : List Char :=
  Text.trim (Text.joinWith ['\n'] (indentLines style 0 0 (rawLines cs)))

/-- Lays out an expression. -/
def layout (style : Style) (cs : List Char) : List Char :=
  if isPlain cs then cs else block style cs

/-- Lays out an expression given as a string. -/
def format (style : Style) (text : String) : String := String.ofList (layout style text.toList)

/-- Is an expression laid out already? -/
def isFormatted (style : Style) (text : String) : Bool := format style text == text

end TypeMismatch.Layout
