import Pinpoint.Text.Basic

/-!
# Highlighted tokens

A token is a piece of source text with a class, and most classes have a color.
A colored token is painted piece by piece between line breaks of any kind, and
a newline itself is always written outside the color.
-/

namespace Pinpoint.Highlight

inductive TokenClass
  | text
  | whitespace
  | deleted
  | inserted
  | heading
  | subheading
  | invalid
deriving DecidableEq, Repr

/-- The sequence that switches a class's color on. -/
def TokenClass.color? : TokenClass → Option Text
  | .text => none
  | .whitespace => some "\x1b[37m".toList
  | .deleted => some "\x1b[91m".toList
  | .inserted => some "\x1b[32m".toList
  | .heading => some "\x1b[01m".toList
  | .subheading => some "\x1b[01m\x1b[35m".toList
  | .invalid => some "\x1b[04m\x1b[91m".toList

/-- The sequence that ends any color. -/
def colorEnd : Text := "\x1b[39;49;00m".toList

structure Token where
  cls : TokenClass
  text : Text
deriving DecidableEq, Repr

/-- The characters after which a line break falls; carriage returns are already gone. -/
def isBreak (c : Char) : Bool :=
  c = '\n' || c = '\x0b' || c = '\x0c' || c = '\x1c' || c = '\x1d' || c = '\x1e' ||
    c = '\u0085' || c = '\u2028' || c = '\u2029'

/-- Cut after every break, without an empty last piece. -/
def pieces : Text → List Text
  | [] => []
  | c :: rest =>
    if isBreak c then [c] :: pieces rest
    else match pieces rest with
      | piece :: more => (c :: piece) :: more
      | [] => [[c]]

def TokenClass.paint (cls : TokenClass) (t : Text) : Text :=
  match cls.color? with
  | some color => color ++ t ++ colorEnd
  | none => t

def TokenClass.paintPiece (cls : TokenClass) (piece : Text) : Text :=
  cls.paint (Text.trimEnd '\n' piece) ++ (if piece.getLast? = some '\n' then ['\n'] else [])

def Token.paint (token : Token) : Text :=
  (pieces token.text).flatMap token.cls.paintPiece

end Pinpoint.Highlight
