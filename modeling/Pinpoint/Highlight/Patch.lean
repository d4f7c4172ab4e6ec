import Pinpoint.Highlight.Token
import Pinpoint.Text.Digit
import Pinpoint.Text.Line

/-!
# Patches

In a patch the first characters of a line say what the line is. Only a line with
its newline is recognised; the characters of an unfinished last line are invalid
tokens, one for each.
-/

namespace Pinpoint.Highlight.Patch

def startsWithDigit (t : Text) : Bool :=
  t.head?.any Text.Digit.isDecimal

/-- The text after a comma and a line number, or the whole text without them. -/
def dropSecond : Text → Text
  | ',' :: rest => if startsWithDigit rest then rest.dropWhile Text.Digit.isDecimal else ',' :: rest
  | t => t

/-- A change command such as `5a6,7`; its first line number has a single digit. -/
def isCommand : Text → Bool
  | [] => false
  | digit :: rest =>
    match dropSecond rest with
    | [] => false
    | letter :: target =>
      Text.Digit.isDecimal digit && (letter = 'a' || letter = 'c' || letter = 'd') &&
        startsWithDigit target && (dropSecond (target.dropWhile Text.Digit.isDecimal)).isEmpty

def lineClass (line : Text) : TokenClass :=
  match line with
  | '!' :: _ => .text
  | ['-', '-', '-'] => .text
  | '-' :: _ => .deleted
  | '<' :: ' ' :: _ => .deleted
  | '+' :: _ => .inserted
  | '>' :: ' ' :: _ => .inserted
  | '@' :: _ => .subheading
  | '=' :: _ => .heading
  | _ =>
    if isCommand line then .subheading
    else if "Index".toList.isPrefixOf line || "index".toList.isPrefixOf line ||
        "diff".toList.isPrefixOf line then .heading
    else .text

/-- The tokens of a line that had a newline. -/
def lineTokens (line : Text) : List Token :=
  let body : List Token :=
    match line with
    | ' ' :: rest => [⟨.whitespace, [' ']⟩, ⟨.text, rest⟩]
    | _ => [⟨lineClass line, line⟩]
  body.filter (fun token => !token.text.isEmpty) ++ [⟨.whitespace, ['\n']⟩]

def tokens (t : Text) : List Token :=
  t.lines.dropLast.flatMap lineTokens ++ ((t.lines.getLast?).getD []).map fun c => ⟨.invalid, [c]⟩

end Pinpoint.Highlight.Patch
