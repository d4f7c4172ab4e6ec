import Pinpoint.Highlight.Patch
import Pinpoint.Text.Newline

/-!
# Highlighting one source line

The language comes from the file name alone. Only plain text files and patches are
covered, by the endings `.txt`, `.diff` and `.patch`. Names that stand for another
language are left out, also where they have one of these endings: nothing is said of
`main.py`, which is treated as a name of no language, nor of `CMakeLists.txt` and
`todo.txt`, which are treated as plain text.

A file with no known language is shown as it is. Before a line is cut into tokens one
byte order mark at its front is dropped and carriage returns become newlines; newlines
at the end of the painted line are dropped.
-/

namespace Pinpoint.Highlight

inductive Language
  | plain
  | patch
deriving DecidableEq, Repr

/-- The part of a path after its last slash. -/
def baseName (path : Text) : Text :=
  (path.reverse.takeWhile (· ≠ '/')).reverse

/-- The covered language of a file, if its name ends like one. -/
def Language.ofPath? (path : Text) : Option Language :=
  let name := baseName path
  if ".txt".toList.isSuffixOf name then some .plain
  else if ".diff".toList.isSuffixOf name || ".patch".toList.isSuffixOf name then some .patch
  else none

def Language.tokens : Language → Text → List Token
  | .plain, t => [⟨.text, t⟩]
  | .patch, t => Patch.tokens t

def dropMark : Text → Text
  | '\uFEFF' :: rest => rest
  | t => t

def Language.paint (language : Language) (line : Text) : Text :=
  Text.trimEnd '\n' ((language.tokens (Text.Newline.universal (dropMark line))).flatMap Token.paint)

/-- A source line as shown with color on. -/
def line (file : Option Text) (source : Text) : Text :=
  match file.bind Language.ofPath? with
  | some language => if source.isEmpty then source else language.paint source
  | none => source

end Pinpoint.Highlight
