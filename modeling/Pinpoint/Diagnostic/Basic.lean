import Pinpoint.Diagnostic.Header
import Pinpoint.Snippet.Basic

/-!
# Diagnostics

A diagnostic is a header, prose, snippets and a link, printed in this order with
one blank line between any two of them. Absent and empty sections leave no
trace. The first snippet that cannot be built fails the whole diagnostic, and so
does a header that cannot be written, before any snippet is looked at.
-/

namespace Pinpoint

structure Diagnostic where
  severity : Diagnostic.Severity := .error
  title : Option Text := none
  code : Option Text := none
  summary : Option Text := none
  description : Option Text := none
  link : Option Text := none
  snippets : List Snippet := []
deriving DecidableEq, Repr

namespace Diagnostic

/-- The snippet at an index, counted from 0, is refused, or something else has failed. -/
inductive Error
  | snippet (index : Nat) (cause : Snippet.Error)
  | read (error : Snippet.ReadError)
  | tooLarge (part : Text.TooLarge)
deriving DecidableEq, Repr

def Error.message : Error → Text
  | .snippet index cause =>
    "code snippet #".toList ++ Text.Numeral.ofNat (index + 1) ++ ": ".toList ++ cause.message
  | .read error => error.message
  | .tooLarge part => part.message

/-- Joins the sections that hold something by a blank line. -/
def joinSections (sections : List (Option Text)) : Text :=
  ['\n', '\n'].intercalate ((sections.filterMap id).filter (!·.isEmpty))

/-- Only a refusal is reported with the index of its snippet. -/
def blockError (index : Nat) : Snippet.Fault → Error
  | .refused cause => .snippet index cause
  | .read error => .read error
  | .tooLarge part => .tooLarge part

/-- The blocks of the snippets, the first of which has this index. -/
def blocks (color : Bool) (index : Nat) : List Snippet → Except Error (List Text)
  | [] => .ok []
  | s :: more => do
    let block ← (s.build color).mapError (blockError index)
    return Text.trimEnd '\n' block :: (← blocks color (index + 1) more)

def footer (d : Diagnostic) : Option Text :=
  d.link.map ("To learn more, read the docs at ".toList ++ ·)

def build (d : Diagnostic) (width : Int) (color : Bool) : Except Error Text := do
  let header ← (header d.severity d.code d.title width color).mapError .tooLarge
  let blocks ← blocks color 0 d.snippets
  return joinSections ([some header, d.summary, d.description] ++ blocks.map some ++ [d.footer])

end Diagnostic

end Pinpoint
