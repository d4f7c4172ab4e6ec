import Pinpoint.Toml.Error

/-!
# Scanning a document

A scan takes characters off the front of the text or fails at the text that is
left. The scans here skip blanks and comments and look for delimiters; values and
statements are built from them.
-/

namespace Pinpoint.Toml

/-- A cause, and the text left where it arose. -/
structure Failure where
  cause : Cause
  rest : Text
deriving DecidableEq, Repr

abbrev Scan := StateT Text (Except Failure)

namespace Scan

def fail {α : Type} (cause : Cause) : Scan α :=
  fun rest => .error ⟨cause, rest⟩

/-- Takes the given characters off the front, if they are there. -/
def accept (expected : Text) : Scan Bool := fun rest =>
  if expected.isPrefixOf rest then .ok (true, rest.drop expected.length) else .ok (false, rest)

def skipWhile (p : Char → Bool) : Scan Unit := fun rest =>
  .ok ((), rest.dropWhile p)

def takeWhile (p : Char → Bool) : Scan Text := fun rest =>
  .ok (rest.takeWhile p, rest.dropWhile p)

end Scan

def isBlank (c : Char) : Bool := c = ' ' || c = '\t'

def isBlankOrNewline (c : Char) : Bool := isBlank c || c = '\n'

def isControl (c : Char) : Bool := c.toNat < 32 || c.toNat = 127

/-- Characters that may not stand in a comment or in a text of one line. -/
def isIllegal (c : Char) : Bool := isControl c && c ≠ '\t'

/-- Characters that may not stand in a text of several lines. -/
def isIllegalInLines (c : Char) : Bool := isControl c && c ≠ '\t' && c ≠ '\n'

def skipBlanks : Scan Unit := Scan.skipWhile isBlank

/-- The text before and after the first occurrence of a delimiter. -/
def breakOn (delimiter : Text) : Text → Option (Text × Text)
  | [] => if delimiter.isEmpty then some ([], []) else none
  | c :: rest =>
    if delimiter.isPrefixOf (c :: rest) then some ([], (c :: rest).drop delimiter.length)
    else (breakOn delimiter rest).map fun (before, after) => (c :: before, after)

/-- Takes everything before the delimiter and the delimiter itself. -/
def takeUntil (delimiter : Text) (illegal : Char → Bool) : Scan Text := fun rest =>
  match breakOn delimiter rest with
  | none => .error ⟨.delimiterExpected delimiter, []⟩
  | some (before, after) =>
    match before.find? illegal with
    | some c => .error ⟨.invalidCharacter c, rest.dropWhile (!illegal ·)⟩
    | none => .ok (before, after)

/-- Skips a comment, if one starts here, up to its newline. -/
def skipComment : Scan Unit := fun rest =>
  match rest with
  | '#' :: body =>
    match (body.takeWhile (· ≠ '\n')).find? isIllegal with
    | some c => .error ⟨.invalidCharacter c, body.dropWhile (!isIllegal ·)⟩
    | none => .ok ((), body.dropWhile (· ≠ '\n'))
  | _ => .ok ((), rest)

/-- What may stand between the items of an array: blanks, newlines and comments. -/
def skipFillerFrom (inComment : Bool) : Text → Except Failure Text
  | [] => .ok []
  | c :: rest =>
    if inComment then
      if c = '\n' then skipFillerFrom false rest
      else if isIllegal c then .error ⟨.invalidCharacter c, c :: rest⟩
      else skipFillerFrom true rest
    else if c = '#' then skipFillerFrom true rest
    else if isBlankOrNewline c then skipFillerFrom false rest
    else .ok (c :: rest)

def skipFiller : Scan Unit := fun rest =>
  (skipFillerFrom false rest).map fun rest => ((), rest)

end Pinpoint.Toml
