import Pinpoint.Toml.Scan

/-!
# Texts in a document

A literal text stands between single quotes and has no escapes; a basic text
stands between double quotes and has them. Both exist on one line and, with
tripled quotes, on several.
-/

namespace Pinpoint.Toml

def hexValue? (c : Char) : Option Nat :=
  if '0' ≤ c ∧ c ≤ '9' then some (c.toNat - '0'.toNat)
  else if 'a' ≤ c ∧ c ≤ 'f' then some (c.toNat - 'a'.toNat + 10)
  else if 'A' ≤ c ∧ c ≤ 'F' then some (c.toNat - 'A'.toNat + 10)
  else none

def hexNumber (digits : Text) : Nat :=
  digits.foldl (fun n c => 16 * n + (hexValue? c).getD 0) 0

/-- A character given by a fixed number of hexadecimal digits. -/
def hexCharacter (width : Nat) : Scan Text := fun rest =>
  let digits := rest.take width
  let after := rest.drop width
  if digits.length < width || digits.any fun c => (hexValue? c).isNone then .error ⟨.invalidHex, rest⟩
  else
    let n := hexNumber digits
    if n.isValidChar then .ok ([Char.ofNat n], after) else .error ⟨.notScalar, after⟩

def namedEscape? : Char → Option Char
  | 'b' => some '\x08'
  | 't' => some '\t'
  | 'n' => some '\n'
  | 'f' => some '\x0c'
  | 'r' => some '\r'
  | '"' => some '"'
  | '\\' => some '\\'
  | _ => none

/-- A backslash at the end of a line swallows the white space up to the next visible character. -/
def lineContinuation : Scan Text := do
  skipBlanks
  match ← get with
  | [] => return []
  | '\n' :: _ => do
    Scan.skipWhile isBlankOrNewline
    return []
  | _ => Scan.fail .strayBackslash

/-- What stands for an escape, after its backslash. -/
def escape (severalLines : Bool) : Scan Text := do
  match ← get with
  | [] => Scan.fail .strayBackslash
  | c :: rest =>
    if severalLines && isBlankOrNewline c then lineContinuation
    else do
      set rest
      if c = 'u' then hexCharacter 4
      else if c = 'U' then hexCharacter 8
      else match namedEscape? c with
        | some plain => return [plain]
        | none => Scan.fail .strayBackslash

def tripleQuote : Text := ['"', '"', '"']

/-- A basic text after its opening quotes, closing quotes included. -/
def basicBody (severalLines : Bool) : Nat → Scan Text
  | 0 => Scan.fail .unterminatedString
  | fuel + 1 => do
    match ← get with
    | [] => Scan.fail .unterminatedString
    | '"' :: rest =>
      if !severalLines then do
        set rest
        return []
      else if ← Scan.accept tripleQuote then return []
      else do
        set rest
        return '"' :: (← basicBody severalLines fuel)
    | '\\' :: rest => do
      set rest
      return (← escape severalLines) ++ (← basicBody severalLines fuel)
    | c :: rest =>
      if (if severalLines then isIllegalInLines c else isIllegal c) then Scan.fail (.illegalCharacter c)
      else do
        set rest
        return c :: (← basicBody severalLines fuel)

/-- Every round takes at least one character. -/
def basicText (severalLines : Bool) : Scan Text := do
  basicBody severalLines ((← get).length + 1)

/-- One or two quotes may stand directly before the closing three. -/
def closingQuotes (quote : Char) : Scan Text := do
  if ← Scan.accept [quote] then
    if ← Scan.accept [quote] then return [quote, quote] else return [quote]
  else return []

def lineText : Scan Text := do
  let _ ← Scan.accept ['"']
  basicText false

def lineLiteral : Scan Text := do
  let _ ← Scan.accept ['\'']
  takeUntil ['\''] isIllegal

/-- A newline directly after the opening quotes is not part of the text. -/
def linesText : Scan Text := do
  let _ ← Scan.accept tripleQuote
  let _ ← Scan.accept ['\n']
  let body ← basicText true
  return body ++ (← closingQuotes '"')

def tripleApostrophe : Text := ['\'', '\'', '\'']

def linesLiteral : Scan Text := do
  let _ ← Scan.accept tripleApostrophe
  let _ ← Scan.accept ['\n']
  let body ← takeUntil tripleApostrophe isIllegalInLines
  return body ++ (← closingQuotes '\'')

end Pinpoint.Toml
