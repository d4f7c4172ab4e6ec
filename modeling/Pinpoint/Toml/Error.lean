import Pinpoint.Text.Numeral
import Pinpoint.Text.Line
import Pinpoint.Text.Quoted
import Pinpoint.Toml.Value

/-!
# Malformed documents

An error has a cause and a place. While a document is read, the place is known
as the text that is left there; afterwards it is a line and a column, both
counted from 1, or the end of the document.
-/

namespace Pinpoint.Toml

inductive Cause
  | invalidStatement
  | lineEndExpected
  | delimiterExpected (delimiter : Text)
  | invalidCharacter (c : Char)
  | illegalCharacter (c : Char)
  | declaredTwice (key : Key)
  | valueOverwritten
  | tableEndExpected
  | arrayTableEndExpected
  | immutable (key : Key)
  | namespaceRedefined (key : Key)
  | equalsExpected
  | invalidKeyStart
  | unclosedArray
  | unclosedInlineTable
  | duplicateKey (name : Text)
  | strayBackslash
  | invalidHex
  | notScalar
  | unterminatedString
  | invalidMoment
  | invalidValue
  | numeralTooLong (digits : Nat)
deriving DecidableEq, Repr

/-- A key as a tuple of its parts. -/
def keyLiteral (key : Key) : Text :=
  '(' :: ", ".toList.intercalate (key.map Text.Quoted.encode) ++
    (if key.length = 1 then [',', ')'] else [')'])

def Cause.message : Cause → Text
  | invalidStatement => "Invalid statement".toList
  | lineEndExpected => "Expected newline or end of document after a statement".toList
  | delimiterExpected delimiter => "Expected ".toList ++ Text.Quoted.encode delimiter
  | invalidCharacter c => "Found invalid character ".toList ++ Text.Quoted.encode [c]
  | illegalCharacter c => "Illegal character ".toList ++ Text.Quoted.encode [c]
  | declaredTwice key => "Cannot declare ".toList ++ keyLiteral key ++ " twice".toList
  | valueOverwritten => "Cannot overwrite a value".toList
  | tableEndExpected => "Expected ']' at the end of a table declaration".toList
  | arrayTableEndExpected => "Expected ']]' at the end of an array declaration".toList
  | immutable key => "Cannot mutate immutable namespace ".toList ++ keyLiteral key
  | namespaceRedefined key => "Cannot redefine namespace ".toList ++ keyLiteral key
  | equalsExpected => "Expected '=' after a key in a key/value pair".toList
  | invalidKeyStart => "Invalid initial character for a key part".toList
  | unclosedArray => "Unclosed array".toList
  | unclosedInlineTable => "Unclosed inline table".toList
  | duplicateKey name => "Duplicate inline table key ".toList ++ Text.Quoted.encode name
  | strayBackslash => "Unescaped '\\' in a string".toList
  | invalidHex => "Invalid hex value".toList
  | notScalar => "Escaped character is not a Unicode scalar value".toList
  | unterminatedString => "Unterminated string".toList
  | invalidMoment => "Invalid date or datetime".toList
  | invalidValue => "Invalid value".toList
  | numeralTooLong digits =>
    Text.Numeral.limitMessage (": value has ".toList ++ Text.Numeral.ofNat digits ++ " digits".toList)

inductive Place
  | documentEnd
  | at (line column : Nat)
deriving DecidableEq, Repr

def Place.message : Place → Text
  | documentEnd => "end of document".toList
  | .at line column =>
    "line ".toList ++ Text.Numeral.ofNat line ++ ", column ".toList ++ Text.Numeral.ofNat column

/-- The place in a source at which this much of it is left. -/
def Place.ofRest (source rest : Text) : Place :=
  let offset := source.length - rest.length
  if rest.isEmpty then documentEnd
  else .at (source.lineNumberAt offset) (offset - source.lineBegin offset + 1)

structure Error where
  cause : Cause
  place : Place
deriving DecidableEq, Repr

/-- An overlong numeral is reported without its place. -/
def Error.message (e : Error) : Text :=
  match e.cause with
  | .numeralTooLong _ => e.cause.message
  | _ => e.cause.message ++ " (at ".toList ++ e.place.message ++ [')']

end Pinpoint.Toml
