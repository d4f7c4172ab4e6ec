import Pinpoint.Text.Newline
import Pinpoint.Toml.Insertion
import Pinpoint.Toml.Number

/-!
# Documents

A document is a list of statements: entries, and headers that say to which table
the next entries belong. What a header may open depends on what was written
before, and the reader keeps that as sets of keys beside the root table.

Pairs of a carriage return and a newline count as newlines. `parse` gives the
root table or the first error with its place.
-/

namespace Pinpoint.Toml

def isBareKeyChar (c : Char) : Bool :=
  ('a' ≤ c && c ≤ 'z') || ('A' ≤ c && c ≤ 'Z') || isDigit c || c = '-' || c = '_'

def isKeyStart (c : Char) : Bool := isBareKeyChar c || c = '"' || c = '\''

def keyPart : Scan Text := do
  match (← get).head? with
  | some '"' => lineText
  | some '\'' => lineLiteral
  | some c => if isBareKeyChar c then Scan.takeWhile isBareKeyChar else Scan.fail .invalidKeyStart
  | none => Scan.fail .invalidKeyStart

/-- Parts with points between them; the blanks after the last part are skipped too. -/
def keyParts : Nat → Scan Key
  | 0 => Scan.fail .invalidKeyStart
  | fuel + 1 => do
    let part ← keyPart
    skipBlanks
    if ← Scan.accept ['.'] then
      skipBlanks
      return part :: (← keyParts fuel)
    else return [part]

def key : Scan Key := do
  keyParts ((← get).length + 1)

def trueWord : Text := "true".toList

def falseWord : Text := "false".toList

/-- Arrays and inline tables are closed to later statements. -/
def Value.isClosed : Value → Bool
  | .array _ => true
  | .table _ => true
  | _ => false

/-- An inline table that is being read, with the keys of its closed values. -/
structure Inline where
  entries : Table := []
  closed : List Key := []

/-- Enters a pair, unless it would reach into a closed value or repeat a key. -/
def Inline.enter (t : Inline) (key : Key) (value : Value) : Except Cause Inline :=
  if isUnder t.closed key then .error (.immutable key)
  else
    let (path, name) := key.split
    (t.entries.modifyAt false (Table.insert (.duplicateKey name) name value) path).map fun entries =>
      { entries, closed := if value.isClosed then key :: t.closed else t.closed }

/-- Fails where the scan stands if the cause is given. -/
def orFail {α : Type} : Except Cause α → Scan α
  | .ok a => return a
  | .error cause => Scan.fail cause

mutual

def value : Nat → Scan Value
  | 0 => Scan.fail .invalidValue
  | fuel + 1 => do
    let rest ← get
    match rest with
    | '"' :: _ =>
      return .string (← if tripleQuote.isPrefixOf rest then linesText else lineText)
    | '\'' :: _ =>
      return .string (← if tripleApostrophe.isPrefixOf rest then linesLiteral else lineLiteral)
    | '[' :: after => do
      set after
      skipFiller
      return .array (← items fuel)
    | '\x7b' :: after => do
      set after
      skipBlanks
      if ← Scan.accept ['\x7d'] then return .table []
      else return .table (← pairs fuel {})
    | _ =>
      if ← Scan.accept trueWord then return .boolean true
      else if ← Scan.accept falseWord then return .boolean false
      else plainValue

/-- The items up to the closing bracket; a comma may stand after the last one. -/
def items : Nat → Scan (List Value)
  | 0 => Scan.fail .unclosedArray
  | fuel + 1 => do
    if ← Scan.accept [']'] then return []
    let item ← value fuel
    skipFiller
    if ← Scan.accept [']'] then return [item]
    if ← Scan.accept [','] then
      skipFiller
      return item :: (← items fuel)
    Scan.fail .unclosedArray

/-- The pairs up to the closing brace; no comma may stand after the last one. -/
def pairs : Nat → Inline → Scan Table
  | 0, _ => Scan.fail .unclosedInlineTable
  | fuel + 1, t => do
    let (key, value) ← pair fuel
    let t ← orFail (t.enter key value)
    skipBlanks
    if ← Scan.accept ['\x7d'] then return t.entries
    if ← Scan.accept [','] then
      skipBlanks
      pairs fuel t
    else Scan.fail .unclosedInlineTable

def pair : Nat → Scan (Key × Value)
  | 0 => Scan.fail .equalsExpected
  | fuel + 1 => do
    let key ← key
    if ← Scan.accept ['='] then
      skipBlanks
      return (key, ← value fuel)
    else Scan.fail .equalsExpected

end

/-- A document that is being read. `opened` are the tables that no header may open again,
`closed` the values that nothing may be added to, and `touched` the tables that the entries
since the last header have made. -/
structure Draft where
  root : Table := []
  header : Key := []
  opened : List Key := []
  closed : List Key := []
  touched : List Key := []

namespace Draft

/-- The tables that an entry with this key goes through, the outermost first. -/
def tablesOnWay (header key : Key) : List Key :=
  (List.range (key.length - 1)).map fun i => header ++ key.take (i + 1)

def enter (d : Draft) (key : Key) (value : Value) : Except Cause Draft :=
  let way := tablesOnWay d.header key
  let (path, name) := key.split
  let target := d.header ++ path
  match way.find? d.opened.contains with
  | some table => .error (.namespaceRedefined table)
  | none =>
    if isUnder d.closed target then .error (.immutable target)
    else
      (d.root.modifyAt true (Table.insert .valueOverwritten name value) target).map fun root =>
        { d with
          root
          touched := way ++ d.touched
          closed := if value.isClosed then (d.header ++ key) :: d.closed else d.closed }

/-- Tables made by entries are settled when the next header comes. -/
def settle (d : Draft) : Draft :=
  { d with opened := d.touched ++ d.opened, touched := [] }

def openTable (d : Draft) (key : Key) : Except Cause Draft :=
  if d.opened.contains key || isUnder d.closed key then .error (.declaredTwice key)
  else (d.root.openAt key).map fun root => { d with root, header := key, opened := key :: d.opened }

/-- A new table of an array starts afresh, so what was known below the key is forgotten. -/
def openArrayTable (d : Draft) (key : Key) : Except Cause Draft :=
  if isUnder d.closed key then .error (.immutable key)
  else
    let (path, name) := key.split
    (d.root.modifyAt true (Table.appendTable name) path).map fun root =>
      { d with
        root
        header := key
        opened := key :: d.opened.filter (!key.isPrefixOf ·)
        closed := d.closed.filter (!key.isPrefixOf ·) }

end Draft

def header (d : Draft) : Scan Draft := do
  let _ ← Scan.accept ['[']
  if ← Scan.accept ['['] then
    skipBlanks
    let key ← key
    let d ← orFail (d.openArrayTable key)
    if ← Scan.accept [']', ']'] then return d else Scan.fail .arrayTableEndExpected
  else
    skipBlanks
    let key ← key
    let d ← orFail (d.openTable key)
    if ← Scan.accept [']'] then return d else Scan.fail .tableEndExpected

def statement (fuel : Nat) (d : Draft) : Scan Draft := do
  match (← get).head? with
  | some '[' => header d.settle
  | some '#' => return d
  | some c =>
    if isKeyStart c then
      let (key, value) ← pair fuel
      orFail (d.enter key value)
    else Scan.fail .invalidStatement
  | none => return d

/-- Lines of at most one statement each. -/
def statements (fuel : Nat) : Nat → Draft → Scan Draft
  | 0, d => return d
  | lines + 1, d => do
    skipBlanks
    match ← get with
    | [] => return d
    | '\n' :: rest => do
      set rest
      statements fuel lines d
    | _ =>
      let d ← statement fuel d
      skipBlanks
      skipComment
      match ← get with
      | [] => return d
      | '\n' :: rest => do
        set rest
        statements fuel lines d
      | _ => Scan.fail .lineEndExpected

/-- The root table of a document. Every second step of the value reader and every statement
takes a character, which bounds both by the length. -/
def parse (t : Text) : Except Error Table :=
  let source := Text.Newline.joinPairs t
  match statements (2 * source.length + 3) (source.length + 1) {} source with
  | .ok (d, _) => .ok d.root
  | .error failure => .error ⟨failure.cause, .ofRest source failure.rest⟩

end Pinpoint.Toml
