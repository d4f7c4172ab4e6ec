import Pinpoint.Text.Integer
import Pinpoint.Toml.Quotation

/-!
# Numbers, dates and times in a document

Each reader looks at the front of a text and returns what it found there with
the text after it. Digits are the ten ASCII ones; single underscores may stand
between the digits of a number.
-/

namespace Pinpoint.Toml

def isDigit (c : Char) : Bool := '0' ≤ c && c ≤ '9'

def isHexDigit (c : Char) : Bool := (hexValue? c).isSome

def isOctalDigit (c : Char) : Bool := '0' ≤ c && c ≤ '7'

def isBinaryDigit (c : Char) : Bool := c = '0' || c = '1'

/-- Further digits of a number without their underscores, and the rest. -/
def moreDigits (p : Char → Bool) : Text → Text × Text
  | [] => ([], [])
  | [c] => if p c then ([c], []) else ([], [c])
  | c :: d :: rest =>
    if p c then
      let (digits, after) := moreDigits p (d :: rest)
      (c :: digits, after)
    else if c = '_' && p d then
      let (digits, after) := moreDigits p rest
      (d :: digits, after)
    else ([], c :: d :: rest)

/-- At least one digit. -/
def digits? (p : Char → Bool) : Text → Option (Text × Text)
  | [] => none
  | c :: rest =>
    if p c then
      let (digits, after) := moreDigits p rest
      some (c :: digits, after)
    else none

/-- The number that digits denote in a base. -/
def numberIn (base : Nat) (digits : Text) : Nat :=
  digits.foldl (fun n c => base * n + (hexValue? c).getD 0) 0

/-- An integer with a base, such as `0x1F`. -/
def based? : Text → Option (Value × Text)
  | '0' :: c :: rest =>
    let read (base : Nat) (p : Char → Bool) : Option (Value × Text) :=
      (digits? p rest).map fun (digits, after) => (.integer (numberIn base digits), after)
    if c = 'x' then read 16 isHexDigit
    else if c = 'o' then read 8 isOctalDigit
    else if c = 'b' then read 2 isBinaryDigit
    else none
  | _ => none

/-- Whether a number is negative, and the text after its sign. -/
def sign : Text → Bool × Text
  | '-' :: rest => (true, rest)
  | '+' :: rest => (false, rest)
  | t => (false, t)

/-- Digits without a leading zero, or a single zero. -/
def whole? : Text → Option (Text × Text)
  | '0' :: rest => some (['0'], rest)
  | t => digits? isDigit t

def fraction? : Text → Option (Text × Text)
  | '.' :: rest => digits? isDigit rest
  | _ => none

def exponent? : Text → Option (Int × Text)
  | c :: rest =>
    if c = 'e' || c = 'E' then
      let (negative, rest) := sign rest
      (digits? isDigit rest).map fun (digits, after) =>
        let n : Int := numberIn 10 digits
        (if negative then -n else n, after)
    else none
  | [] => none

/-- A decimal number; it is a float as soon as it has a fraction or an exponent. -/
def decimal? (t : Text) : Option (Except Cause Value × Text) := do
  let (negative, t) := sign t
  let (whole, rest) ← whole? t
  let fraction := fraction? rest
  let rest := (fraction.map (·.2)).getD rest
  let exponent := exponent? rest
  let rest := (exponent.map (·.2)).getD rest
  let places := (fraction.map (·.1)).getD []
  if fraction.isNone && exponent.isNone then
    let n : Int := numberIn 10 whole
    if Text.Numeral.maxDigits < whole.length then some (.error (.numeralTooLong whole.length), rest)
    else some (.ok (.integer (if negative then -n else n)), rest)
  else
    let power := (exponent.map (·.1)).getD 0 - places.length
    some (.ok (.float (.ofDecimal negative (numberIn 10 (whole ++ places)) power)), rest)

def special? (t : Text) : Option (Value × Text) :=
  let (negative, rest) := sign t
  if "inf".toList.isPrefixOf rest then some (.float (.infinite negative), rest.drop 3)
  else if "nan".toList.isPrefixOf rest then some (.float .nan, rest.drop 3)
  else none

/-- A number of exactly two digits within bounds. -/
def pair? (low high : Nat) : Text → Option (Nat × Text)
  | c :: d :: rest =>
    let n := numberIn 10 [c, d]
    if isDigit c && isDigit d && low ≤ n && n ≤ high then some (n, rest) else none
  | _ => none

def expect? (c : Char) : Text → Option Text
  | d :: rest => if d = c then some rest else none
  | [] => none

/-- The first six digits after a point; the others are read and dropped. -/
def microseconds (t : Text) : Nat × Text :=
  match t with
  | '.' :: rest =>
    let digits := rest.takeWhile isDigit
    if digits.isEmpty then (0, t)
    else (numberIn 10 ((digits ++ List.replicate 6 '0').take 6), rest.dropWhile isDigit)
  | _ => (0, t)

def time? (t : Text) : Option (Time × Text) := do
  let (hour, t) ← pair? 0 23 t
  let (minute, t) ← pair? 0 59 (← expect? ':' t)
  let (second, t) ← pair? 0 59 (← expect? ':' t)
  let (microsecond, t) := microseconds t
  return ({ hour, minute, second, microsecond }, t)

def date? (t : Text) : Option (Date × Text) := do
  let year := t.take 4
  guard (year.length = 4 && year.all isDigit)
  let (month, t) ← pair? 1 12 (← expect? '-' (t.drop 4))
  let (day, t) ← pair? 1 31 (← expect? '-' t)
  return ({ year := numberIn 10 year, month, day }, t)

/-- Minutes from universal time. -/
def zone? : Text → Option (Int × Text)
  | c :: rest =>
    if c = 'Z' || c = 'z' then some (0, rest)
    else if c = '+' || c = '-' then do
      let (hours, rest) ← pair? 0 23 rest
      let (minutes, rest) ← pair? 0 59 (← expect? ':' rest)
      let offset : Int := (60 * hours + minutes : Nat)
      return (if c = '-' then -offset else offset, rest)
    else none
  | [] => none

/-- The time of day after a date and one separating character. -/
def dayTime? : Text → Option (Time × Text)
  | c :: rest => if c = 'T' || c = 't' || c = ' ' then time? rest else none
  | [] => none

/-- A date with as much of a time and an offset as follows it. -/
def dated? (t : Text) : Option (Except Cause Value × Text) := do
  let (date, rest) ← date? t
  let checked (v : Value) : Except Cause Value := if date.isReal then .ok v else .error .invalidMoment
  match dayTime? rest with
  | none => some (checked (.date date), rest)
  | some (time, rest) =>
    match zone? rest with
    | none => some (checked (.datetime date time none), rest)
    | some (offset, rest) => some (checked (.datetime date time (some offset)), rest)

/-- What starts with a digit, a sign or a letter and is no truth value. Dates are tried
before times, and both before numbers. A malformed date is reported at its start. -/
def plainValue : Scan Value := fun t =>
  let finish : Except Cause Value × Text → Except Failure (Value × Text)
    | (.ok value, rest) => .ok (value, rest)
    | (.error cause, _) => .error ⟨cause, t⟩
  match dated? t with
  | some found => finish found
  | none =>
    match time? t with
    | some (time, rest) => .ok (.time time, rest)
    | none =>
      match based? t with
      | some found => .ok found
      | none =>
        match decimal? t with
        | some found => finish found
        | none =>
          match special? t with
          | some found => .ok found
          | none => .error ⟨.invalidValue, t⟩

end Pinpoint.Toml
