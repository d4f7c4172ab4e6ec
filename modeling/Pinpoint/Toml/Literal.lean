import Pinpoint.Text.Numeral
import Pinpoint.Text.Quoted
import Pinpoint.Toml.Value

/-!
# Values in messages

Messages show a value as a literal: texts quoted, numbers in their shortest
form, and arrays and tables in brackets. The words for truth values, dates and
kinds are part of the message format. A value that holds an overlong integer is
not shown.
-/

namespace Pinpoint.Toml

/-- Floats switch to an exponent below `1e-4` and from `1e16` on. -/
def floatLayout : Decimal.Layout where
  positionalFrom := -4
  positionalBelow := 16
  exponentDigits := 2

def commaSeparated (items : List Text) : Text :=
  ", ".toList.intercalate items

def dateFields (d : Date) : List Text :=
  [d.year, d.month, d.day].map Text.Numeral.ofNat

/-- Seconds are left out when nothing follows the minutes, microseconds when they are zero. -/
def timeFields (t : Time) : List Text :=
  ([t.hour, t.minute] ++
    (if t.second = 0 ∧ t.microsecond = 0 then [] else [t.second]) ++
    (if t.microsecond = 0 then [] else [t.microsecond])).map Text.Numeral.ofNat

def secondsPerDay : Int := 86400

/-- An offset from universal time; a negative one is a day back and the rest forward. -/
def zoneLiteral (minutes : Int) : Text :=
  if minutes = 0 then "datetime.timezone.utc".toList
  else
    let seconds := minutes * 60
    "datetime.timezone(datetime.timedelta(".toList ++
      (if seconds < 0 then "days=-1, seconds=".toList ++ Text.Numeral.ofInt (seconds + secondsPerDay)
      else "seconds=".toList ++ Text.Numeral.ofInt seconds) ++ "))".toList

def call (name : String) (fields : List Text) : Text :=
  name.toList ++ '(' :: commaSeparated fields ++ [')']

namespace Value

mutual

def literal : Value → Text
  | string text => Text.Quoted.encode text
  | integer number => Text.Numeral.ofInt number
  | float number => floatLayout.write number
  | boolean truth => if truth then "True".toList else "False".toList
  | date d => call "datetime.date" (dateFields d)
  | time t => call "datetime.time" (timeFields t)
  | datetime d t offset =>
    call "datetime.datetime" (dateFields d ++ timeFields t ++
      offset.toList.map fun minutes => "tzinfo=".toList ++ zoneLiteral minutes)
  | array items => '[' :: commaSeparated (itemLiterals items) ++ [']']
  | table entries => '\x7b' :: commaSeparated (entryLiterals entries) ++ ['\x7d']

def itemLiterals : List Value → List Text
  | [] => []
  | item :: rest => literal item :: itemLiterals rest

def entryLiterals : List (Text × Value) → List Text
  | [] => []
  | (key, value) :: rest => (Text.Quoted.encode key ++ ": ".toList ++ literal value) :: entryLiterals rest

end

mutual

/-- Whether every integer in a value is short enough to be shown. How deep the value is
nested is not looked at: the depth at which showing it exhausts the stack is left out. -/
def isShowable : Value → Bool
  | integer number => Text.Numeral.isShort number
  | array items => allShowable items
  | table entries => allEntriesShowable entries
  | _ => true

def allShowable : List Value → Bool
  | [] => true
  | item :: rest => isShowable item && allShowable rest

def allEntriesShowable : List (Text × Value) → Bool
  | [] => true
  | (_, value) :: rest => isShowable value && allEntriesShowable rest

end

/-- The kind of a value, as messages name it. -/
def kindName : Value → Text
  | string _ => "str".toList
  | integer _ => "int".toList
  | float _ => "float".toList
  | boolean _ => "bool".toList
  | date _ => "datetime.date".toList
  | time _ => "datetime.time".toList
  | datetime _ _ _ => "datetime.datetime".toList
  | array _ => "list".toList
  | table _ => "table".toList

end Value

end Pinpoint.Toml
