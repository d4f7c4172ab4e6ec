import Pinpoint.Decimal.Layout
import Pinpoint.Toml.Moment

/-!
# Values of a document

A table is a list of entries in the order of their first mention, and no key
occurs twice in it. Tables and arrays nest.
-/

namespace Pinpoint.Toml

abbrev Key := List Text

inductive Value
  | string (text : Text)
  | integer (number : Int)
  | float (number : Decimal.Binary64)
  | boolean (truth : Bool)
  | date (date : Date)
  | time (time : Time)
  | datetime (date : Date) (time : Time) (offset : Option Int)
  | array (items : List Value)
  | table (entries : List (Text × Value))
deriving Repr

namespace Value

-- Equality is not derived through the lists that values nest in, so it is compared here.
mutual

/-- Whether two values are of one type and have the same contents, in the same order. -/
def same : Value → Value → Bool
  | .string a, .string b => a = b
  | .integer m, .integer n => m = n
  | .float x, .float y => x = y
  | .boolean a, .boolean b => a = b
  | .date d, .date e => d = e
  | .time s, .time t => s = t
  | .datetime d s o, .datetime e t p => d = e && s = t && o = p
  | .array xs, .array ys => sameItems xs ys
  | .table xs, .table ys => sameEntries xs ys
  | _, _ => false

def sameItems : List Value → List Value → Bool
  | [], [] => true
  | x :: xs, y :: ys => same x y && sameItems xs ys
  | _, _ => false

def sameEntries : List (Text × Value) → List (Text × Value) → Bool
  | [], [] => true
  | (key, x) :: xs, (other, y) :: ys => key = other && same x y && sameEntries xs ys
  | _, _ => false

end

mutual

theorem same_iff (x y : Value) : same x y = true ↔ x = y := by
  cases x with
  | array items => cases y <;> simp [same, sameItems_iff items]
  | table entries => cases y <;> simp [same, sameEntries_iff entries]
  | _ => cases y <;> simp [same, and_assoc]

theorem sameItems_iff (xs ys : List Value) : sameItems xs ys = true ↔ xs = ys := by
  cases xs with
  | nil => cases ys <;> simp [sameItems]
  | cons x xs => cases ys <;> simp [sameItems, same_iff x, sameItems_iff xs]

theorem sameEntries_iff (xs ys : List (Text × Value)) : sameEntries xs ys = true ↔ xs = ys := by
  cases xs with
  | nil => cases ys <;> simp [sameEntries]
  | cons x xs =>
    cases ys <;> simp [sameEntries, Prod.ext_iff, same_iff x.2, sameEntries_iff xs, and_assoc]

end

instance : DecidableEq Value := fun x y => decidable_of_iff _ (same_iff x y)

end Value

abbrev Table := List (Text × Value)

namespace Table

def get? (t : Table) (name : Text) : Option Value :=
  t.lookup name

def put (t : Table) (name : Text) (value : Value) : Table :=
  match t with
  | [] => [(name, value)]
  | (key, old) :: rest => if key = name then (key, value) :: rest else (key, old) :: put rest name value

/-- A new entry is found, and the others stay as they were. -/
theorem get?_put (t : Table) (name other : Text) (value : Value) :
    (t.put name value).get? other = if other = name then some value else t.get? other := by
  induction t with
  | nil =>
    by_cases h : other = name
    · simp [put, get?, h]
    · simp [put, get?, h]
  | cons entry rest ih =>
    obtain ⟨key, old⟩ := entry
    simp only [get?] at ih
    by_cases hk : key = name
    · by_cases h : other = name
      · simp [put, get?, hk, h]
      · have hb : (other == name) = false := by simpa using h
        simp [put, get?, hk, h, List.lookup_cons, hb]
    · by_cases ho : other = key
      · simp [put, get?, hk, ho]
      · have hb : (other == key) = false := by simpa using ho
        simp [put, get?, hk, List.lookup_cons, hb, ih]

end Table

end Pinpoint.Toml
