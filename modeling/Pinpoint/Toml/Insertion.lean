import Pinpoint.Toml.Error

/-!
# Entering values at keys

A key of several parts names a table inside tables. Tables on the way are made
when they are missing, and an array on the way stands for its last table.
`modifyAt` changes the table behind a key and fails where something else is in
the way.
-/

namespace Pinpoint.Toml

/-- The last table of an array, and the items before it. -/
def lastTable? (items : List Value) : Option (List Value × Table) :=
  match items.getLast? with
  | some (.table entries) => some (items.dropLast, entries)
  | _ => none

namespace Table

def modifyAt (throughArrays : Bool) (f : Table → Except Cause Table) : Key → Table → Except Cause Table
  | [], t => f t
  | name :: path, t =>
    match t.get? name with
    | none => (modifyAt throughArrays f path []).map fun inner => t.put name (.table inner)
    | some (.table inner) =>
      (modifyAt throughArrays f path inner).map fun inner => t.put name (.table inner)
    | some (.array items) =>
      match lastTable? items with
      | some (before, inner) =>
        if throughArrays then
          (modifyAt throughArrays f path inner).map fun inner => t.put name (.array (before ++ [.table inner]))
        else .error .valueOverwritten
      | none => .error .valueOverwritten
    | some _ => .error .valueOverwritten

/-- Makes sure that a table stands behind the key. -/
def openAt (t : Table) (key : Key) : Except Cause Table :=
  modifyAt true .ok key t

/-- Adds an empty table to the array with this name. -/
def appendTable (name : Text) (t : Table) : Except Cause Table :=
  match t.get? name with
  | none => .ok (t.put name (.array [.table []]))
  | some (.array items) => .ok (t.put name (.array (items ++ [.table []])))
  | some _ => .error .valueOverwritten

/-- Adds a value under a new name. -/
def insert (taken : Cause) (name : Text) (value : Value) (t : Table) : Except Cause Table :=
  match t.get? name with
  | none => .ok (t.put name value)
  | some _ => .error taken

end Table

/-- The part of a key that names the table, and the name in that table. -/
def Key.split (key : Key) : Key × Text :=
  (key.dropLast, (key.getLast?).getD [])

/-- Whether a key or one of the tables on its way is marked. -/
def isUnder (marked : List Key) (key : Key) : Bool :=
  marked.any (·.isPrefixOf key)

end Pinpoint.Toml
