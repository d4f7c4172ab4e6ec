import Pinpoint.Config.Basic

/-!
# Finding the configuration

The configuration that applies is in the nearest directory that holds a file of
the right name, from the start directory upwards; a directory of that name is
passed over. Where there is none the defaults apply, but a file that cannot be
read as a configuration is an error and never passed over, and so is a name that
is too long to look for.
-/

namespace Pinpoint.Config

/-- A configuration file with its contents. -/
structure Source where
  path : Text
  bytes : List UInt8
deriving DecidableEq, Repr

/-- The bytes of a file by its full path. -/
def fileAt? (t : FileTree) (path : Text) (location : FileTree.Location) (parts : List Text) :
    Except Error (Option (List UInt8)) :=
  (t.fileAt? path location parts).mapError (.unreadable · path)

/-- The file of this name in a directory. -/
def sourceIn? (t : FileTree) (name : Text) (directory : Path) : Except Error (Option Source) := do
  let path := t.joined directory name
  let bytes? ← fileAt? t path (t.origin directory name) (FileTree.parts name)
  return bytes?.map (⟨path, ·⟩)

/-- The directory that a search starts from; a file stands for its directory. -/
def startDirectory (t : FileTree) (path : Path) : Except Error Path := do
  match ← fileAt? t (t.written path) (.inside []) path with
  | some _ => return path.dropLast
  | none => return path

/-- The nearest file of this name, seen from a path written in the working directory. -/
def find (t : FileTree) (directory : Path) (start : Text) (name : Text) : Except Error Source := do
  if start.contains '\x00' then .error (.unreadable .zeroByte start)
  else
    match t.resolve directory start with
    | .inside path =>
      let start ← startDirectory t path
      match ← (FileTree.upward start).findSomeM? (sourceIn? t name) with
      | some source => .ok source
      | none => .error (.notFound name (t.written start))
    | _ => .error (.notFound name start)

/-- The configuration in a file named by a path. -/
def load (t : FileTree) (directory : Path) (path : Text) : Except Error Config := do
  let path := FileTree.tidy path
  let bytes ← (t.read directory path).mapError (.unreadable · path)
  ofBytes path bytes

/-- The nearest configuration with the path of its file, if there is one. -/
def nearest? (t : FileTree) (directory : Path) (start : Text) : Except Error (Option (Text × Config)) :=
  match find t directory start fileName with
  | .ok source => (ofBytes source.path source.bytes).map fun config => some (source.path, config)
  | .error (.notFound _ _) => .ok none
  | .error e => .error e

/-- The nearest configuration, or the defaults. -/
def discover (t : FileTree) (directory : Path) (start : Text) : Except Error Config :=
  (nearest? t directory start).map fun found => (found.map (·.2)).getD {}

end Pinpoint.Config
