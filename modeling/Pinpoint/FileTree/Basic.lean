import Pinpoint.Text.Numeral
import Pinpoint.Text.Quoted
import Pinpoint.Text.Utf8

/-!
# File trees

A file tree is a value: files and directories at paths below one top directory.
Every directory on the way to an entry exists. Looking up a written path walks
through the tree, and each step needs a directory to stand on; resolving a path
only removes its dots and needs nothing to exist.

Names and paths have a greatest length in bytes. A path that is too long is
refused before the walk and a name when the walk comes to it, so what is wrong
further up is found first. A path with a zero byte is never looked up.

What lies above the top directory is unknown: one may climb there, but not find
anything.
-/

namespace Pinpoint

/-- The names from the top directory down. -/
abbrev Path := List Text

inductive Node
  | file (bytes : List UInt8)
  | directory
deriving DecidableEq, Repr

structure FileTree where
  /-- How the top directory is written. -/
  top : Text
  entries : List (Path × Node)
deriving DecidableEq, Repr

namespace FileTree

def lookup? (t : FileTree) (p : Path) : Option Node :=
  match t.entries.lookup p with
  | some node => some node
  | none => if p.isEmpty || t.entries.any (p.isPrefixOf ·.1) then some .directory else none

/-- The tree with a node at a path. -/
def place (t : FileTree) (p : Path) (node : Node) : FileTree :=
  { t with entries := (p, node) :: t.entries }

inductive Location
  | inside (path : Path)
  | above
  | nowhere
deriving DecidableEq, Repr

def Location.step (location : Location) (part : Text) : Location :=
  if part.isEmpty || part = ['.'] then location
  else if part = ['.', '.'] then
    match location with
    | inside [] => above
    | inside path => inside path.dropLast
    | _ => above
  else
    match location with
    | inside path => inside (path ++ [part])
    | _ => nowhere

def nodeAt? (t : FileTree) : Location → Option Node
  | .inside path => t.lookup? path
  | .above => some .directory
  | .nowhere => none

inductive LookupError
  | absent
  | notDirectory
  | isDirectory
  | nameTooLong
  | zeroByte
deriving DecidableEq, Repr

def LookupError.message (e : LookupError) (path : Text) : Text :=
  match e with
  | absent => "[Errno 2] No such file or directory: ".toList ++ Text.Quoted.encode path
  | notDirectory => "[Errno 20] Not a directory: ".toList ++ Text.Quoted.encode path
  | isDirectory => "[Errno 21] Is a directory: ".toList ++ Text.Quoted.encode path
  | nameTooLong => "[Errno 36] File name too long: ".toList ++ Text.Quoted.encode path
  | zeroByte => "embedded null byte".toList

def maxNameBytes : Nat := 255

def maxPathBytes : Nat := 4095

def byteLength (t : Text) : Nat :=
  (Text.Utf8.encode t).length

/-- Refuses a written path that is not even looked up. -/
def vet (path : Text) : Except LookupError Unit :=
  if path.contains '\x00' then .error .zeroByte
  else if maxPathBytes < byteLength path then .error .nameTooLong
  else .ok ()

/-- Follows the parts of a path one by one. -/
def walk (t : FileTree) (location : Location) : List Text → Except LookupError Location
  | [] => .ok location
  | part :: rest =>
    match t.nodeAt? location with
    | none => .error .absent
    | some (.file _) => .error .notDirectory
    | some .directory =>
      if maxNameBytes < byteLength part then .error .nameTooLong
      else walk t (location.step part) rest

/-- The node at the end of a walk. -/
def follow (t : FileTree) (location : Location) (parts : List Text) : Except LookupError Node := do
  match t.nodeAt? (← t.walk location parts) with
  | some node => .ok node
  | none => .error .absent

def isAbsolute (path : Text) : Bool :=
  path.head? = some '/'

/-- Where a path written in a directory starts. A path from the very top is known only in a
tree whose top directory has no name. -/
def origin (t : FileTree) (directory : Path) (path : Text) : Location :=
  if isAbsolute path then (if t.top.isEmpty then .inside [] else .above) else .inside directory

/-- The node that a path written in a directory leads to. -/
def stat (t : FileTree) (directory : Path) (path : Text) : Except LookupError Node := do
  vet path
  if path.isEmpty then .error .absent else t.follow (t.origin directory path) (path.fields '/')

/-- The bytes of the file that parts lead to, if they lead to one. Of what can go wrong only a
length is an error here; the path is how the whole of it is written. -/
def fileAt? (t : FileTree) (path : Text) (location : Location) (parts : List Text) :
    Except LookupError (Option (List UInt8)) :=
  match (vet path).bind fun _ => t.follow location parts with
  | .ok (.file bytes) => .ok (some bytes)
  | .error .nameTooLong => .error .nameTooLong
  | _ => .ok none

def read (t : FileTree) (directory : Path) (path : Text) : Except LookupError (List UInt8) := do
  match ← t.stat directory path with
  | .file bytes => .ok bytes
  | .directory => .error .isDirectory

/-- A path without its dots, as if every directory on the way existed. -/
def resolve (t : FileTree) (directory : Path) (path : Text) : Location :=
  (path.fields '/').foldl Location.step (t.origin directory path)

/-- The parts of a path that carry information. -/
def parts (path : Text) : List Text :=
  (path.fields '/').filter fun part => !part.isEmpty && part ≠ ['.']

/-- The slashes that a path starts with, where three or more mean no more than one. -/
def leadingSlashes (path : Text) : Text :=
  let slashes := path.takeWhile (· = '/')
  if slashes.length ≤ 2 then slashes else ['/']

/-- A path without empty parts and single dots. -/
def tidy (path : Text) : Text :=
  let tidied := leadingSlashes path ++ ['/'].intercalate (parts path)
  if tidied.isEmpty then ['.'] else tidied

/-- A path below the top directory, written out from there. -/
def written (t : FileTree) (p : Path) : Text :=
  if p.isEmpty && t.top.isEmpty then ['/'] else ['/'].intercalate (t.top :: p)

/-- A path in a directory below the top, written out from there. -/
def joined (t : FileTree) (directory : Path) (path : Text) : Text :=
  if isAbsolute path then tidy path else t.written (directory ++ parts path)

/-- A directory and all directories around it, the innermost first. -/
def upward (p : Path) : List Path :=
  (List.range (p.length + 1)).map fun i => p.take (p.length - i)

end FileTree

end Pinpoint
