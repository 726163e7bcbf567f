/-
# ComposeSite.Host.FileTree -- the files a program sees

Files, directories and listening sockets stand at locations, which are the names
on the way from the root.  A path is walked name by name: every name before the
last must lead to a directory, and a double dot goes back to the directory above.
-/
import ComposeSite.IoFailure
import ComposeSite.Path
import ComposeSite.Text.Utf8

set_option autoImplicit false

namespace ComposeSite.Host

/-- The names on the way from the root. -/
abbrev Location := List String

inductive Entry where
  | file (content : Bytes) (executable : Bool)
  | directory
  | socket
  deriving DecidableEq, Repr

/-- Entries with their locations, and the directory that relative paths start from. An
entry implies the directories on its way. -/
structure FileTree where
  entries : List (Location × Entry)
  workDirectory : Location
  deriving Repr

namespace FileTree

/-- Directories that are always there. -/
def systemDirectories : List Location :=
  [[], ["bin"], ["dev"], ["etc"], ["home"], ["lib"], ["opt"], ["proc"], ["root"], ["run"],
   ["sbin"], ["srv"], ["sys"], ["tmp"], ["usr"], ["usr", "bin"], ["usr", "lib"],
   ["usr", "local"], ["usr", "local", "bin"], ["usr", "sbin"], ["var"], ["var", "run"]]

def entry? (t : FileTree) (l : Location) : Option Entry :=
  match t.entries.lookup l with
  | some e => some e
  | none =>
      if l.isPrefixOf t.workDirectory || systemDirectories.contains l ||
          t.entries.any (fun (here, _) => l.isPrefixOf here) then some .directory
      else none

/-- The longest name that a directory takes, in octets. -/
def longestName : Nat := 255

def longestPath : Nat := 4095

def walk (t : FileTree) : Location → List String → Except IoFailure (Location × Entry)
  | here, [] =>
      match t.entry? here with
      | some e => .ok (here, e)
      | none => .error .notFound
  | here, name :: rest =>
      match t.entry? here with
      | some .directory =>
          if name = "" ∨ name = "." then walk t here rest
          else if name = ".." then walk t here.dropLast rest
          else if name.utf8ByteSize > longestName then .error (.system 36)
          else walk t (here ++ [name]) rest
      | some _ => .error .notDirectory
      | none => .error .notFound

/-- The location that a path names, seen from a directory, if everything on the way is a
directory. -/
def locate (start : Location) (path : String) : Location :=
  (Path.parts path).foldl (fun here name =>
    if name = "." then here else if name = ".." then here.dropLast else here ++ [name])
    (if Path.isAbsoluteChars path.toList then [] else start)

/-- What a path leads to, seen from a directory. -/
def resolveFrom (t : FileTree) (start : Location) (path : String) :
    Except IoFailure (Location × Entry) :=
  if path.isEmpty then .error .notFound
  else if path.toList.contains '\x00' then
    .error (.other "file name contained an unexpected NUL byte")
  else if path.utf8ByteSize > longestPath then .error (.system 36)
  else t.walk (if Path.isAbsoluteChars path.toList then [] else start) (Text.parts '/' path)

def resolve (t : FileTree) (path : String) : Except IoFailure (Location × Entry) :=
  t.resolveFrom t.workDirectory path

def contains (t : FileTree) (path : String) : Bool :=
  match t.resolve path with
  | .ok _ => true
  | .error _ => false

def readOctets (t : FileTree) (path : String) : Except IoFailure Bytes :=
  match t.resolve path with
  | .ok (_, .file content _) => .ok content
  | .ok (_, .directory) => .error .isDirectory
  | .ok (_, .socket) => .error (.system 6)
  | .error f => .error f

def readText (t : FileTree) (path : String) : Except IoFailure String := do
  let content ← t.readOctets path
  match Text.Utf8.decode? content with
  | some s => pure s
  | none => throw .notText

def longestSocketPath : Nat := 107

def listens (t : FileTree) (path : String) : Bool :=
  match t.resolve path with
  | .ok (_, .socket) => path.utf8ByteSize ≤ longestSocketPath
  | _ => false

/-- Checks that a socket can be made at a path: nothing stands there, and the directory on
the way is there. The empty path stands for a socket without a name. -/
def checkFree (t : FileTree) (path : String) : Except IoFailure Unit :=
  if path.isEmpty then .ok ()
  else if path.toList.contains '\x00' then
    .error (.other "paths must not contain interior null bytes")
  else if path.utf8ByteSize > longestSocketPath then
    .error (.other "path must be shorter than SUN_LEN")
  else
    match t.resolve path with
    | .ok _ => .error .addressInUse
    | .error .notFound =>
        let above := (Path.parent? path).getD ""
        match t.resolve (if above.isEmpty then "." else above) with
        | .ok (_, .directory) => if path.endsWith "/" then .error .notFound else .ok ()
        | .ok _ => .error .notDirectory
        | .error f => .error f
    | .error f => .error f

/-- The names in a directory, without order or repetition. -/
def names (t : FileTree) (l : Location) : List String :=
  (t.entries.filterMap fun (here, _) =>
    if l.isPrefixOf here then here[l.length]? else none).eraseDups

end FileTree

end ComposeSite.Host
