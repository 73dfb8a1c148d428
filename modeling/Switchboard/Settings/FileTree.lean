/-
  Switchboard.Settings.FileTree
  ─────────────────────────────
  **A TREE OF FILES, SEEN FROM A WORKING DIRECTORY.**

  Directories and files are found by the names that lead to them from the
  root.  An absolute path starts at the root, any other in the working
  directory, and `..` leads to the directory above; above the root there is
  the root itself.

      working directory  /home/user
      cfg/core.json            home  user  cfg  core.json
      ../cfg/core.json         home  cfg  core.json
      /cfg/core.json           cfg  core.json

  A file holds a text, or bytes that are no text.  There are no links, and the
  process may read and write everywhere.  Operations either succeed or fail
  with a reason.

  Two limits count bytes: a name has at most 255, and a path as it is spelled,
  with all its slashes and dots, at most 4095.  A path that is too long names
  nothing, however short the way is that it describes; one that holds a NUL
  names nothing either.
-/
import Switchboard.Settings.Path

namespace Switchboard

/-! ## §1. The tree. -/

/-- What a file holds. -/
inductive Content where
  | text (value : String)
  /-- Bytes that are no UTF-8 text. -/
  | bytes (value : List UInt8)
  deriving DecidableEq, Repr

/-- The content of bytes: a text if they are one. -/
def Content.ofBytes (bs : List UInt8) : Content :=
  match String.fromUTF8? (ByteArray.mk bs.toArray) with
  | some s => .text s
  | none => .bytes bs

/-- What stands at a place of the tree. -/
inductive Node where
  | directory
  | file (content : Content)
  deriving DecidableEq, Repr

/-- A place of the tree: the names that lead to it from the root. -/
abbrev Place := List String

/-- A tree of files and a place in it. -/
structure FileTree where
  /-- Where paths start that are not absolute. -/
  workingDirectory : Place := []
  /-- The places at which something stands, the working directory and all directories above it
  left out. -/
  nodes : List (Place × Node) := []
  deriving DecidableEq, Repr, Inhabited

namespace FileTree

/-- What stands at a place.  The working directory is always there, and so is every directory on
the way to it, the root first. -/
def node? (place : Place) (t : FileTree) : Option Node :=
  if place.isPrefixOf t.workingDirectory then some .directory else t.nodes.lookup place

/-- Whether a directory stands at a place. -/
def isDirectory (place : Place) (t : FileTree) : Bool := t.node? place == some .directory

/-- Puts something at a place. -/
def put (place : Place) (node : Node) (t : FileTree) : FileTree :=
  { t with nodes := (place, node) :: t.nodes.filter (·.1 != place) }

/-! ## §2. Finding places. -/

/-- The greatest number of bytes in a name. -/
def maxNameBytes : Nat := 255

/-- The greatest number of bytes in a path. -/
def maxPathBytes : Nat := 4095

/-- Whether a name can be given to a file or directory. -/
def isName (name : String) : Bool := decide (name.utf8ByteSize ≤ maxNameBytes)

/-- Why a text cannot be used as a path, if it cannot. -/
def pathDefect? (path : String) : Option String :=
  if path.toList.contains '\x00' then some "file name contained an unexpected NUL byte"
  else if maxPathBytes < path.utf8ByteSize then some "File name too long"
  else none

/-- Where a path starts. -/
def start (path : String) (t : FileTree) : Place :=
  if Path.isAbsolute path then [] else t.workingDirectory

/-- The place of names that lead through directories. -/
def walk (t : FileTree) (place : Place) : List String → Option Place
  | [] => some place
  | ".." :: rest => walk t place.dropLast rest
  | name :: rest =>
    if isName name && t.isDirectory (place ++ [name]) then walk t (place ++ [name]) rest else none

/-- The place that a path names, which need not exist; the directory that holds it does. -/
def locate (t : FileTree) (path : String) : Option Place :=
  if path = "" ∨ (pathDefect? path).isSome then none
  else
    match (Path.names path).getLast? with
    | none => some (t.start path)
    | some ".." => t.walk (t.start path) (Path.names path)
    | some name =>
      if isName name then
        (t.walk (t.start path) (Path.names path).dropLast).map (· ++ [name])
      else none

/-- What a path names, if it exists. -/
def lookup (t : FileTree) (path : String) : Option Node :=
  match (t.locate path).bind (t.node? ·) with
  | some (.file content) => if Path.namesDirectory path then none else some (.file content)
  | found => found

/-- Whether something stands at a path. -/
def isThere (t : FileTree) (path : String) : Bool := (t.lookup path).isSome

/-! ## §3. Reading and writing. -/

/-- The text of a file. -/
def readText (t : FileTree) (path : String) : Except String String :=
  match t.lookup path with
  | none => .error "No such file or directory"
  | some .directory => .error "Is a directory"
  | some (.file (.bytes _)) => .error "stream did not contain valid UTF-8"
  | some (.file (.text s)) => .ok s

/-- Writes a file, in place of an older one. -/
def write (path : String) (content : Content) (t : FileTree) : Except String FileTree :=
  match t.locate path with
  | none => .error "No such file or directory"
  | some place =>
    if t.isDirectory place || Path.namesDirectory path then .error "Is a directory"
    else .ok (t.put place (.file content))

/-- Why no directory can be made where a file stands: the name is taken, or does not lead on to the
names behind it. -/
def blockedByFile (behind : List String) : String :=
  if behind.isEmpty then "File exists" else "Not a directory"

/-- Makes the directories that names lead through, as far as they are missing; the tree keeps
those made before a failure. -/
def makeDirectories (t : FileTree) (place : Place) : List String → Except String Unit × FileTree
  | [] => (.ok (), t)
  | ".." :: rest => makeDirectories t place.dropLast rest
  | name :: rest =>
    let next := place ++ [name]
    if !isName name then (.error "File name too long", t)
    else
      match t.node? next with
      | some .directory => makeDirectories t next rest
      | some (.file _) => (.error (blockedByFile rest), t)
      | none => makeDirectories (t.put next .directory) next rest

/-- Makes the directory of a path and all above it, as far as they are missing.  The path does not
end in a lone dot; none that `Path.parent?` gives does. -/
def createDirectories (path : String) (t : FileTree) : Except String Unit × FileTree :=
  match pathDefect? path with
  | some reason => (.error reason, t)
  | none => t.makeDirectories (t.start path) (Path.names path)

end FileTree

end Switchboard
